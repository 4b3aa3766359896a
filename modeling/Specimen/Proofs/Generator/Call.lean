import Mathlib.Data.List.Forall2
import Mathlib.Tactic.Common
import Specimen.Generator.Call
import Specimen.Proofs.Value.Display

/-!
# Calls and their bytes

No two calls have the same bytes (`rendering_is_unambiguous`). The seed takes up eight bytes, and
every argument ends at the first byte that no text holds, so that neither what an argument's text is
nor how many arguments there are can be mistaken; and the text of a value is the text of no other.
-/

namespace Specimen

/-! ## Bytes of texts -/

theorem toList_bytes (bytes : ByteArray) : bytes.toList = bytes.data.toList := by
  have loop (i : Nat) (done : List UInt8) :
      ByteArray.toList.loop bytes i done = done.reverse ++ bytes.data.toList.drop i := by
    induction i, done using ByteArray.toList.loop.induct bytes with
    | case1 i done more ih =>
      have next : i < bytes.data.toList.length := more
      have here : bytes.get! i = bytes.data.toList[i] := getElem!_pos bytes.data i next
      rw [ByteArray.toList.loop, if_pos more, ih, List.drop_eq_getElem_cons next, here,
        List.reverse_cons, List.append_assoc]
      rfl
    | case2 i done none =>
      rw [ByteArray.toList.loop, if_neg none, List.drop_of_length_le (Nat.not_lt.mp none),
        List.append_nil]
  exact loop 0 []

theorem toList_toUTF8 (text : String) :
    text.toUTF8.toList = text.toList.flatMap String.utf8EncodeChar := by
  rw [toList_bytes, String.toUTF8_eq_toByteArray, ← String.utf8Encode_toList]
  exact List.toList_data_toByteArray

/-- No text holds the byte that ends an argument. -/
theorem ne_of_mem_toUTF8 {text : String} {byte : UInt8} (mem : byte ∈ text.toUTF8.toList) :
    byte ≠ 0xFF := by
  rw [toList_toUTF8, List.mem_flatMap] at mem
  obtain ⟨c, _, mem⟩ := mem
  have small : byte.toNat < 255 := by
    unfold String.utf8EncodeChar at mem
    dsimp only at mem
    repeat' split at mem
    all_goals
      simp only [List.mem_cons, List.not_mem_nil, or_false] at mem
      rcases mem with rfl | rfl | rfl | rfl <;> rw [UInt8.toNat_ofNat'] <;> omega
  rintro rfl
  exact absurd small (by decide)

/-- The bytes of a text determine it. -/
theorem toUTF8_injective {text other : String} (same : text.toUTF8.toList = other.toUTF8.toList) :
    text = other := by
  rw [toList_bytes, toList_bytes] at same
  exact String.toByteArray_inj.mp (ByteArray.ext (Array.toList_inj.mp same))

namespace Callable

theorem length_wordBytes (word : UInt64) : (wordBytes word).length = 8 := by
  rw [wordBytes, List.length_map, List.length_range]

/-- Naturals of so many bytes are equal when they have the same bytes. -/
theorem eq_of_bytes {count n m : Nat} (fits : n < 2 ^ (8 * count)) (fits' : m < 2 ^ (8 * count))
    (bytes : ∀ i < count, n / 2 ^ (8 * i) % 256 = m / 2 ^ (8 * i) % 256) : n = m := by
  induction count generalizing n m with
  | zero => omega
  | succ count ih =>
    have last : n % 256 = m % 256 := by simpa using bytes 0 (Nat.succ_pos count)
    have power (i : Nat) : 2 ^ (8 * (i + 1)) = 256 * 2 ^ (8 * i) := by
      rw [Nat.mul_succ, Nat.pow_add, Nat.mul_comm]
    rw [power] at fits fits'
    have front : n / 256 = m / 256 := by
      refine ih (Nat.div_lt_of_lt_mul fits) (Nat.div_lt_of_lt_mul fits') fun i less => ?_
      have next := bytes (i + 1) (Nat.succ_lt_succ less)
      rwa [power, ← Nat.div_div_eq_div_mul, ← Nat.div_div_eq_div_mul] at next
    omega

/-- And eight bytes determine their word. -/
theorem wordBytes_injective {word other : UInt64} (same : wordBytes word = wordBytes other) :
    word = other := by
  refine UInt64.toNat_inj.mp (@eq_of_bytes 8 _ _ word.toNat_lt other.toNat_lt fun i less => ?_)
  have bytes := congrArg UInt8.toNat (List.map_inj_left.mp same i (List.mem_range.mpr less))
  rwa [UInt8.toNat_ofNat', UInt8.toNat_ofNat', Nat.shiftRight_eq_div_pow,
    Nat.shiftRight_eq_div_pow] at bytes

/-! ## Arguments -/

/-- The bytes of arguments are those of others when each is shown like the other. -/
theorem arguments_eq_iff {args others : List Value} :
    args.flatMap argumentBytes = others.flatMap argumentBytes ↔
      args.map Value.display = others.map Value.display := by
  constructor
  · intro same
    induction args generalizing others with
    | nil =>
      cases others with
      | nil => rfl
      | cons other others => simp [argumentBytes] at same
    | cons arg args ih =>
      cases others with
      | nil => simp [argumentBytes] at same
      | cons other others =>
        have inside (v : Value) : ∀ byte ∈ v.display.toUTF8.toList, decide (byte ≠ 0xFF) = true :=
          fun byte mem => decide_eq_true (ne_of_mem_toUTF8 mem)
        have ends {rest : List UInt8} :
            ∀ byte ∈ ([0xFF, 0xFF] ++ rest).head?, decide (byte ≠ 0xFF) = false := by
          rintro byte mem
          cases mem
          decide
        simp only [List.flatMap_cons, argumentBytes, List.append_assoc] at same
        obtain ⟨texts, rests⟩ := append_inj_of_ends (inside arg) (inside other) ends ends same
        rw [List.map_cons, List.map_cons, toUTF8_injective texts,
          ih (List.append_cancel_left rests)]
  · intro same
    have shown (args : List Value) : args.flatMap argumentBytes =
        (args.map Value.display).flatMap fun text => text.toUTF8.toList ++ [0xFF, 0xFF] := by
      rw [List.flatMap_map]
      rfl
    rw [shown, shown, same]

/-- Arguments are shown alike exactly if they are the same but for what is not a number. -/
theorem map_display_eq_iff {args others : List Value} :
    args.map Value.display = others.map Value.display ↔
      args.map Value.oneNaN = others.map Value.oneNaN := by
  simp only [← List.forall₂_eq_eq_eq, List.forall₂_map_left_iff, List.forall₂_map_right_iff,
    Value.display_eq_display_iff]

/-- A call's bytes settle its seed and all its arguments. -/
theorem callBytes_eq_iff {callee other : Callable} {args others : List Value} :
    callee.callBytes args = other.callBytes others ↔
      callee = other ∧ args.map Value.oneNaN = others.map Value.oneNaN := by
  rw [← map_display_eq_iff, ← arguments_eq_iff]
  constructor
  · intro same
    obtain ⟨words, rests⟩ := List.append_inj same (by rw [length_wordBytes, length_wordBytes])
    exact ⟨congrArg Callable.mk (wordBytes_injective words), rests⟩
  · rintro ⟨rfl, same⟩
    rw [callBytes, callBytes, same]

end Callable

/-- The rendering of values is unambiguous. Values that are shown alike are one value, constructor
by constructor, with the same members in the same order, the same numbers bit by bit and the same
seeds, all not-a-numbers counting as one; and calls of the same bytes have the same seed and the
same arguments, in that sense. -/
theorem rendering_is_unambiguous :
    (∀ x y : Number, x.oneNaN = y.oneNaN ↔ x = y ∨ x.isNaN = true ∧ y.isNaN = true) ∧
      (∀ v w : Value, v.display = w.display ↔ v.oneNaN = w.oneNaN) ∧
      ∀ (callee other : Callable) (args others : List Value),
        callee.callBytes args = other.callBytes others ↔
          callee = other ∧ args.map Value.oneNaN = others.map Value.oneNaN :=
  ⟨fun _ _ => Number.oneNaN_eq_oneNaN_iff, fun _ _ => Value.display_eq_display_iff,
    fun _ _ _ _ => Callable.callBytes_eq_iff⟩

end Specimen
