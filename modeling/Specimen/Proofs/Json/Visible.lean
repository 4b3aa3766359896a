import Mathlib.Tactic.Common
import Specimen.Json.Writer

/-!
# JSON texts are single lines

No text of a JSON value has a character below the blank in it (`visible_text`), whatever names and
strings stand in the value: strings escape such characters, and numbers are made of digits, points,
signs and letters. So the text of a value is one line (`newline_notMem_text`).
-/

namespace Specimen

/-- Whether a text has no control characters in it. -/
def Visible (text : List Char) : Prop := ∀ c ∈ text, 32 ≤ c.toNat

instance (text : List Char) : Decidable (Visible text) := List.decidableBAll _ text

section Texts

variable {c : Char} {text rest : List Char}

@[simp] theorem visible_nil : Visible [] := nofun

@[simp] theorem visible_cons : Visible (c :: text) ↔ 32 ≤ c.toNat ∧ Visible text :=
  List.forall_mem_cons

@[simp] theorem visible_append : Visible (text ++ rest) ↔ Visible text ∧ Visible rest :=
  List.forall_mem_append

theorem visible_replicate {n : Nat} (seen : 32 ≤ c.toNat) : Visible (List.replicate n c) := by
  intro d mem
  rw [List.eq_of_mem_replicate mem]
  exact seen

/-- It is asked of each character alone, so what is made of visible characters is visible. -/
theorem Visible.subset (seen : Visible text) (sub : rest ⊆ text) : Visible rest :=
  fun c mem => seen c (sub mem)

/-- The reason for asking: a visible text stays on its line. -/
theorem Visible.newline_notMem (seen : Visible text) : '\n' ∉ text :=
  fun mem => absurd (seen '\n' mem) (by decide)

/-! ## Digits -/

theorem visible_of_isDigit (digit : c.isDigit = true) : 32 ≤ c.toNat := by
  rw [Char.isDigit, Bool.and_eq_true, decide_eq_true_iff] at digit
  exact Nat.le_trans (by decide) digit.1

theorem visible_decimalDigits (n : Nat) : Visible (decimalDigits n) :=
  fun _ mem => visible_of_isDigit (Nat.isDigit_of_mem_toDigits (by decide) (by decide) mem)

end Texts

/-! ## Strings -/

/-- The digits of an escape, for the characters that must be escaped because they cannot be seen. -/
theorem visible_paddedHex : ∀ n < 32, Visible (paddedHex 4 n) := by decide

/-- A character stands for itself, or for what is written in its place, which others are made of. -/
theorem visible_escape (c : Char) : Visible (Quoted.escape c) := by
  unfold Quoted.escape
  by_cases seen : 32 ≤ c.toNat
  · rw [if_pos seen]
    split
    · decide
    · split
      · decide
      · exact visible_cons.mpr ⟨seen, visible_nil⟩
  · have code : Visible ('\\' :: 'u' :: paddedHex 4 c.toNat) := by
      refine visible_cons.mpr ⟨by decide, visible_cons.mpr ⟨by decide, ?_⟩⟩
      exact visible_paddedHex c.toNat (Nat.lt_of_not_le seen)
    rw [if_neg seen]
    repeat' split
    all_goals first | exact code | decide

/-- A string between quotes is visible whatever is in it: what cannot be seen is escaped. -/
theorem visible_quoted (text : List Char) : Visible (Quoted.chars text) := by
  rw [Quoted.chars, visible_append, visible_cons]
  refine ⟨⟨by decide, ?_⟩, by simp⟩
  intro c mem
  obtain ⟨d, _, escaped⟩ := List.mem_flatMap.mp mem
  exact visible_escape d c escaped

/-- A name in front of what it names. -/
theorem visible_named (name : String) {rest : List Char} (seen : Visible rest) :
    Visible (Quoted.chars name.toList ++ ':' :: rest) :=
  visible_append.mpr ⟨visible_quoted name.toList, visible_cons.mpr ⟨by decide, seen⟩⟩

/-! ## Numbers -/

/-- Digits, a point and zeros. -/
theorem visible_positional (d : Decimal) (wholeFraction : Bool) :
    Visible (d.positional wholeFraction) := by
  have digits := visible_decimalDigits d.digits
  have noughts (n : Nat) : Visible (List.replicate n '0') := visible_replicate (by decide)
  unfold Decimal.positional
  dsimp only
  split
  · have fraction : Visible (if wholeFraction then ['.', '0'] else []) := by
      cases wholeFraction <;> decide
    exact visible_append.mpr ⟨visible_append.mpr ⟨digits, noughts _⟩, fraction⟩
  · split
    · refine visible_cons.mpr ⟨by decide, visible_cons.mpr ⟨by decide, ?_⟩⟩
      exact visible_append.mpr ⟨noughts _, digits⟩
    · refine visible_append.mpr ⟨digits.subset (List.take_subset _ _), ?_⟩
      exact visible_cons.mpr ⟨by decide, digits.subset (List.drop_subset _ _)⟩

/-- Digits, a point, and an exponent with its sign. -/
theorem visible_scientific (d : Decimal) (plus : Bool) : Visible (d.scientific plus) := by
  have digits := visible_decimalDigits d.digits
  unfold Decimal.scientific
  dsimp only
  refine visible_append.mpr ⟨visible_append.mpr ⟨?_, ?_⟩, visible_decimalDigits _⟩
  · split
    case h_1 first second rest several =>
      rw [several] at digits
      simp only [visible_cons] at digits ⊢
      exact ⟨digits.1, by decide, digits.2⟩
    case h_2 => exact digits
  · refine visible_cons.mpr ⟨by decide, ?_⟩
    split
    · decide
    · cases plus <;> decide

theorem visible_sizeText (x : Number) (layout : Layout) : Visible (x.sizeText layout) := by
  unfold Number.sizeText
  dsimp only
  split
  · cases layout.wholeFraction <;> decide
  · split
    · exact visible_positional _ _
    · split
      · exact visible_positional _ _
      · exact visible_scientific _ _

/-- A number is visible in every layout, also an infinity and what is not a number. -/
theorem visible_number (x : Number) (layout : Layout) : Visible (x.text layout) := by
  unfold Number.text
  dsimp only
  split
  · decide
  · have size : Visible (if x.isInfinite then "inf".toList else x.sizeText layout) := by
      split
      · decide
      · exact visible_sizeText x layout
    split
    · exact visible_cons.mpr ⟨by decide, size⟩
    · exact size

theorem visible_numeral (n : Numeral) : Visible n.chars := by
  cases n with
  | integer i fits =>
    rw [Numeral.chars]
    split
    · exact visible_cons.mpr ⟨by decide, visible_decimalDigits _⟩
    · exact visible_decimalDigits _
  | float x finite => exact visible_number x .json

namespace Json

mutual

/-- Writing a value before a visible text gives a visible text. The text after it is carried along
because that is how the writer goes: from the end to the beginning. -/
theorem visible_write : ∀ (j : Json) {after : List Char}, Visible after → Visible (j.write after)
  | .null, _, seen => by simp [write, seen]
  | .bool true, _, seen => by simp [write, seen]
  | .bool false, _, seen => by simp [write, seen]
  | .number n, _, seen => by simp [write, seen, visible_numeral]
  | .string s, _, seen => by simp [write, seen, visible_quoted]
  | .array [], _, seen => by simp [write, seen]
  | .array (x :: xs), after, seen => by
    rw [write]
    refine visible_cons.mpr ⟨by decide, visible_write x (visible_writeItems xs ?_)⟩
    exact visible_cons.mpr ⟨by decide, seen⟩
  | .object [], _, seen => by simp [write, seen]
  | .object ((k, x) :: rest), _, seen => by
    rw [write]
    refine visible_cons.mpr ⟨by decide, visible_named k (visible_write x ?_)⟩
    exact visible_writeMembers rest (visible_cons.mpr ⟨by decide, seen⟩)

/-- The commas and items up to the bracket that closes an array. -/
theorem visible_writeItems : ∀ (xs : List Json) {after : List Char}, Visible after →
    Visible (writeItems xs after)
  | [], _, seen => seen
  | x :: xs, _, seen =>
    visible_cons.mpr ⟨by decide, visible_write x (visible_writeItems xs seen)⟩

/-- The commas, names and values up to the brace that closes an object. -/
theorem visible_writeMembers : ∀ (members : List (String × Json)) {after : List Char},
    Visible after → Visible (writeMembers members after)
  | [], _, seen => seen
  | (k, x) :: rest, _, seen => by
    rw [writeMembers]
    refine visible_cons.mpr ⟨by decide, visible_named k (visible_write x ?_)⟩
    exact visible_writeMembers rest seen

end

/-- No text of a JSON value has a control character in it. -/
theorem visible_text (j : Json) : Visible j.text.toList := by
  rw [text, String.toList_ofList]
  exact visible_write j visible_nil

/-- The text of a value is a single line. -/
theorem newline_notMem_text (j : Json) : '\n' ∉ j.text.toList :=
  (visible_text j).newline_notMem

end Json

end Specimen
