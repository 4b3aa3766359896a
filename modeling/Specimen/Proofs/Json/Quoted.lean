import Mathlib.Tactic.Common
import Specimen.Json.Reader
import Specimen.Text.Quoted

/-!
# What is quoted is read back

The reader of strings undoes their quoting (`takeString_quoted`): each escape is taken as the
character it stands for, and no escape begins with a quote, so that the first bare quote ends the
string. Two quoted texts are hence the same text as soon as they begin two texts that are the same,
and what follows them is the same as well (`Quoted.chars_append_inj`).
-/

namespace Specimen

namespace Json

variable {c : Char} {rest : List Char}

/-- Four digits at the front are taken, whatever follows. -/
theorem takeHex_append {digits : List Char} {unit : Nat} (taken : takeHex digits = some (unit, []))
    (rest : List Char) : takeHex (digits ++ rest) = some (unit, rest) := by
  match digits, taken with
  | a :: b :: c :: d :: others, taken =>
    simp only [takeHex, Option.bind_eq_bind, Option.bind_eq_some_iff, Option.some.injEq,
      Prod.mk.injEq] at taken
    obtain ⟨a', ha, b', hb, c', hc, d', hd, rfl, rfl⟩ := taken
    simp only [List.cons_append, List.nil_append, takeHex, ha, hb, hc, hd, Option.bind_eq_bind,
      Option.bind_some]

/-- A control character is written with four digits, and is no surrogate. -/
theorem takeUnicode_paddedHex {n : Nat} (control : n < 32) (rest : List Char) :
    takeUnicode (paddedHex 4 n ++ rest) = some (Char.ofNat n, rest) := by
  have written : ∀ n < 32, takeHex (paddedHex 4 n) = some (n, []) := by decide
  unfold takeUnicode
  rw [takeHex_append (written n control)]
  simp only [Option.bind_eq_bind, Option.bind_some]
  rw [if_neg (by omega), if_neg (by omega)]

/-- One escaped character is taken in one step. -/
theorem takeString_escape (fuel : Nat) (c : Char) (rest done : List Char) :
    takeString (fuel + 1) (Quoted.escape c ++ rest) done = takeString fuel rest (c :: done) := by
  by_cases quote : c = '"'
  · subst quote
    rfl
  by_cases backslash : c = '\\'
  · subst backslash
    rfl
  unfold Quoted.escape
  rw [if_neg quote, if_neg backslash]
  by_cases shown : 32 ≤ c.toNat
  · rw [if_pos shown]
    simp [takeString, backslash, Nat.not_lt.mpr shown]
  rw [if_neg shown]
  -- the control characters that have a letter of their own, and the others
  split
  case isTrue => subst c; rfl
  split
  case isTrue => subst c; rfl
  split
  case isTrue => subst c; rfl
  split
  case isTrue back =>
    obtain rfl : c = '\x08' := Char.toNat_inj.mp back
    rfl
  split
  case isTrue feed =>
    obtain rfl : c = '\x0c' := Char.toNat_inj.mp feed
    rfl
  case isFalse =>
    have taken := takeUnicode_paddedHex (Nat.not_le.mp shown) rest
    rw [Char.ofNat_toNat] at taken
    simp only [List.cons_append, takeString, taken]

/-- What is quoted is read back, and what follows the string is left. -/
theorem takeString_quoted {text : List Char} {fuel : Nat} (enough : text.length < fuel)
    (rest done : List Char) :
    takeString fuel (text.flatMap Quoted.escape ++ '"' :: rest) done =
      some (String.ofList (done.reverse ++ text), rest) := by
  induction text generalizing fuel done with
  | nil =>
    obtain ⟨fuel, rfl⟩ := Nat.exists_eq_add_of_lt enough
    rw [List.append_nil]
    rfl
  | cons c text ih =>
    obtain ⟨fuel, rfl⟩ := Nat.exists_eq_succ_of_ne_zero (Nat.ne_of_gt (Nat.zero_lt_of_lt enough))
    rw [List.flatMap_cons, List.append_assoc, takeString_escape, ih (Nat.lt_of_succ_lt_succ enough),
      List.reverse_cons, List.append_assoc]
    rfl

end Json

/-- Where quoted texts begin the same text, they are the same, and so is what follows them. -/
theorem Quoted.chars_append_inj {text other rest rest' : List Char}
    (same : Quoted.chars text ++ rest = Quoted.chars other ++ rest') :
    text = other ∧ rest = rest' := by
  have plain (text rest : List Char) :
      Quoted.chars text ++ rest = '"' :: (text.flatMap Quoted.escape ++ '"' :: rest) := by
    simp only [Quoted.chars, List.cons_append, List.append_assoc, List.nil_append]
  rw [plain, plain] at same
  have read := Json.takeString_quoted (show text.length < text.length + other.length + 1 by omega)
    rest []
  rw [(List.cons.inj same).2, Json.takeString_quoted (by omega) rest' []] at read
  obtain ⟨texts, rests⟩ := Prod.mk.inj (Option.some.inj read)
  exact ⟨(String.ofList_injective texts).symm, rests.symm⟩

end Specimen
