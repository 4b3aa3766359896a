import Mathlib.Data.List.TakeWhile
import Specimen.Proofs.Number.Shortest

/-!
# What the text of a number says

Numbers that are shown alike are one number, all not-a-numbers counting as one (`text_eq_iff`): a
sign stands in front, infinities have a word, and any other text is read back as a rational that
rounds to one size only.

The text has letters and digits, points and signs in it and nothing else, so that it ends where a
comma or a bracket stands.
-/

namespace Specimen

/-! ## Positional texts -/

namespace Decimal

/-- What a positional text says: its digits as a whole, over a ten for each behind the point. -/
def readPositional (text : List Char) : ℚ :=
  Nat.ofDigitChars 10 (text.filter (· ≠ '.')) 0 / 10 ^ ((text.dropWhile (· ≠ '.')).drop 1).length

theorem ne_point {text : List Char} (plain : '.' ∉ text) : ∀ c ∈ text, decide (c ≠ '.') = true :=
  fun _ mem => decide_eq_true fun same => plain (same ▸ mem)

/-- Digits without a point are read as a natural. -/
theorem readPositional_whole {whole : List Char} (plain : '.' ∉ whole) :
    readPositional whole = Nat.ofDigitChars 10 whole 0 := by
  rw [readPositional, List.filter_eq_self.mpr (ne_point plain),
    List.dropWhile_eq_nil_iff.mpr (ne_point plain)]
  simp

/-- Digits with a point among them are read as a fraction with a power of ten below. -/
theorem readPositional_point {whole fraction : List Char} (plain : '.' ∉ whole)
    (plain' : '.' ∉ fraction) :
    readPositional (whole ++ '.' :: fraction) =
      Nat.ofDigitChars 10 (whole ++ fraction) 0 / 10 ^ fraction.length := by
  rw [readPositional, List.filter_append, List.filter_cons_of_neg (by decide),
    List.filter_eq_self.mpr (ne_point plain), List.filter_eq_self.mpr (ne_point plain'),
    List.dropWhile_append_of_pos (ne_point plain)]
  rfl

theorem isDigit_of_mem_decimalDigits {n : Nat} {c : Char} (mem : c ∈ decimalDigits n) :
    c.isDigit = true :=
  Nat.isDigit_of_mem_toDigits (by decide) (by decide) mem

/-- No point is among digits, so where one stands is the end of the whole part. -/
theorem point_notMem_decimalDigits (n : Nat) : '.' ∉ decimalDigits n := fun mem =>
  absurd (isDigit_of_mem_decimalDigits mem) (by decide)

/-- The digits of a natural are read back as it. -/
theorem ofDigitChars_decimalDigits (n : Nat) : Nat.ofDigitChars 10 (decimalDigits n) 0 = n :=
  Nat.ofDigitChars_ten_toDigits

/-- A decimal laid out positionally is read back. -/
theorem readPositional_positional (d : Decimal) :
    readPositional (d.positional false) = d.toRat := by
  have plain := point_notMem_decimalDigits d.digits
  have noughts (k : Nat) : '.' ∉ List.replicate k '0' := fun mem =>
    absurd (List.eq_of_mem_replicate mem) (by decide)
  unfold positional toRat
  cases d.exponent with
  | ofNat up =>
    dsimp only
    rw [if_neg Bool.false_ne_true, List.append_nil,
      readPositional_whole (by simp [plain, noughts]), Nat.ofDigitChars_append,
      Nat.ofDigitChars_replicate_zero, ofDigitChars_decimalDigits]
    simp [mul_comm]
  | negSucc down =>
    have power : (10 : ℚ) ^ Int.negSucc down = 1 / 10 ^ (down + 1) := by
      rw [zpow_negSucc, one_div]
    dsimp only
    rw [power, mul_one_div]
    split
    -- fewer digits than places: they stand behind a nought, the point, and noughts to fill up
    case isTrue short =>
      have read : readPositional (['0'] ++ '.' ::
          (List.replicate (down + 1 - (decimalDigits d.digits).length) '0' ++
            decimalDigits d.digits)) = d.digits / 10 ^ (down + 1) := by
        rw [readPositional_point (by decide) (by simp [plain, noughts]), Nat.ofDigitChars_append,
          Nat.ofDigitChars_append, Nat.ofDigitChars_replicate_zero, List.length_append,
          List.length_replicate, Nat.sub_add_cancel short]
        exact congrArg (fun n : Nat => (n : ℚ) / 10 ^ (down + 1)) (ofDigitChars_decimalDigits _)
      exact read
    -- else the point stands among the digits
    case isFalse long =>
      have places : (decimalDigits d.digits).length -
          ((decimalDigits d.digits).length - (down + 1)) = down + 1 := by omega
      rw [readPositional_point (fun mem => plain (List.mem_of_mem_take mem))
        (fun mem => plain (List.mem_of_mem_drop mem)), List.take_append_drop, List.length_drop,
        ofDigitChars_decimalDigits, places]

/-- Digits and a point are all that a positional text has. -/
theorem digit_or_point {d : Decimal} {c : Char} (mem : c ∈ d.positional false) :
    c.isDigit = true ∨ c = '.' := by
  have digit {c : Char} (mem : c ∈ decimalDigits d.digits) : c.isDigit = true :=
    isDigit_of_mem_decimalDigits mem
  have nought {k : Nat} (mem : c ∈ List.replicate k '0') : c.isDigit = true :=
    List.eq_of_mem_replicate mem ▸ by decide
  unfold positional at mem
  cases exponent : d.exponent with
  | ofNat up =>
    rw [exponent] at mem
    simp only [Bool.false_eq_true, if_false, List.append_nil, List.mem_append] at mem
    exact .inl (mem.elim digit nought)
  | negSucc down =>
    rw [exponent] at mem
    dsimp only at mem
    split at mem
    · simp only [List.cons_append, List.mem_cons, List.mem_append] at mem
      rcases mem with rfl | point | mem | mem
      · exact .inl (by decide)
      · exact .inr point
      · exact .inl (nought mem)
      · exact .inl (digit mem)
    · simp only [List.mem_append, List.mem_cons] at mem
      rcases mem with mem | point | mem
      · exact .inl (digit (List.mem_of_mem_take mem))
      · exact .inr point
      · exact .inl (digit (List.mem_of_mem_drop mem))

theorem positional_ne_nil (d : Decimal) : d.positional false ≠ [] := by
  unfold positional
  cases d.exponent with
  | ofNat up =>
    refine fun none => ?_
    simp only [List.append_eq_nil_iff] at none
    exact Nat.toDigits_ne_nil none.1.1
  | negSucc down =>
    dsimp only
    split
    · exact List.cons_ne_nil _ _
    · simp

end Decimal

namespace Number

variable {x y : Number} {c : Char}

/-! ## Sizes -/

theorem sizeText_of_isZero (zero : x.isZero = true) : x.sizeText .display = ['0'] := by
  rw [sizeText, if_pos zero]
  rfl

/-- Any other number is shown by the shortest digits that round to it, written out without an
exponent. -/
theorem sizeText_of_other (other : x.isZero = false) :
    x.sizeText .display = (x.shortest .up).trimmed.positional false := by
  rw [sizeText, if_neg (Bool.eq_false_iff.mp other)]
  rfl

/-- What is read of a size rounds to the number, and to no other of another size. -/
theorem roundsTo_sizeText (x : Number) :
    x.RoundsTo (Decimal.readPositional (x.sizeText .display)) := by
  cases zero : x.isZero with
  | true =>
    have nothing : x.magnitude = 0 := of_decide_eq_true zero
    have significand : x.significand = 0 := by
      rcases x.significand_cases with ⟨_, same, _⟩ | ⟨normal, _⟩
      · rw [same, nothing]
      · rw [exponentField, nothing] at normal
        exact absurd normal (by decide)
    have size : x.size = Decimal.readPositional ['0'] := by
      rw [Number.size, significand, Decimal.readPositional_whole (by decide)]
      simp [Nat.ofDigitChars_cons]
    rw [sizeText_of_isZero zero, ← size]
    exact x.roundsTo_size
  | false =>
    rw [sizeText_of_other zero, Decimal.readPositional_positional, Decimal.toRat_trimmed]
    exact roundsTo_shortest zero .up

/-- No sign is among the digits: a text that begins with one is of a negative number. -/
theorem digit_or_point_of_mem_sizeText (mem : c ∈ x.sizeText .display) :
    c.isDigit = true ∨ c = '.' := by
  cases zero : x.isZero with
  | true =>
    rw [sizeText_of_isZero zero, List.mem_singleton] at mem
    exact .inl (mem ▸ by decide)
  | false =>
    rw [sizeText_of_other zero] at mem
    exact Decimal.digit_or_point mem

theorem sizeText_ne_nil (x : Number) : x.sizeText .display ≠ [] := by
  cases zero : x.isZero with
  | true => exact sizeText_of_isZero zero ▸ List.cons_ne_nil _ _
  | false => exact sizeText_of_other zero ▸ Decimal.positional_ne_nil _

/-! ## Texts -/

/-- A text without the sign. -/
def unsignedText (x : Number) : List Char :=
  if x.isInfinite then "inf".toList else x.sizeText .display

/-- What is shown of a number: three letters, or a sign if there is one and then its size. -/
theorem text_display (x : Number) :
    x.text .display =
      if x.isNaN then "NaN".toList
      else if x.isNegative then '-' :: x.unsignedText else x.unsignedText :=
  rfl

/-- The size of a number can be read off its text, since the digits shown round to no other. -/
theorem magnitude_eq_of_unsignedText (same : x.unsignedText = y.unsignedText) :
    x.magnitude = y.magnitude := by
  -- the word of infinities has a letter, which no size has
  have word {z : Number} : 'i' ∉ z.sizeText .display := fun mem =>
    (digit_or_point_of_mem_sizeText mem).elim (absurd · (by decide)) (absurd · (by decide))
  have letter : 'i' ∈ "inf".toList := by decide
  unfold unsignedText at same
  split at same
  case isTrue infinite =>
    split at same
    case isTrue infinite' =>
      exact (of_decide_eq_true infinite).trans (of_decide_eq_true infinite').symm
    case isFalse => exact absurd (same ▸ letter) word
  case isFalse =>
    split at same
    case isTrue => exact absurd (same ▸ letter) word
    case isFalse => exact magnitude_eq_of_roundsTo x.roundsTo_sizeText (same ▸ y.roundsTo_sizeText)

/-- What a text without its sign begins with. -/
theorem unsignedText_eq_cons (x : Number) : ∃ c rest, x.unsignedText = c :: rest ∧
    (c.isDigit = true ∨ c = '.' ∨ c = 'i') := by
  unfold unsignedText
  split
  case isTrue => exact ⟨'i', _, rfl, .inr (.inr rfl)⟩
  case isFalse =>
    obtain ⟨c, rest, text⟩ := List.exists_cons_of_ne_nil x.sizeText_ne_nil
    refine ⟨c, rest, text, ?_⟩
    exact (digit_or_point_of_mem_sizeText (text ▸ List.mem_cons_self)).imp_right .inl

/-- What a text begins with. -/
theorem text_eq_cons (x : Number) : ∃ c rest, x.text .display = c :: rest ∧
    (c.isDigit = true ∨ c = '.' ∨ c = 'i' ∨ c = 'N' ∨ c = '-') := by
  rw [text_display]
  split
  case isTrue => exact ⟨'N', _, rfl, by simp⟩
  case isFalse =>
    split
    case isTrue => exact ⟨'-', _, rfl, by simp⟩
    case isFalse =>
      obtain ⟨c, rest, text, first⟩ := x.unsignedText_eq_cons
      exact ⟨c, rest, text, first.imp_right (Or.imp_right .inl)⟩

/-- Letters, digits, points and signs are all that a text has. -/
theorem plain_of_mem_text (mem : c ∈ x.text .display) :
    c.isAlphanum = true ∨ c = '.' ∨ c = '-' := by
  have unsigned (mem : c ∈ x.unsignedText) : c.isAlphanum = true ∨ c = '.' ∨ c = '-' := by
    unfold unsignedText at mem
    split at mem
    · have letters : "inf".toList.all Char.isAlphanum = true := by decide
      exact .inl (List.all_eq_true.mp letters c mem)
    · rcases digit_or_point_of_mem_sizeText mem with digit | point
      · exact .inl (by rw [Char.isAlphanum, digit, Bool.or_true])
      · exact .inr (.inl point)
  rw [text_display] at mem
  split at mem
  · have letters : "NaN".toList.all Char.isAlphanum = true := by decide
    exact .inl (List.all_eq_true.mp letters c mem)
  · split at mem
    · exact (List.mem_cons.mp mem).elim (fun sign => .inr (.inr sign)) unsigned
    · exact unsigned mem

/-- Sign and size make a number. -/
theorem eq_of_magnitude_eq (sign : x.isNegative = y.isNegative)
    (magnitude : x.magnitude = y.magnitude) : x = y := by
  have bits : x.bits.toNat = y.bits.toNat := by
    have fits := x.bits.toNat_lt
    have fits' := y.bits.toNat_lt
    simp only [isNegative, decide_eq_decide, Number.magnitude] at sign magnitude
    omega
  exact congrArg Number.mk (UInt64.toNat_inj.mp bits)

theorem text_of_isNaN (nan : x.isNaN = true) : x.text .display = "NaN".toList := by
  rw [text_display, if_pos nan]

/-- A sign stands apart from what any size begins with. -/
theorem sign_ne_unsignedText (rest : List Char) (x : Number) : '-' :: rest ≠ x.unsignedText := by
  obtain ⟨c, others, text, first⟩ := x.unsignedText_eq_cons
  rw [text]
  intro same
  obtain ⟨rfl, -⟩ := List.cons.inj same
  exact absurd first (by decide)

/-- The three letters stand for nothing else. -/
theorem isNaN_of_text (text : x.text .display = "NaN".toList) : x.isNaN = true := by
  rw [text_display] at text
  split at text
  case isTrue nan => exact nan
  case isFalse =>
    split at text
    case isTrue => exact absurd (List.cons.inj text).1 (by decide)
    case isFalse =>
      obtain ⟨c, rest, unsigned, first⟩ := x.unsignedText_eq_cons
      obtain ⟨rfl, -⟩ := List.cons.inj (unsigned.symm.trans text)
      exact absurd first (by decide)

/-- Numbers that are shown alike are one number, all not-a-numbers counting as one. -/
theorem text_eq_iff :
    x.text .display = y.text .display ↔ x = y ∨ x.isNaN = true ∧ y.isNaN = true := by
  constructor
  · intro same
    cases nan : x.isNaN with
    | true => exact .inr ⟨rfl, isNaN_of_text (same ▸ text_of_isNaN nan)⟩
    | false =>
      have nan' : y.isNaN = false := by
        rw [← Bool.not_eq_true] at nan ⊢
        exact fun nan' => nan (isNaN_of_text (same.trans (text_of_isNaN nan')))
      left
      simp only [text_display, nan, nan', Bool.false_eq_true, if_false] at same
      cases sign : x.isNegative <;> cases sign' : y.isNegative
      all_goals simp only [sign, sign', Bool.false_eq_true, if_false, if_true] at same
      · exact eq_of_magnitude_eq (sign.trans sign'.symm) (magnitude_eq_of_unsignedText same)
      · exact absurd same.symm (sign_ne_unsignedText _ x)
      · exact absurd same (sign_ne_unsignedText _ y)
      · exact eq_of_magnitude_eq (sign.trans sign'.symm)
          (magnitude_eq_of_unsignedText (List.cons.inj same).2)
  · rintro (rfl | ⟨nan, nan'⟩)
    · rfl
    · rw [text_of_isNaN nan, text_of_isNaN nan']

/-- A number, but one for all not-a-numbers. -/
def oneNaN (x : Number) : Number := if x.isNaN then nan else x

/-- There are many ways not to be a number, and all are shown alike. -/
theorem text_oneNaN (x : Number) : x.oneNaN.text .display = x.text .display := by
  unfold oneNaN
  split
  case isTrue notNumber =>
    rw [text_of_isNaN notNumber]
    rfl
  case isFalse => rfl

/-- Numbers are told apart but for those ways. -/
theorem oneNaN_eq_oneNaN_iff :
    x.oneNaN = y.oneNaN ↔ x = y ∨ x.isNaN = true ∧ y.isNaN = true := by
  constructor
  · intro same
    apply text_eq_iff.mp
    rw [← text_oneNaN x, ← text_oneNaN y, same]
  · rintro (rfl | ⟨nan, nan'⟩)
    · rfl
    · rw [oneNaN, oneNaN, if_pos nan, if_pos nan']

end Number

end Specimen
