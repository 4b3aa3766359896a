import Mathlib.Algebra.Order.Field.Power
import Mathlib.Algebra.Order.Ring.Abs
import Mathlib.Algebra.Order.Field.Rat
import Mathlib.Tactic.GCongr
import Mathlib.Tactic.Linarith
import Mathlib.Tactic.Positivity
import Mathlib.Tactic.Ring
import Specimen.Number.Nearest

/-!
# Whole numbers and the numbers nearest to them

A whole number of at most sixty-four bits becomes the nearest number (`isNearest_ofInt`): no
finite number is nearer, and of two that are equally near it is the one with the even significand.

Sizes are compared as rationals. A natural of at least `2 ^ e` and less than `2 ^ (e + 1)` is rounded
to a multiple of `2 ^ (e - 52)`, to the nearest one. Numbers of a smaller scale need not be multiples
of that power, but they are smaller than `2 ^ e`, which is one.
-/

namespace Specimen

/-! ## Rounding a quotient -/

/-- A quotient is rounded down or up, to the nearer side, and of two equally near to the even one. -/
theorem roundDivEven_eq (num den : Nat) :
    roundDivEven num den = num / den ∧ 2 * (num % den) ≤ den ∧
        (2 * (num % den) = den → num / den % 2 = 0) ∨
      roundDivEven num den = num / den + 1 ∧ den ≤ 2 * (num % den) ∧
        (2 * (num % den) = den → num / den % 2 = 1) := by
  unfold roundDivEven
  dsimp only
  split
  · left
    omega
  · split
    · right
      omega
    · rcases Nat.mod_two_eq_zero_or_one (num / den) with even | odd
      · left
        omega
      · right
        omega

/-- No multiple is nearer than the one rounded to, and none is as near, unless that one is even. -/
theorem roundDivEven_nearest (num k : Nat) {den : Nat} (pos : 0 < den) :
    ((roundDivEven num den * den : Nat) - num : ℤ).natAbs ≤
        ((k * den : Nat) - num : ℤ).natAbs ∧
      (((k * den : Nat) - num : ℤ).natAbs =
          ((roundDivEven num den * den : Nat) - num : ℤ).natAbs →
        k = roundDivEven num den ∨ roundDivEven num den % 2 = 0) := by
  have parts : num = num / den * den + num % den := (Nat.div_add_mod' num den).symm
  have small : num % den < den := Nat.mod_lt num pos
  have next : (num / den + 1) * den = num / den * den + den := Nat.succ_mul _ _
  -- a multiple is one of the two that the quotient stands between, or at least one further off
  have apart : k = num / den ∨ k * den + den ≤ num / den * den ∨ k = num / den + 1 ∨
      num / den * den + 2 * den ≤ k * den := by
    rcases Nat.lt_trichotomy k (num / den) with below | same | above
    · have := Nat.mul_le_mul_right den (Nat.succ_le_of_lt below)
      rw [Nat.succ_mul] at this
      exact .inr (.inl this)
    · exact .inl same
    · by_cases same : k = num / den + 1
      · exact .inr (.inr (.inl same))
      · have := Nat.mul_le_mul_right den (show num / den + 2 ≤ k by omega)
        rw [Nat.add_mul] at this
        exact .inr (.inr (.inr this))
  rcases roundDivEven_eq num den with ⟨eq, half, tie⟩ | ⟨eq, half, tie⟩
  · rw [eq]
    rcases apart with rfl | below | rfl | above <;> omega
  · rw [eq]
    rcases apart with rfl | below | rfl | above <;> omega

theorem roundDivEven_one (num : Nat) : roundDivEven num 1 = num := by
  rw [roundDivEven, Nat.mod_one, Nat.div_one]
  rfl

/-- Rounding a quotient to a whole number does not pass a whole number below it. -/
theorem le_roundDivEven {num den k : Nat} (pos : 0 < den) (le : k * den ≤ num) :
    k ≤ roundDivEven num den := by
  have le : k ≤ num / den := (Nat.le_div_iff_mul_le pos).mpr le
  rcases roundDivEven_eq num den with ⟨eq, _⟩ | ⟨eq, _⟩ <;> omega

/-- Nor one above it. -/
theorem roundDivEven_le {num den k : Nat} (pos : 0 < den) (lt : num < k * den) :
    roundDivEven num den ≤ k := by
  have lt : num / den < k := (Nat.div_lt_iff_lt_mul pos).mpr lt
  rcases roundDivEven_eq num den with ⟨eq, _⟩ | ⟨eq, _⟩ <;> omega

namespace Number

/-- What a finite number is exactly, without its sign. -/
def size (x : Number) : ℚ := x.significand * 2 ^ x.scale

/-- A sign as a factor. -/
def sign (negative : Bool) : ℚ := if negative then -1 else 1

/-- What a finite number is exactly. -/
def toRat (x : Number) : ℚ := sign x.isNegative * x.size

theorem size_nonneg (x : Number) : 0 ≤ x.size := by
  unfold size
  positivity

/-- A number is put together from its sign and its magnitude, if that leaves the bit of the sign
free. -/
theorem magnitude_ofMagnitude (negative : Bool) {magnitude : Nat}
    (fits : magnitude < 0x8000000000000000) :
    (ofMagnitude negative magnitude).magnitude = magnitude := by
  rw [Number.magnitude, ofMagnitude, UInt64.toNat_ofNat', Nat.mod_eq_of_lt fits]
  cases negative
  · simp; omega
  · simp; omega

theorem isNegative_ofMagnitude (negative : Bool) {magnitude : Nat}
    (fits : magnitude < 0x8000000000000000) :
    (ofMagnitude negative magnitude).isNegative = negative := by
  rw [isNegative, ofMagnitude, UInt64.toNat_ofNat', Nat.mod_eq_of_lt fits]
  cases negative
  · simp; omega
  · simp; omega

/-- A significand has 53 bits at most. -/
theorem significand_lt (x : Number) : x.significand < 2 ^ 53 := by
  have small : x.fractionField < fractionSpan := Nat.mod_lt _ (by decide)
  unfold significand
  have : fractionSpan = 2 ^ 52 := by decide
  split <;> omega

theorem binaryExponent_one {n : Nat} (pos : n ≠ 0) : binaryExponent n 1 = n.log2 := by
  have guess : (n.log2 : Int) - (Nat.log2 1 : Int) = Int.ofNat n.log2 := by
    rw [show Nat.log2 1 = 0 by decide]
    exact Int.sub_zero _
  unfold binaryExponent
  dsimp only
  rw [guess]
  exact if_pos (decide_eq_true (by rw [Nat.one_mul]; exact Nat.log2_self_le pos))

section Packed

variable (negative : Bool) {exponent rounded : Nat}

/-- A significand that rounding has carried to the next power of two goes over into the exponent,
and still fits. -/
theorem magnitude_packed (most : rounded ≤ 2 * fractionSpan) (fits : exponent < 2000) :
    exponent * fractionSpan + rounded < topExponent * fractionSpan := by
  simp only [fractionSpan, topExponent] at *
  omega

/-- Exponent and significand can be read off again. -/
theorem significand_packed (least : fractionSpan ≤ rounded) (most : rounded < 2 * fractionSpan)
    (fits : exponent < 2000) :
    let x := ofMagnitude negative (exponent * fractionSpan + rounded)
    x.significand = rounded ∧ x.scale = exponent - 1074 := by
  intro x
  have magnitude : x.magnitude = exponent * fractionSpan + rounded := by
    apply magnitude_ofMagnitude
    exact Nat.lt_trans (magnitude_packed most.le fits) (by decide)
  have exponentField : x.exponentField = exponent + 1 := by
    rw [Number.exponentField, magnitude]
    simp only [fractionSpan] at *
    omega
  have fractionField : x.fractionField = rounded - fractionSpan := by
    rw [Number.fractionField, magnitude]
    simp only [fractionSpan] at *
    omega
  rw [significand, scale, exponentField, fractionField, if_neg (by omega), if_neg (by omega)]
  omega

/-- A carry out of the significand lands in the exponent of its own accord. -/
theorem size_packed (least : fractionSpan ≤ rounded) (most : rounded ≤ 2 * fractionSpan)
    (fits : exponent < 1999) :
    let x := ofMagnitude negative (exponent * fractionSpan + rounded)
    x.size = rounded * 2 ^ ((exponent : ℤ) - 1074) ∧
      (rounded % 2 = 0 → x.significand % 2 = 0) := by
  intro x
  rcases Nat.lt_or_eq_of_le most with less | carried
  · obtain ⟨significand, scale⟩ :=
      significand_packed negative least less (Nat.lt_succ_of_lt fits)
    rw [size, significand, scale]
    exact ⟨rfl, id⟩
  · have moved : exponent * fractionSpan + rounded =
        (exponent + 1) * fractionSpan + fractionSpan := by
      rw [carried]
      ring
    obtain ⟨significand, scale⟩ := significand_packed negative (Nat.le_refl fractionSpan)
      (by decide) (Nat.succ_lt_succ fits)
    rw [← moved] at significand scale
    rw [size, significand, scale, carried]
    refine ⟨?_, fun _ => by decide⟩
    push_cast
    rw [add_sub_right_comm, zpow_add_one₀ two_ne_zero]
    ring

end Packed

/-! ## The number nearest to a natural -/

/-- The distance of two naturals. -/
theorem gap_eq (a b : Nat) : |(a : ℚ) - b| = ((a - b : ℤ).natAbs : ℚ) := by
  rw [Nat.cast_natAbs]
  push_cast
  rfl

/-- A significand of fifty-three bits, scaled: a multiple of a power of two, or smaller than
`2 ^ 52` times that power. -/
theorem multiple_or_small {m : Nat} (t : ℤ) (k : Nat) (small : m < 2 ^ 53) :
    (∃ a : Nat, (m : ℚ) * 2 ^ t = (a * 2 ^ k : Nat)) ∨
      (m : ℚ) * 2 ^ t < (2 ^ 52 * 2 ^ k : Nat) := by
  rcases le_or_gt (k : ℤ) t with coarse | fine
  · left
    refine ⟨m * 2 ^ (t - k).toNat, ?_⟩
    have split : t = ((t - k).toNat : ℤ) + k := by omega
    push_cast
    rw [mul_assoc, ← pow_add, ← zpow_natCast]
    push_cast
    rw [← split]
  · right
    have scale : (2 : ℚ) ^ t ≤ 2 ^ ((k : ℤ) - 1) :=
      zpow_le_zpow_right₀ (by norm_num) (by omega)
    have halved : (2 : ℚ) ^ ((k : ℤ) - 1) = 2 ^ k / 2 := by
      rw [zpow_sub_one₀ two_ne_zero, zpow_natCast]
      rfl
    have small : (m : ℚ) < 2 ^ 53 := by exact_mod_cast small
    calc (m : ℚ) * 2 ^ t ≤ m * (2 ^ k / 2) := by
          rw [← halved]
          gcongr
      _ < 2 ^ 53 * (2 ^ k / 2) := by gcongr
      _ = (2 ^ 52 * 2 ^ k : Nat) := by push_cast; ring

/-- Among all multiples of powers of two with a significand that fits, the rounded one is nearest;
and if another is as near, it is the even one. Multiples of a finer power are no rivals, as they are
too small. -/
theorem roundDivEven_nearest_size {n k : Nat} (large : 2 ^ 52 * 2 ^ k ≤ n) {m : Nat} (t : ℤ)
    (small : m < 2 ^ 53) :
    |((roundDivEven n (2 ^ k) * 2 ^ k : Nat) : ℚ) - n| ≤ |(m : ℚ) * 2 ^ t - n| ∧
      (|(m : ℚ) * 2 ^ t - n| = |((roundDivEven n (2 ^ k) * 2 ^ k : Nat) : ℚ) - n| →
        (m : ℚ) * 2 ^ t = (roundDivEven n (2 ^ k) * 2 ^ k : Nat) ∨
          roundDivEven n (2 ^ k) % 2 = 0) := by
  have pos : 0 < 2 ^ k := Nat.two_pow_pos k
  rcases multiple_or_small t k small with ⟨a, multiple⟩ | below
  · obtain ⟨nearest, even⟩ := roundDivEven_nearest n a pos
    rw [multiple, gap_eq, gap_eq]
    refine ⟨Nat.cast_le.mpr nearest, fun tie => ?_⟩
    rcases even (Nat.cast_injective tie) with same | even
    · exact .inl (by rw [same])
    · exact .inr even
  · have nearest := (roundDivEven_nearest n (2 ^ 52) pos).1
    have nearest : |((roundDivEven n (2 ^ k) * 2 ^ k : Nat) : ℚ) - n| ≤
        |((2 ^ 52 * 2 ^ k : Nat) : ℚ) - n| := by
      rw [gap_eq, gap_eq]
      exact Nat.cast_le.mpr nearest
    have large : ((2 ^ 52 * 2 ^ k : Nat) : ℚ) ≤ n := Nat.cast_le.mpr large
    have farther : |((2 ^ 52 * 2 ^ k : Nat) : ℚ) - n| < |(m : ℚ) * 2 ^ t - n| := by
      rw [abs_of_nonpos (by linarith), abs_of_nonpos (by linarith)]
      linarith
    exact ⟨by linarith, fun tie => by linarith⟩

/-- The power of two that a natural is rounded to a multiple of. -/
def unit (n : Nat) : ℤ := n.log2 - 52

/-- The unit of a short whole number is a fraction, and no rounding takes place. -/
theorem unit_of_lt {n : Nat} (short : n.log2 < 52) : unit n = .negSucc (51 - n.log2) := by
  rw [unit]
  omega

/-- The unit of a long one is the power of two that leaves 53 bits. -/
theorem unit_of_ge {n : Nat} (long : 52 ≤ n.log2) : unit n = .ofNat (n.log2 - 52) := by
  rw [unit, Int.ofNat_eq_natCast]
  omega

theorem pow_log2_eq {n : Nat} (long : 52 ≤ n.log2) : 2 ^ 52 * 2 ^ (n.log2 - 52) = 2 ^ n.log2 := by
  rw [← Nat.pow_add, Nat.add_sub_cancel' long]

/-- Below fifty-three bits, nothing is lost. -/
theorem roundAt_of_lt {n : Nat} (short : n.log2 < 52) :
    roundAt n 1 (unit n) = n * 2 ^ (52 - n.log2) := by
  rw [unit_of_lt short, roundAt, roundDivEven_one, show 51 - n.log2 + 1 = 52 - n.log2 by omega]
  rfl

theorem roundAt_of_ge {n : Nat} (long : 52 ≤ n.log2) :
    roundAt n 1 (unit n) = roundDivEven n (2 ^ (n.log2 - 52)) := by
  rw [unit_of_ge long, roundAt, Nat.one_mul]
  rfl

/-- Rounded at its unit, a number has the bits that a significand has, or is the next power of two.
-/
theorem roundAt_bounds {n : Nat} (pos : n ≠ 0) :
    fractionSpan ≤ roundAt n 1 (unit n) ∧ roundAt n 1 (unit n) ≤ 2 * fractionSpan := by
  have low : 2 ^ n.log2 ≤ n := Nat.log2_self_le pos
  have high : n < 2 ^ (n.log2 + 1) := Nat.lt_log2_self
  have span : fractionSpan = 2 ^ 52 := by decide
  rcases Nat.lt_or_ge n.log2 52 with short | long
  · have full : 2 ^ n.log2 * 2 ^ (52 - n.log2) = 2 ^ 52 := by
      rw [← Nat.pow_add, Nat.add_sub_cancel' (Nat.le_of_lt short)]
    rw [roundAt_of_lt short, span, ← full]
    constructor
    · exact Nat.mul_le_mul_right _ low
    · rw [← Nat.mul_assoc, ← Nat.pow_succ']
      exact Nat.mul_le_mul_right _ (Nat.le_of_lt high)
  · rw [roundAt_of_ge long, span]
    constructor
    · apply le_roundDivEven (Nat.two_pow_pos _)
      rw [pow_log2_eq long]
      exact low
    · apply roundDivEven_le (Nat.two_pow_pos _)
      rw [Nat.mul_assoc, pow_log2_eq long, ← Nat.pow_succ']
      exact high

/-- Rounding at the unit is nearest in both cases. -/
theorem roundAt_nearest {n : Nat} (pos : n ≠ 0) {m : Nat} (t : ℤ) (small : m < 2 ^ 53) :
    |(roundAt n 1 (unit n) : ℚ) * 2 ^ unit n - n| ≤ |(m : ℚ) * 2 ^ t - n| ∧
      (|(m : ℚ) * 2 ^ t - n| = |(roundAt n 1 (unit n) : ℚ) * 2 ^ unit n - n| →
        (m : ℚ) * 2 ^ t = roundAt n 1 (unit n) * 2 ^ unit n ∨ roundAt n 1 (unit n) % 2 = 0) := by
  rcases Nat.lt_or_ge n.log2 52 with short | long
  · have value : (roundAt n 1 (unit n) : ℚ) * 2 ^ unit n = n := by
      rw [roundAt_of_lt short]
      push_cast
      rw [mul_assoc, ← zpow_natCast, ← zpow_add₀ two_ne_zero, unit,
        show ((52 - n.log2 : Nat) : ℤ) + (n.log2 - 52) = 0 by omega, zpow_zero, mul_one]
    rw [value, sub_self, abs_zero]
    exact ⟨abs_nonneg _, fun tie => .inl (sub_eq_zero.mp (abs_eq_zero.mp tie))⟩
  · have large : 2 ^ 52 * 2 ^ (n.log2 - 52) ≤ n := by
      rw [pow_log2_eq long]
      exact Nat.log2_self_le pos
    have natural : (roundAt n 1 (unit n) : ℚ) * 2 ^ unit n =
        (roundDivEven n (2 ^ (n.log2 - 52)) * 2 ^ (n.log2 - 52) : Nat) := by
      rw [roundAt_of_ge long, unit_of_ge long, Int.ofNat_eq_natCast, zpow_natCast]
      push_cast
      rfl
    rw [natural, roundAt_of_ge long]
    exact roundDivEven_nearest_size large t small

/-- A natural is rounded in range, so that its number is packed without any limit being reached. -/
theorem ofRatio_eq_packed {n : Nat} (negative : Bool) (pos : n ≠ 0) (fits : n < 2 ^ 64) :
    ∃ exponent : Nat, exponent < 1999 ∧ (exponent : ℤ) - 1074 = unit n ∧
      ofRatio negative n 1 =
        ofMagnitude negative (exponent * fractionSpan + roundAt n 1 (unit n)) := by
  have bits : n.log2 < 64 := (Nat.log2_lt pos).mpr fits
  have scale : max (unit n) (-1074) = unit n := by
    rw [unit]
    omega
  have fits : (unit n + 1074).toNat < 1999 := by
    rw [unit]
    omega
  have finite := magnitude_packed (roundAt_bounds pos).2 (Nat.lt_succ_of_lt fits)
  refine ⟨(unit n + 1074).toNat, fits, by rw [unit]; omega, ?_⟩
  rw [ofRatio, if_neg pos, binaryExponent_one pos]
  change (ofMagnitude negative (min ((max (unit n) (-1074) + 1074).toNat * fractionSpan +
    roundAt n 1 (max (unit n) (-1074))) (topExponent * fractionSpan))) = _
  rw [scale, Nat.min_eq_left finite.le]

/-- What a natural is rounded to is finite, of the sign given, and of the rounded size; its
significand is even if what was rounded to is. -/
theorem ofRatio_one {n : Nat} (negative : Bool) (pos : n ≠ 0) (fits : n < 2 ^ 64) :
    (ofRatio negative n 1).isFinite = true ∧ (ofRatio negative n 1).isNegative = negative ∧
      (ofRatio negative n 1).size = roundAt n 1 (unit n) * 2 ^ unit n ∧
      (roundAt n 1 (unit n) % 2 = 0 → (ofRatio negative n 1).significand % 2 = 0) := by
  obtain ⟨exponent, small, scale, packed⟩ := ofRatio_eq_packed negative pos fits
  obtain ⟨least, most⟩ := roundAt_bounds pos
  have finite := magnitude_packed most (Nat.lt_succ_of_lt small)
  have fits := finite.trans (show topExponent * fractionSpan < 0x8000000000000000 by decide)
  obtain ⟨size, even⟩ := size_packed negative least most small
  rw [scale] at size
  rw [packed, isFinite, magnitude_ofMagnitude negative fits]
  exact ⟨decide_eq_true finite, isNegative_ofMagnitude negative fits, size, even⟩

/-! ## Signs -/

/-- A finite number that no other is nearer to; of two that are equally near, the one with the even
significand. -/
structure IsNearest (q : ℚ) (x : Number) : Prop where
  finite : x.isFinite = true
  nearest (y : Number) : y.isFinite = true → |x.toRat - q| ≤ |y.toRat - q|
  even (y : Number) : y.isFinite = true → |y.toRat - q| = |x.toRat - q| →
    y.toRat = x.toRat ∨ x.significand % 2 = 0

theorem sign_mul_self (negative : Bool) : sign negative * sign negative = 1 := by
  cases negative <;> norm_num [sign]

theorem sign_mul_toRat (negative : Bool) (y : Number) :
    sign negative * y.toRat = y.size ∨ sign negative * y.toRat = -y.size := by
  rw [toRat]
  cases negative <;> cases y.isNegative <;> norm_num [sign]

/-- A gap stays when the signs on both its sides are turned round. -/
theorem gap_sign (negative : Bool) (q n : ℚ) :
    |q - sign negative * n| = |sign negative * q - n| := by
  cases negative with
  | false => rw [sign, if_neg Bool.false_ne_true, one_mul, one_mul]
  | true =>
    rw [sign, if_pos rfl, neg_one_mul, neg_one_mul, ← abs_neg]
    congr 1
    ring

/-- A nearest size is nearest among sizes of either sign. -/
theorem nearest_of_sizes {p n size y : ℚ} {even : Prop} (pos : 0 < n) (size_nonneg : 0 ≤ size)
    (signed : y = size ∨ y = -size) (nearest : |p - n| ≤ |size - n|)
    (tie : |size - n| = |p - n| → size = p ∨ even) :
    |p - n| ≤ |y - n| ∧ (|y - n| = |p - n| → y = p ∨ even) := by
  obtain ⟨nearer, same⟩ : |size - n| ≤ |y - n| ∧ (|y - n| ≤ |size - n| → y = size) := by
    rcases signed with rfl | rfl
    · exact ⟨le_rfl, fun _ => rfl⟩
    · rw [abs_of_nonpos (show -size - n ≤ 0 by linarith)]
      constructor
      · exact abs_le.mpr ⟨by linarith, by linarith⟩
      · intro near
        rcases abs_cases (size - n) with ⟨eq, _⟩ | ⟨eq, _⟩
        · linarith
        · linarith
  constructor
  · exact nearest.trans nearer
  · intro equal
    have one : y = size := same (equal.le.trans nearest)
    rw [one] at equal ⊢
    exact tie equal

/-- A natural, with either sign, becomes the nearest number. -/
theorem isNearest_ofRatio {n : Nat} (negative : Bool) (pos : n ≠ 0) (fits : n < 2 ^ 64) :
    IsNearest (sign negative * n) (ofRatio negative n 1) := by
  obtain ⟨finite, signed, size, even⟩ := ofRatio_one negative pos fits
  have near (y : Number) := nearest_of_sizes (Nat.cast_pos.mpr (Nat.pos_of_ne_zero pos))
    y.size_nonneg (sign_mul_toRat negative y) (roundAt_nearest pos y.scale y.significand_lt).1
    (roundAt_nearest pos y.scale y.significand_lt).2
  rw [← size] at near
  have own : sign negative * (ofRatio negative n 1).toRat = (ofRatio negative n 1).size := by
    rw [toRat, signed, ← mul_assoc, sign_mul_self, one_mul]
  refine ⟨finite, fun y _ => ?_, fun y _ tie => ?_⟩
  · rw [gap_sign, gap_sign, own]
    exact (near y).1
  · rw [gap_sign, gap_sign, own] at tie
    rcases (near y).2 tie with same | other
    · have factor : sign negative ≠ 0 := left_ne_zero_of_mul_eq_one (sign_mul_self negative)
      exact .inl (mul_left_cancel₀ factor (same.trans own.symm))
    · exact .inr (even other)

/-- Nought is nearest to itself. -/
theorem isNearest_zero : IsNearest 0 (ofInt 0) := by
  have value : (ofInt 0).toRat = 0 := by
    rw [toRat, size, show (ofInt 0).significand = 0 by decide, Nat.cast_zero, zero_mul, mul_zero]
  refine ⟨by decide, fun y _ => ?_, fun y _ tie => .inr (by decide)⟩
  rw [value, sub_self, abs_zero]
  exact abs_nonneg _

/-- A whole number becomes the nearest number. -/
theorem isNearest_ofInt {i : Int} (fits : i.natAbs < 2 ^ 64) : IsNearest i (ofInt i) := by
  by_cases zero : i = 0
  · subst zero
    rw [Int.cast_zero]
    exact isNearest_zero
  · have signed : sign (decide (i < 0)) * i.natAbs = (i : ℚ) := by
      rw [Nat.cast_natAbs]
      by_cases negative : i < 0
      · rw [decide_eq_true negative, sign, if_pos rfl, abs_of_neg negative, Int.cast_neg,
          neg_one_mul, neg_neg]
      · rw [decide_eq_false negative, sign, if_neg Bool.false_ne_true,
          abs_of_nonneg (Int.not_lt.mp negative), one_mul]
    exact signed ▸ isNearest_ofRatio (decide (i < 0)) (Int.natAbs_ne_zero.mpr zero) fits

end Number

end Specimen
