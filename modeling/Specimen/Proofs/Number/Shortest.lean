import Specimen.Number.Layout
import Specimen.Proofs.Number.Nearest

/-!
# What the shortest decimal says

The shortest decimal of a number lies in the interval of what rounds to the number
(`roundsTo_shortest`). Nothing lies in two intervals (`magnitude_eq_of_roundsTo`): that of the next
number begins where that of a number ends, and of two neighbours only one has its ends, since their
significands are not both even. So a decimal is the shortest of one size only, however ties between
decimals go.
-/

namespace Specimen

/-- What a decimal is exactly. -/
def Decimal.toRat (d : Decimal) : ℚ := d.digits * 10 ^ d.exponent

namespace Number

variable {x y : Number} {q : ℚ}

/-! ## Intervals -/

/-- Where the interval of what rounds to a number begins, in quarters of its unit. -/
def lower (x : Number) : ℚ :=
  (4 * x.significand - if x.significand = fractionSpan ∧ 1 < x.exponentField then 1 else 2) *
    2 ^ (x.scale - 2)

/-- Where the interval ends. -/
def upper (x : Number) : ℚ := (4 * x.significand + 2) * 2 ^ (x.scale - 2)

/-- A rational rounds to the size of a number; the ends of the interval do if the significand is
even. -/
structure RoundsTo (x : Number) (q : ℚ) : Prop where
  lower_le : x.lower ≤ q
  le_upper : q ≤ x.upper
  inside : x.significand % 2 = 1 → x.lower < q ∧ q < x.upper

/-- Sizes are measured in quarters of a unit, which is what the ends of intervals are whole numbers
of. -/
theorem size_eq_quarters (x : Number) : x.size = 4 * x.significand * 2 ^ (x.scale - 2) := by
  rw [size, zpow_sub₀ two_ne_zero]
  ring

/-- A number lies inside of its interval, so it rounds to itself. -/
theorem lower_lt_size (x : Number) : x.lower < x.size := by
  have unit : (0 : ℚ) < 2 ^ (x.scale - 2) := by positivity
  rw [size_eq_quarters, lower]
  refine mul_lt_mul_of_pos_right ?_ unit
  split <;> linarith

theorem size_lt_upper (x : Number) : x.size < x.upper := by
  have unit : (0 : ℚ) < 2 ^ (x.scale - 2) := by positivity
  rw [size_eq_quarters, upper]
  exact mul_lt_mul_of_pos_right (by linarith) unit

/-- The two forms of a datum: below the first power of two there is no hidden bit. -/
theorem significand_cases (x : Number) :
    x.exponentField = 0 ∧ x.significand = x.magnitude ∧ x.scale = -1074 ∨
      0 < x.exponentField ∧ x.scale = x.exponentField - 1075 ∧
        x.significand + x.exponentField * fractionSpan = x.magnitude + fractionSpan := by
  have parts : x.magnitude = x.exponentField * fractionSpan + x.fractionField :=
    (Nat.div_add_mod' _ _).symm
  unfold significand scale
  split
  case isTrue bottom =>
    rw [bottom, Nat.zero_mul, Nat.zero_add] at parts
    exact .inl ⟨bottom, parts.symm, rfl⟩
  case isFalse => exact .inr ⟨by omega, rfl, by omega⟩

/-- Whether the ends of an interval belong to it is seen at the last bit of the number. -/
theorem significand_mod_two (x : Number) : x.significand % 2 = x.magnitude % 2 := by
  have span : fractionSpan = 2 * 2 ^ 51 := by decide
  rcases x.significand_cases with ⟨_, same, _⟩ | ⟨_, _, parts⟩
  · rw [same]
  · rw [span] at parts
    omega

theorem magnitude_lt (x : Number) : x.magnitude < 0x8000000000000000 := Nat.mod_lt _ (by decide)

/-- The next number is one unit further, and has the unit of this one unless the significand has
come round. -/
theorem next_significand (next : y.magnitude = x.magnitude + 1) :
    ¬(y.significand = fractionSpan ∧ 1 < y.exponentField) ∧
        y.significand = x.significand + 1 ∧ y.scale = x.scale ∨
      (y.significand = fractionSpan ∧ 1 < y.exponentField) ∧
        x.significand + 1 = 2 * fractionSpan ∧ y.scale = x.scale + 1 := by
  have here := x.significand_cases
  have there := y.significand_cases
  have field : x.exponentField = x.magnitude / fractionSpan := rfl
  have nextField : y.exponentField = y.magnitude / fractionSpan := rfl
  simp only [fractionSpan] at *
  rcases here with ⟨_, _, _⟩ | ⟨_, _, _⟩ <;> rcases there with ⟨_, _, _⟩ | ⟨_, _, _⟩ <;> omega

/-- Intervals adjoin: the next one begins where this one ends, and leaves no gap. -/
theorem lower_next (next : y.magnitude = x.magnitude + 1) : y.lower = x.upper := by
  rcases next_significand next with ⟨plain, one, same⟩ | ⟨round, full, doubled⟩
  · rw [lower, upper, if_neg plain, one, same]
    push_cast
    ring
  · have full : (x.significand : ℚ) = 2 * fractionSpan - 1 := by
      rw [eq_sub_iff_add_eq]
      exact_mod_cast full
    rw [lower, upper, if_pos round, round.1, full, doubled, add_sub_right_comm,
      zpow_add_one₀ two_ne_zero]
    ring

/-- The interval of a smaller number ends before that of a larger begins, or where it does. -/
theorem upper_lt_lower (less : x.magnitude < y.magnitude) :
    y.magnitude = x.magnitude + 1 ∧ x.upper = y.lower ∨ x.upper < y.lower := by
  obtain ⟨gap, apart⟩ := Nat.exists_eq_add_of_lt less
  clear less
  induction gap generalizing y with
  | zero => exact .inl ⟨apart, (lower_next apart).symm⟩
  | succ gap ih =>
    right
    -- the number before
    have fits := y.magnitude_lt
    have before := magnitude_ofMagnitude false (show x.magnitude + gap + 1 < _ by omega)
    generalize ofMagnitude false (x.magnitude + gap + 1) = z at before
    have reached : x.upper ≤ z.lower := by
      rcases ih before with ⟨_, touching⟩ | apart
      · exact touching.le
      · exact apart.le
    calc x.upper ≤ z.lower := reached
      _ < z.size := z.lower_lt_size
      _ < z.upper := z.size_lt_upper
      _ = y.lower := (lower_next (by omega)).symm

/-- A rational rounds to one size only. -/
theorem magnitude_eq_of_roundsTo (left : x.RoundsTo q) (right : y.RoundsTo q) :
    x.magnitude = y.magnitude := by
  have apart : ∀ {x y : Number}, x.RoundsTo q → y.RoundsTo q → ¬x.magnitude < y.magnitude := by
    intro x y left right less
    have meet : y.lower ≤ x.upper := right.lower_le.trans left.le_upper
    rcases upper_lt_lower less with ⟨next, touching⟩ | apart
    · -- the rational is where they touch, and one of the two does not have its ends
      have odd : x.significand % 2 = 1 ∨ y.significand % 2 = 1 := by
        rw [significand_mod_two, significand_mod_two]
        omega
      rcases odd with odd | odd
      · exact absurd (left.inside odd).2 (not_lt.mpr (touching.le.trans right.lower_le))
      · exact absurd (right.inside odd).1 (not_lt.mpr (left.le_upper.trans touching.le))
    · exact absurd meet (not_le.mpr apart)
  exact Nat.le_antisymm (not_lt.mp (apart right left)) (not_lt.mp (apart left right))

theorem roundsTo_size (x : Number) : x.RoundsTo x.size :=
  ⟨x.lower_lt_size.le, x.size_lt_upper.le, fun _ => ⟨x.lower_lt_size, x.size_lt_upper⟩⟩

/-! ## The search -/

theorem significand_pos (other : x.isZero = false) : 0 < x.significand := by
  have other : x.magnitude ≠ 0 := of_decide_eq_false other
  have below : x.exponentField * fractionSpan ≤ x.magnitude := Nat.div_mul_le_self _ _
  have span : 0 < fractionSpan := by decide
  rcases x.significand_cases with ⟨_, same, _⟩ | ⟨_, _, parts⟩ <;> omega

/-- A neighbourhood is the interval over one denominator. -/
theorem neighbourhood_eq (other : x.isZero = false) :
    x.lower = x.neighbourhood.low / x.neighbourhood.den ∧
      x.upper = x.neighbourhood.high / x.neighbourhood.den ∧
      0 < x.neighbourhood.den ∧ x.neighbourhood.ends = decide (x.significand % 2 = 0) := by
  have pos := significand_pos other
  -- the lower end in naturals
  have quarters : ((4 * x.significand - if x.significand = fractionSpan &&
      decide (1 < x.exponentField) then 1 else 2 : Nat) : ℚ) =
        4 * x.significand -
          if x.significand = fractionSpan ∧ 1 < x.exponentField then 1 else 2 := by
    rw [Nat.cast_sub (by split <;> omega)]
    simp only [Bool.and_eq_true, decide_eq_true_eq]
    push_cast
    rfl
  unfold neighbourhood lower upper
  dsimp only
  rw [← quarters]
  cases x.scale - 2 with
  | ofNat up => simp
  | negSucc down => simp [zpow_negSucc, div_eq_mul_inv]

/-- What lies in the neighbourhood rounds to the number. -/
theorem roundsTo_of_holds (other : x.isZero = false) {num den : Nat} (pos : 0 < den)
    (holds : x.neighbourhood.holds num den = true) : x.RoundsTo (num / den) := by
  obtain ⟨low, high, unit, ends⟩ := neighbourhood_eq other
  have pos : (0 : ℚ) < den := Nat.cast_pos.mpr pos
  have unit : (0 : ℚ) < x.neighbourhood.den := Nat.cast_pos.mpr unit
  unfold Neighbourhood.holds at holds
  rw [ends] at holds
  by_cases even : x.significand % 2 = 0
  · rw [if_pos (decide_eq_true even), Bool.and_eq_true, decide_eq_true_eq,
      decide_eq_true_eq] at holds
    refine ⟨?_, ?_, fun odd => by omega⟩
    · rw [low, div_le_div_iff₀ unit pos]
      exact_mod_cast holds.1
    · rw [high, div_le_div_iff₀ pos unit]
      exact_mod_cast holds.2
  · rw [if_neg (by simpa using even), Bool.and_eq_true, decide_eq_true_eq,
      decide_eq_true_eq] at holds
    have above : x.lower < num / den := by
      rw [low, div_lt_div_iff₀ unit pos]
      exact_mod_cast holds.1
    have below : num / den < x.upper := by
      rw [high, div_lt_div_iff₀ pos unit]
      exact_mod_cast holds.2
    exact ⟨above.le, below.le, fun _ => ⟨above, below⟩⟩

/-! ## The search -/

/-- The fraction that a decimal is computed as, without an exponent. -/
theorem Decimal.ratio_eq (c : Nat) (e : ℤ) :
    ((Decimal.ratio c e).1 : ℚ) / (Decimal.ratio c e).2 = c * 10 ^ e ∧
      0 < (Decimal.ratio c e).2 := by
  cases e with
  | ofNat up => simp [Decimal.ratio]
  | negSucc down => simp [Decimal.ratio, zpow_negSucc, div_eq_mul_inv]

/-- What is found on a grid lies in the neighbourhood. -/
theorem Neighbourhood.holds_of_onGrid {n : Neighbourhood} {tie : Tie} {e : ℤ} {d : Decimal}
    (found : n.onGrid tie e = some d) :
    d.exponent = e ∧ n.holds (Decimal.ratio d.digits e).1 (Decimal.ratio d.digits e).2 = true := by
  unfold onGrid at found
  extract_lets floor at found
  clear_value floor
  dsimp only at found
  split at found
  case h_1 lower _ =>
    cases found
    exact ⟨rfl, (Bool.and_eq_true_iff.mp lower).2⟩
  case h_2 upper =>
    cases found
    exact ⟨rfl, upper⟩
  case h_3 => cases found
  case h_4 lower upper =>
    have either : d = ⟨floor, e⟩ ∨ d = ⟨floor + 1, e⟩ := by
      split at found
      · exact .inl (Option.some.inj found).symm
      · split at found
        · exact .inr (Option.some.inj found).symm
        · cases tie with
          | up => exact .inr (Option.some.inj found).symm
          | toEven =>
            rcases Nat.mod_two_eq_zero_or_one floor with even | odd
            · rw [even] at found
              exact .inl (Option.some.inj found).symm
            · rw [odd] at found
              exact .inr (Option.some.inj found).symm
    rcases either with rfl | rfl
    · exact ⟨rfl, (Bool.and_eq_true_iff.mp lower).2⟩
    · exact ⟨rfl, upper⟩

/-- A decimal found on some grid lies in the interval, since the search asks whether it does. -/
theorem roundsTo_onGrid (other : x.isZero = false) {tie : Tie} {e : ℤ} {d : Decimal}
    (found : x.neighbourhood.onGrid tie e = some d) : x.RoundsTo d.toRat := by
  obtain ⟨rfl, holds⟩ := Neighbourhood.holds_of_onGrid found
  obtain ⟨ratio, pos⟩ := Decimal.ratio_eq d.digits d.exponent
  rw [Decimal.toRat, ← ratio]
  exact roundsTo_of_holds other pos holds

/-- Written out to its last digit a number is exactly itself. -/
theorem toRat_expansion (x : Number) : x.expansion.toRat = x.size := by
  unfold expansion size Decimal.toRat
  cases x.scale with
  | ofNat up => simp
  | negSucc down =>
    have tens : (10 : ℚ) ^ (down + 1) = 5 ^ (down + 1) * 2 ^ (down + 1) := by
      rw [← mul_pow]
      norm_num
    have fives : (5 : ℚ) ^ (down + 1) ≠ 0 := by positivity
    dsimp only
    rw [show -((down : ℤ) + 1) = .negSucc down from rfl, zpow_negSucc, zpow_negSucc, tens, mul_inv,
      Nat.pow_eq]
    push_cast
    rw [mul_assoc, mul_inv_cancel_left₀ fives]

/-- Whatever grids are tried, what is found rounds to the number, or the expansion is taken. -/
theorem roundsTo_search (other : x.isZero = false) (tie : Tie) (k : ℤ) :
    ∀ left count, x.RoundsTo (x.neighbourhood.search tie k x.expansion left count).toRat
  | 0, count => x.toRat_expansion ▸ x.roundsTo_size
  | left + 1, count => by
    unfold Neighbourhood.search
    split
    case h_1 found => exact roundsTo_onGrid other found
    case h_2 => exact roundsTo_search other tie k left (count + 1)

/-- The shortest digits round to the number that they are shown for. That no shorter ones do is not
needed. -/
theorem roundsTo_shortest (other : x.isZero = false) (tie : Tie) :
    x.RoundsTo (x.shortest tie).toRat :=
  roundsTo_search other tie _ 17 1

end Number

/-! ## Noughts at the end -/

/-- Noughts that are taken from the end go into the exponent. -/
theorem trimNoughts_eq : ∀ left n, (trimNoughts left n).1 * 10 ^ (trimNoughts left n).2 = n
  | 0, n => Nat.mul_one n
  | left + 1, n => by
    unfold trimNoughts
    split
    case isTrue more =>
      have rest := trimNoughts_eq left (n / 10)
      dsimp only
      rw [Nat.pow_succ, ← Nat.mul_assoc, rest]
      omega
    case isFalse => exact Nat.mul_one n

/-- So trimming changes how a decimal is written and not what it is. -/
theorem Decimal.toRat_trimmed (d : Decimal) : d.trimmed.toRat = d.toRat := by
  have parts : (d.digits : ℚ) =
      (trimNoughts 400 d.digits).1 * 10 ^ (trimNoughts 400 d.digits).2 := by
    exact_mod_cast (trimNoughts_eq 400 d.digits).symm
  unfold trimmed toRat
  dsimp only
  rw [parts, add_comm, zpow_add₀ (by norm_num), zpow_natCast, mul_assoc]

end Specimen
