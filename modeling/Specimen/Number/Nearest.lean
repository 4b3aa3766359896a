import Specimen.Number.Basic

/-!
# The number nearest to an exact value

Rounding to nearest, ties to even, computed in naturals. A quotient `num / den` is scaled by the
power of two that leaves fifty-three bits (fewer at the bottom of the range), divided, and rounded;
because the bits of numbers count upwards with their size, a carry out of the significand lands in
the exponent of its own accord, and a carry out of the top exponent lands on infinity.
-/

namespace Specimen

/-- `num / den` to the nearest natural, a half going to the even neighbour. -/
def roundDivEven (num den : Nat) : Nat :=
  let whole := num / den
  let twice := 2 * (num % den)
  if twice < den then whole
  else if den < twice then whole + 1
  else whole + whole % 2

namespace Number

/-- `roundDivEven (num / den / 2 ^ exponent)`. -/
def roundAt (num den : Nat) : Int → Nat
  | .ofNat up => roundDivEven num (den * Nat.pow 2 up)
  | .negSucc down => roundDivEven (num * Nat.pow 2 (down + 1)) den

/-- The exponent `e` with `2 ^ e ≤ num / den < 2 ^ (e + 1)`, for positive `num` and `den`. -/
def binaryExponent (num den : Nat) : Int :=
  let guess : Int := (num.log2 : Int) - (den.log2 : Int)
  let reached :=
    match guess with
    | .ofNat up => decide (den * Nat.pow 2 up ≤ num)
    | .negSucc down => decide (den ≤ num * Nat.pow 2 (down + 1))
  if reached then guess else guess - 1

/-- The number nearest to `num / den` with the given sign. -/
def ofRatio (negative : Bool) (num den : Nat) : Number :=
  if num = 0 then ofMagnitude negative 0
  else
    let scale := max (binaryExponent num den - 52) (-1074)
    let magnitude := (scale + 1074).toNat * fractionSpan + roundAt num den scale
    ofMagnitude negative (min magnitude (topExponent * fractionSpan))

/-- The number nearest to `digits · 10 ^ exponent`. -/
def ofDecimal (negative : Bool) (digits : Nat) : Int → Number
  | .ofNat up => ofRatio negative (digits * Nat.pow 10 up) 1
  | .negSucc down => ofRatio negative digits (Nat.pow 10 (down + 1))

/-- The number nearest to an integer. -/
def ofInt (i : Int) : Number := ofRatio (decide (i < 0)) i.natAbs 1

def ofNat (n : Nat) : Number := ofRatio false n 1

end Number

end Specimen
