import Specimen.Json.Basic

/-!
# Written numbers

The number that a JSON text writes: a sign, whole digits, digits after a point, a power of ten.
Digits are gathered into sixty-four bits; what no longer fits moves the power of ten (whole digits)
or is dropped (digits after the point). A number with neither point nor power stays whole when it
fits; every other is the gathered significand multiplied or divided by the power of ten, each step
rounded to nearest.
-/

namespace Specimen

/-- A number as it is written. -/
structure WrittenNumber where
  negative : Bool
  whole : List Nat
  /-- The digits after the point; a point is followed by at least one. -/
  fraction : Option (List Nat)
  /-- The sign (true for minus) and the digits of the power of ten. -/
  power : Option (Bool × List Nat)

namespace WrittenNumber

/-- The greatest significand. -/
def room : Nat := 0x10000000000000000 - 1

/-- Gathers digits while they fit; answers the significand, how many digits were gathered, and how
many were left over. -/
def gather : List Nat → Nat → Nat → Nat × Nat × Nat
  | [], significand, taken => (significand, taken, 0)
  | d :: ds, significand, taken =>
    if significand * 10 + d ≤ room then gather ds (significand * 10 + d) (taken + 1)
    else (significand, taken, ds.length + 1)

/-- The greatest power of ten below the top of the range. -/
def widestPower : Nat := 308

/-- Powers of ten reach this far before the text counts as out of range. -/
def powerLimit : Nat := 0x80000000 - 1

private def times (a b : Number) : Number :=
  let (an, ad) := a.ratio
  let (bn, bd) := b.ratio
  Number.ofRatio false (an * bn) (ad * bd)

private def dividedBy (a b : Number) : Number :=
  let (an, ad) := a.ratio
  let (bn, bd) := b.ratio
  Number.ofRatio false (an * bd) (ad * bn)

/-- `x` divided by `10 ^ down`, in steps of `10 ^ 308`; two steps already reach zero. -/
def divided (x : Number) : Nat → Nat → Number
  | 0, _ => Number.zero
  | steps + 1, down =>
    if down ≤ widestPower then dividedBy x (Number.ofNat (Nat.pow 10 down))
    else divided (dividedBy x (Number.ofNat (Nat.pow 10 widestPower))) steps (down - widestPower)

/-- The number `significand · 10 ^ exponent`, unless it is beyond the range of numbers. -/
def scaled (significand : Nat) (exponent : Int) : Option Number :=
  let x := Number.ofNat significand
  match exponent with
  | .negSucc down => some (divided x 4 (down + 1))
  | .ofNat up =>
    if up ≤ widestPower then
      let product := times x (Number.ofNat (Nat.pow 10 up))
      if product.isFinite then some product else none
    else if significand = 0 then some x
    else none

/-- The value of digits, as far as the limit on powers of ten. -/
def powerOf : List Nat → Nat → Option Nat
  | [], n => some n
  | d :: ds, n => if n * 10 + d ≤ powerLimit then powerOf ds (n * 10 + d) else none

private def signed (negative : Bool) (x : Number) : Number := if negative then x.negate else x

/-- The numeral a written number denotes, unless it is beyond the range of numbers. -/
def numeral? (w : WrittenNumber) : Option Numeral :=
  let (significand, _, wholeLeft) := gather w.whole 0 0
  match w.fraction, w.power, wholeLeft with
  | none, none, 0 =>
    let asFloat := Numeral.ofNumber? (signed w.negative (Number.ofNat significand))
    if w.negative then
      if significand = 0 ∨ 0x8000000000000000 < significand then asFloat
      else Numeral.ofInt? (-(significand : Int))
    else Numeral.ofInt? significand
  | fraction, power, _ =>
    let (significand, taken, _) := gather (fraction.getD []) significand 0
    let start : Int := (wholeLeft : Int) - taken
    let exponent : Option (Option Int) :=
      match power with
      | none => some (some start)
      | some (minus, digits) =>
        match powerOf digits 0 with
        | some n => some (some (if minus then start - n else start + n))
        | none => if minus ∨ significand = 0 then some none else none
    match exponent with
    | none => none
    | some none => Numeral.ofNumber? (signed w.negative Number.zero)
    | some (some exponent) =>
      (scaled significand exponent).bind fun x => Numeral.ofNumber? (signed w.negative x)

end WrittenNumber

end Specimen
