import Specimen.Number.Basic

/-!
# The shortest decimal that reads back

Among the decimals that round to a given number, those with the fewest digits; among those, the
nearest. The search is exact: the reals that round to a number form an interval around it, whose
ends belong to it when the significand is even, and for one, two, three digits in turn the two
neighbours of the number on that decimal grid are tried. The exact expansion of the number lies in
the interval too and closes the search, so every finite number has digits. Where both neighbours are
equally near, a `Tie` says which is taken.
-/

namespace Specimen

/-- A positive decimal, `digits · 10 ^ exponent`. -/
structure Decimal where
  digits : Nat
  exponent : Int
deriving DecidableEq

/-- Which of two decimals is taken when a number lies halfway between them. -/
inductive Tie
  /-- The one whose last digit is even. -/
  | toEven
  /-- The greater one. -/
  | up
deriving DecidableEq

namespace Number

/-- A number and its rounding interval over one denominator: the reals between `low / den` and
`high / den` round to `mid / den`. -/
structure Neighbourhood where
  low : Nat
  mid : Nat
  high : Nat
  den : Nat
  /-- Whether the ends themselves round to the number. -/
  ends : Bool

/-- The interval around a positive finite number. Below a power of two the numbers stand twice as
close, so the lower half of the interval is then half as long. -/
def neighbourhood (x : Number) : Neighbourhood :=
  let m := x.significand
  let below := if m = fractionSpan && decide (1 < x.exponentField) then 1 else 2
  let even := m % 2 = 0
  match x.scale - 2 with
  | .ofNat up =>
    let unit := Nat.pow 2 up
    ⟨(4 * m - below) * unit, 4 * m * unit, (4 * m + 2) * unit, 1, even⟩
  | .negSucc down => ⟨4 * m - below, 4 * m, 4 * m + 2, Nat.pow 2 (down + 1), even⟩

/-- Whether `num / den'` lies in the interval. -/
def Neighbourhood.holds (n : Neighbourhood) (num den' : Nat) : Bool :=
  let below := n.low * den'
  let above := n.high * den'
  let here := num * n.den
  if n.ends then decide (below ≤ here) && decide (here ≤ above)
  else decide (below < here) && decide (here < above)

/-- How many decimal digits a positive natural has, from the length of its binary form. -/
def decimalWidth (n : Nat) : Nat :=
  let guess := n.log2 * 30103 / 100000
  if Nat.pow 10 (guess + 1) ≤ n then guess + 2
  else if Nat.pow 10 guess ≤ n then guess + 1
  else guess

/-- The exponent `k` with `10 ^ (k - 1) ≤ mid / den < 10 ^ k`. -/
def Neighbourhood.decimalExponent (n : Neighbourhood) : Int :=
  if n.den ≤ n.mid then (decimalWidth (n.mid / n.den) : Int)
  else
    let width := decimalWidth (n.den / n.mid)
    if n.den ≤ n.mid * Nat.pow 10 (width - 1) then 2 - (width : Int) else 1 - (width : Int)

/-- `c · 10 ^ e` as a quotient. -/
def Decimal.ratio (c : Nat) : Int → Nat × Nat
  | .ofNat up => (c * Nat.pow 10 up, 1)
  | .negSucc down => (c, Nat.pow 10 (down + 1))

/-- The decimals `c · 10 ^ e` and `(c + 1) · 10 ^ e` around the number, if either rounds to it; of
two, the nearer, and of two equally near the one that `tie` says. -/
def Neighbourhood.onGrid (n : Neighbourhood) (tie : Tie) (e : Int) : Option Decimal :=
  let floor :=
    match e with
    | .ofNat up => n.mid / (n.den * Nat.pow 10 up)
    | .negSucc down => n.mid * Nat.pow 10 (down + 1) / n.den
  let (a, aDen) := Decimal.ratio floor e
  let (b, bDen) := Decimal.ratio (floor + 1) e
  let lower := decide (floor ≠ 0) && n.holds a aDen
  let upper := n.holds b bDen
  match lower, upper with
  | true, false => some ⟨floor, e⟩
  | false, true => some ⟨floor + 1, e⟩
  | false, false => none
  | true, true =>
    let fromBelow := n.mid * aDen - a * n.den
    let fromAbove := b * n.den - n.mid * aDen
    if fromBelow < fromAbove then some ⟨floor, e⟩
    else if fromAbove < fromBelow then some ⟨floor + 1, e⟩
    else
      match tie with
      | .toEven => some ⟨floor + floor % 2, e⟩
      | .up => some ⟨floor + 1, e⟩

/-- The exact decimal expansion of a finite number. -/
def expansion (x : Number) : Decimal :=
  match x.scale with
  | .ofNat up => ⟨x.significand * Nat.pow 2 up, 0⟩
  | .negSucc down => ⟨x.significand * Nat.pow 5 (down + 1), -((down : Int) + 1)⟩

/-- Tries grids of `count`, `count + 1`, … digits, `left` of them. -/
def Neighbourhood.search (n : Neighbourhood) (tie : Tie) (k : Int) (otherwise : Decimal) :
    Nat → Nat → Decimal
  | 0, _ => otherwise
  | left + 1, count =>
    match n.onGrid tie (k - count) with
    | some found => found
    | none => n.search tie k otherwise left (count + 1)

/-- The shortest decimal that rounds to the size of a finite number other than zero. -/
def shortest (x : Number) (tie : Tie) : Decimal :=
  let n := x.neighbourhood
  n.search tie n.decimalExponent x.expansion 17 1

end Number

end Specimen
