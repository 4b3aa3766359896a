/-!
# Numbers

A number is a binary64 datum, held as its sixty-four bits: a sign, eleven bits of exponent and
fifty-two bits of fraction. Everything a guard or a printer asks of a number (its class, its exact
size, whether two numbers are equal, which is smaller) is decided here on the bits, in integers.

What this module does not hold is arithmetic. Sums, products and roots occur only inside programs
of the filter language, which take the machine's (`Specimen.Filter.Arithmetic`).
-/

namespace Specimen

/-- A binary64 datum. Two numbers with the same bits are the same number; the equality of values is
`Number.equal`, under which the zeros agree and a not-a-number agrees with nothing. -/
structure Number where
  bits : UInt64
deriving DecidableEq, Inhabited

/-- The five kinds of datum. -/
inductive NumberClass
  | nan | infinite | zero | subnormal | normal
deriving DecidableEq

namespace Number

/-- The exponent field of infinities and not-a-numbers. -/
def topExponent : Nat := 2047

/-- One step of the exponent field. -/
def fractionSpan : Nat := 0x10000000000000

/-- The bits below the sign. -/
def magnitude (x : Number) : Nat := x.bits.toNat % 0x8000000000000000

def isNegative (x : Number) : Bool := decide (0x8000000000000000 ≤ x.bits.toNat)

def exponentField (x : Number) : Nat := x.magnitude / fractionSpan

def fractionField (x : Number) : Nat := x.magnitude % fractionSpan

def isFinite (x : Number) : Bool := decide (x.magnitude < topExponent * fractionSpan)

def isInfinite (x : Number) : Bool := decide (x.magnitude = topExponent * fractionSpan)

def isNaN (x : Number) : Bool := decide (topExponent * fractionSpan < x.magnitude)

def isZero (x : Number) : Bool := decide (x.magnitude = 0)

def numberClass (x : Number) : NumberClass :=
  if x.isNaN then .nan
  else if x.isInfinite then .infinite
  else if x.isZero then .zero
  else if x.exponentField = 0 then .subnormal
  else .normal

/-! ## Order

Below the sign, the bits of numbers that are not not-a-numbers count upwards with the size, so the
signed magnitude is an order key, under which the two zeros coincide. -/

/-- The place of a number in the order of all numbers. -/
def key (x : Number) : Int := if x.isNegative then -(x.magnitude : Int) else (x.magnitude : Int)

/-- Equality of numbers as values. -/
def equal (x y : Number) : Bool := !x.isNaN && !y.isNaN && x.key == y.key

/-- Strictly smaller; never so when either side is a not-a-number. -/
def less (x y : Number) : Bool := !x.isNaN && !y.isNaN && decide (x.key < y.key)

/-! ## The exact value -/

/-- A finite number is `significand · 2 ^ scale`, up to sign. -/
def significand (x : Number) : Nat :=
  if x.exponentField = 0 then x.fractionField else fractionSpan + x.fractionField

/-- The power of two that multiplies the significand. -/
def scale (x : Number) : Int :=
  if x.exponentField = 0 then -1074 else (x.exponentField : Int) - 1075

/-- The size of a finite number as a quotient of naturals. -/
def ratio (x : Number) : Nat × Nat :=
  match x.scale with
  | .ofNat up => (x.significand * Nat.pow 2 up, 1)
  | .negSucc down => (x.significand, Nat.pow 2 (down + 1))

/-! ## Particular numbers -/

/-- The number with the given sign and the given bits below it. -/
def ofMagnitude (negative : Bool) (magnitude : Nat) : Number :=
  ⟨UInt64.ofNat ((if negative then 0x8000000000000000 else 0) + magnitude % 0x8000000000000000)⟩

def zero : Number := ⟨0⟩

def nan : Number := ofMagnitude false (topExponent * fractionSpan + 0x8000000000000)

def infinity (negative : Bool) : Number := ofMagnitude negative (topExponent * fractionSpan)

def negate (x : Number) : Number := ofMagnitude (!x.isNegative) x.magnitude

end Number

end Specimen
