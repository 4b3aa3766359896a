import Specimen.Number.Shortest

/-!
# Layouts of numbers

A printed number is the digits of its shortest decimal, laid out either positionally or with a
power of ten. What differs between the places where numbers are printed is the layout alone: which
powers of ten are written positionally, whether a whole number shows a fraction, whether the exponent
of a large number carries a plus sign, and which way ties between decimals go.
-/

namespace Specimen

/-- How digits are laid out. -/
structure Layout where
  /-- The positional exponents, of the leading digit; `none` lays every number out positionally. -/
  positional : Option (Int × Int)
  /-- Whether a whole number ends in a point and a nought. -/
  wholeFraction : Bool
  /-- Whether a positive exponent carries its sign. -/
  plus : Bool
  /-- Which of two equally near decimals stands for a number. -/
  tie : Tie

namespace Layout

/-- Values shown to people: always positional, whole numbers bare. -/
def display : Layout := ⟨none, false, false, .up⟩

/-- Numbers in JSON text: positional from `10 ^ -5` up to `10 ^ 15`. -/
def json : Layout := ⟨some (-5, 15), true, true, .toEven⟩

/-- Numbers inside structural dumps: positional from `10 ^ -4` up to `10 ^ 15`. -/
def dump : Layout := ⟨some (-4, 15), true, false, .up⟩

end Layout

/-- The decimal digits of a natural. -/
def decimalDigits (n : Nat) : List Char := Nat.toDigits 10 n

/-- Drops noughts at the end of a natural's digits, counting them; at most `left` of them. -/
def trimNoughts : Nat → Nat → Nat × Nat
  | 0, n => (n, 0)
  | left + 1, n =>
    if n ≠ 0 ∧ n % 10 = 0 then
      let (m, dropped) := trimNoughts left (n / 10)
      (m, dropped + 1)
    else (n, 0)

namespace Decimal

/-- The same decimal with no nought at the end of its digits. -/
def trimmed (d : Decimal) : Decimal :=
  let (digits, dropped) := trimNoughts 400 d.digits
  ⟨digits, d.exponent + dropped⟩

/-- Every digit in its place. -/
def positional (d : Decimal) (wholeFraction : Bool) : List Char :=
  let digits := decimalDigits d.digits
  match d.exponent with
  | .ofNat up => digits ++ List.replicate up '0' ++ if wholeFraction then ['.', '0'] else []
  | .negSucc down =>
    let places := down + 1
    if digits.length ≤ places then
      '0' :: '.' :: List.replicate (places - digits.length) '0' ++ digits
    else
      digits.take (digits.length - places) ++ '.' :: digits.drop (digits.length - places)

/-- One digit before the point and a power of ten after. -/
def scientific (d : Decimal) (plus : Bool) : List Char :=
  let digits := decimalDigits d.digits
  let exponent := d.exponent + digits.length - 1
  let body :=
    match digits with
    | first :: second :: rest => first :: '.' :: second :: rest
    | short => short
  let sign := if exponent < 0 then ['-'] else if plus then ['+'] else []
  body ++ 'e' :: sign ++ decimalDigits exponent.natAbs

end Decimal

namespace Number

/-- The text of a finite number's size. -/
def sizeText (x : Number) (layout : Layout) : List Char :=
  if x.isZero then '0' :: if layout.wholeFraction then ['.', '0'] else []
  else
    let d := (x.shortest layout.tie).trimmed
    let leading := d.exponent + (decimalDigits d.digits).length - 1
    match layout.positional with
    | none => d.positional layout.wholeFraction
    | some (least, most) =>
      if least ≤ leading ∧ leading ≤ most then d.positional layout.wholeFraction
      else d.scientific layout.plus

/-- The text of a number under a layout. -/
def text (x : Number) (layout : Layout) : List Char :=
  if x.isNaN then "NaN".toList
  else
    let size := if x.isInfinite then "inf".toList else x.sizeText layout
    if x.isNegative then '-' :: size else size

/-- The form in which values are shown. -/
def display (x : Number) : String := String.ofList (x.text .display)

end Number

end Specimen
