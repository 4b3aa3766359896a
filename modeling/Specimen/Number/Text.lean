import Specimen.Number.Nearest

/-!
# Numbers from text

The number nearest to a decimal text: digits, perhaps a point and more digits, perhaps a power of
ten. Beyond the range of numbers the nearest is an infinity.
-/

namespace Specimen

namespace Number

private def digitsOf (cs : List Char) : Nat :=
  cs.foldl (fun n c => n * 10 + (c.toNat - 48)) 0

/-- A decimal integer with an optional sign. -/
private def signedDigits? : List Char → Option Int
  | '-' :: cs => if cs.isEmpty || !cs.all Char.isDigit then none else some (-(digitsOf cs : Int))
  | '+' :: cs => if cs.isEmpty || !cs.all Char.isDigit then none else some (digitsOf cs : Int)
  | cs => if cs.isEmpty || !cs.all Char.isDigit then none else some (digitsOf cs : Int)

/-- Powers of ten beyond this are beyond the range of numbers for texts of any sensible length. -/
private def powerCap : Int := 100000

/-- The number nearest to an unsigned decimal text. -/
private def unsigned? (negative : Bool) (cs : List Char) : Option Number :=
  let whole := cs.takeWhile Char.isDigit
  let rest := cs.dropWhile Char.isDigit
  let (fraction, rest) :=
    match rest with
    | '.' :: rest => (rest.takeWhile Char.isDigit, rest.dropWhile Char.isDigit)
    | rest => ([], rest)
  if whole.isEmpty && fraction.isEmpty then none
  else
    let digits := digitsOf (whole ++ fraction)
    let power? :=
      match rest with
      | [] => some 0
      | c :: rest => if c = 'e' ∨ c = 'E' then signedDigits? rest else none
    power?.map fun power =>
      if digits = 0 then ofMagnitude negative 0
      else ofDecimal negative digits (max (-powerCap) (min powerCap power) - fraction.length)

/-- The number nearest to a text: a decimal, `inf` or `NaN`, each with an optional sign. -/
def ofText? (text : String) : Option Number :=
  let (negative, cs) :=
    match text.toList with
    | '-' :: cs => (true, cs)
    | '+' :: cs => (false, cs)
    | cs => (false, cs)
  if cs = "inf".toList then some (infinity negative)
  else if cs = "NaN".toList then some nan
  else unsigned? negative cs

end Number

end Specimen
