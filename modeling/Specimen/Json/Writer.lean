import Specimen.Json.Basic
import Specimen.Number.Layout
import Specimen.Text.Quoted

/-!
# JSON text

The compact text of a JSON value: no blanks, members in their order, whole numbers as whole
numbers.
-/

namespace Specimen

/-- The text of a numeral. -/
def Numeral.chars : Numeral → List Char
  | .integer i _ => if i < 0 then '-' :: decimalDigits i.natAbs else decimalDigits i.natAbs
  | .float x _ => x.text .json

namespace Json

mutual

/-- The text of a value, in front of the text that follows it. -/
def write : Json → List Char → List Char
  | .null, after => 'n' :: 'u' :: 'l' :: 'l' :: after
  | .bool true, after => 't' :: 'r' :: 'u' :: 'e' :: after
  | .bool false, after => 'f' :: 'a' :: 'l' :: 's' :: 'e' :: after
  | .number n, after => n.chars ++ after
  | .string s, after => Quoted.chars s.toList ++ after
  | .array [], after => '[' :: ']' :: after
  | .array (x :: xs), after => '[' :: write x (writeItems xs (']' :: after))
  | .object [], after => '\x7b' :: '\x7d' :: after
  | .object ((k, x) :: rest), after =>
    '\x7b' :: (Quoted.chars k.toList ++ ':' :: write x (writeMembers rest ('\x7d' :: after)))

/-- The items after the first. -/
def writeItems : List Json → List Char → List Char
  | [], after => after
  | x :: xs, after => ',' :: write x (writeItems xs after)

/-- The members after the first. -/
def writeMembers : List (String × Json) → List Char → List Char
  | [], after => after
  | (k, x) :: rest, after =>
    ',' :: (Quoted.chars k.toList ++ ':' :: write x (writeMembers rest after))

end

/-- The compact text of a value. -/
def text (j : Json) : String := String.ofList (j.write [])

end Json

end Specimen
