import Specimen.Value.Basic
import Specimen.Number.Layout
import Specimen.Text.Quoted

/-!
# Showing values

The text under which a value appears in reports. It reads like JSON, with `undefined` for the
absent marker and `<function#s>` for the callable of seed `s` in base sixteen.
-/

namespace Specimen

namespace Value

mutual

/-- The text of a value, in front of the text that follows it. -/
def write : Value → List Char → List Char
  | .undefined, after => "undefined".toList ++ after
  | .null, after => "null".toList ++ after
  | .bool true, after => "true".toList ++ after
  | .bool false, after => "false".toList ++ after
  | .number x, after => x.text .display ++ after
  | .string s, after => Quoted.chars s.toList ++ after
  | .array [], after => '[' :: ']' :: after
  | .array (x :: xs), after => '[' :: write x (writeItems xs (']' :: after))
  | .object [], after => '\x7b' :: '\x7d' :: after
  | .object ((k, x) :: rest), after =>
    '\x7b' :: (Quoted.chars k.toList ++ ':' :: write x (writeMembers rest ('\x7d' :: after)))
  | .callable c, after => "<function#".toList ++ hexDigits c.seed.toNat ++ '>' :: after

/-- The items after the first. -/
def writeItems : List Value → List Char → List Char
  | [], after => after
  | x :: xs, after => ',' :: write x (writeItems xs after)

/-- The members after the first. -/
def writeMembers : List (String × Value) → List Char → List Char
  | [], after => after
  | (k, x) :: rest, after =>
    ',' :: (Quoted.chars k.toList ++ ':' :: write x (writeMembers rest after))

end

/-- The text of a value. -/
def display (v : Value) : String := String.ofList (v.write [])

end Value

end Specimen
