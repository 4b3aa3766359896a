import Specimen.Text.Printable

/-!
# Quoted text

Two ways of writing a text between double quotes. `Quoted.chars` is the quoting of JSON: the quote,
the backslash and the control characters below the blank are escaped, everything else stands for
itself. `dumpQuote` is the quoting of structural dumps, which also escapes every character that
would not be seen on its own.
-/

namespace Specimen

/-- The digits of `n` in base sixteen, lower case. -/
def hexDigits (n : Nat) : List Char := Nat.toDigits 16 n

/-- The digits of `n` in base sixteen, at least `width` of them. -/
def paddedHex (width n : Nat) : List Char :=
  let digits := hexDigits n
  List.replicate (width - digits.length) '0' ++ digits

namespace Quoted

/-- One character inside a JSON string. -/
def escape (c : Char) : List Char :=
  if c = '"' then ['\\', '"']
  else if c = '\\' then ['\\', '\\']
  else if 32 ≤ c.toNat then [c]
  else if c = '\n' then ['\\', 'n']
  else if c = '\r' then ['\\', 'r']
  else if c = '\t' then ['\\', 't']
  else if c.toNat = 8 then ['\\', 'b']
  else if c.toNat = 12 then ['\\', 'f']
  else '\\' :: 'u' :: paddedHex 4 c.toNat

/-- A text as a JSON string. -/
def chars (text : List Char) : List Char :=
  '"' :: text.flatMap escape ++ ['"']

/-- One character inside a dumped string. -/
def dumpEscape (c : Char) : List Char :=
  if c = '"' then ['\\', '"']
  else if c = '\\' then ['\\', '\\']
  else if c = '\n' then ['\\', 'n']
  else if c = '\r' then ['\\', 'r']
  else if c = '\t' then ['\\', 't']
  else if c.toNat = 0 then ['\\', '0']
  else if c.isShownAlone then [c]
  else '\\' :: 'u' :: '\x7b' :: hexDigits c.toNat ++ ['\x7d']

end Quoted

/-- A text as it appears in a structural dump. -/
def dumpQuote (text : String) : String :=
  String.ofList ('"' :: text.toList.flatMap Quoted.dumpEscape ++ ['"'])

end Specimen
