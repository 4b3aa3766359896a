import Specimen.Filter.Data

/-!
# Data from JSON text

Reading a JSON text within a program. Unlike the texts of documents, such a text may nest without
bound, and its numbers stay as they were written unless they are machine integers.
-/

namespace Specimen

namespace Data

/-- What was wrong with a text. -/
inductive Reading
  | value | valueOrEnd | commaOrEnd | string | colon | endOfText
  | digit
  | unclosed | control
  | escapeEnd | escapeKind | escapeDigit | lowSurrogate
  | character (code : Nat)
deriving DecidableEq

namespace Reading

/-- What is told of an error. -/
def message : Reading → String
  | value => "value expected"
  | valueOrEnd => "value or end of sequence expected"
  | commaOrEnd => "comma or end of sequence expected"
  | string => "string expected"
  | colon => "colon expected"
  | endOfText => "end of file expected"
  | digit => "expected digit"
  | unclosed => "unclosed string"
  | control => "invalid control character"
  | escapeEnd => "unterminated escape sequence"
  | escapeKind => "unknown escape sequence type"
  | escapeDigit => "invalid hexadecimal sequence"
  | lowSurrogate => "expected low surrogate"
  | character code => "invalid character with index " ++ toString code

/-- Blanks between the parts of a JSON text. -/
def isBlank (c : Char) : Bool := c == ' ' || c == '\t' || c == '\n' || c == '\r'

def skipBlanks (cs : List Char) : List Char := cs.dropWhile isBlank

/-! ## Numbers -/

/-- Digits, of which there has to be one. -/
def digits (cs : List Char) : Except Reading (List Char × List Char) :=
  let found := cs.takeWhile Char.isDigit
  if found.isEmpty then .error digit else .ok (found, cs.dropWhile Char.isDigit)

/-- The digits of a number before its point: nought alone, or no nought in front. -/
def wholeDigits (cs : List Char) : Except Reading (List Char × List Char) :=
  match cs with
  | '0' :: rest => .ok (['0'], rest)
  | cs => digits cs

/-- The power of ten of a number. -/
def powerDigits (mark : Char) (cs : List Char) : Except Reading (List Char × List Char) := do
  let (sign, cs) :=
    match cs with
    | '+' :: rest => (['+'], rest)
    | '-' :: rest => (['-'], rest)
    | cs => ([], cs)
  let (found, rest) ← digits cs
  return (mark :: sign ++ found, rest)

/-- The text of a number, and what comes after it. -/
def numberText (cs : List Char) : Except Reading (List Char × List Char) := do
  let (sign, cs) :=
    match cs with
    | '-' :: rest => (['-'], rest)
    | cs => ([], cs)
  let (whole, rest) ← wholeDigits cs
  let (fraction, rest) ←
    match rest with
    | '.' :: rest => do
      let (found, rest) ← digits rest
      pure ('.' :: found, rest)
    | rest => pure ([], rest)
  let (power, rest) ←
    match rest with
    | 'e' :: rest => powerDigits 'e' rest
    | 'E' :: rest => powerDigits 'E' rest
    | rest => pure ([], rest)
  return (sign ++ whole ++ fraction ++ power, rest)

/-! ## Texts -/

def hexDigit? (c : Char) : Option Nat :=
  if '0' ≤ c ∧ c ≤ '9' then some (c.toNat - 48)
  else if 'a' ≤ c ∧ c ≤ 'f' then some (c.toNat - 87)
  else if 'A' ≤ c ∧ c ≤ 'F' then some (c.toNat - 55)
  else none

/-- A unit of four digits in base sixteen. -/
def unit : Nat → Nat → List Char → Except Reading (Nat × List Char)
  | 0, n, cs => .ok (n, cs)
  | _ + 1, _, [] => .error escapeEnd
  | left + 1, n, c :: cs =>
    match hexDigit? c with
    | some d => unit left (16 * n + d) cs
    | none => .error escapeDigit

/-- The character of one unit, or of two that belong together. -/
def unicode (cs : List Char) : Except Reading (Char × List Char) := do
  let (high, cs) ← unit 4 0 cs
  if 0xD800 ≤ high ∧ high < 0xDC00 then
    match cs with
    | '\\' :: 'u' :: cs => do
      let (low, cs) ← unit 4 0 cs
      if 0xDC00 ≤ low ∧ low < 0xE000 then
        return (Char.ofNat (0x10000 + (high - 0xD800) * 0x400 + (low - 0xDC00)), cs)
      else throw lowSurrogate
    | _ => throw lowSurrogate
  else if h : high.isValidChar then return (Char.ofNatAux high h, cs)
  else throw (character high)

/-- What a backslash and a letter stand for. -/
def escaped (c : Char) (rest : List Char) : Except Reading (Char × List Char) :=
  match c with
  | '"' | '\\' | '/' => .ok (c, rest)
  | 'b' => .ok ('\x08', rest)
  | 'f' => .ok ('\x0c', rest)
  | 'n' => .ok ('\n', rest)
  | 'r' => .ok ('\r', rest)
  | 't' => .ok ('\t', rest)
  | 'u' => unicode rest
  | _ => .error escapeKind

/-- The characters of a text up to its closing quote; `done` holds those read, backwards. -/
def textBody : Nat → List Char → List Char → Except Reading (String × List Char)
  | 0, _, _ => .error unclosed
  | _ + 1, [], _ => .error unclosed
  | fuel + 1, c :: rest, done =>
    if c = '"' then .ok (String.ofList done.reverse, rest)
    else if c = '\\' then
      match rest with
      | [] => .error escapeEnd
      | letter :: rest => do
        let (d, rest) ← escaped letter rest
        textBody fuel rest (d :: done)
    else if c.toNat < 32 then .error control
    else textBody fuel rest (c :: done)

/-! ## Values -/

mutual

/-- A value without blanks in front, and what comes after it. -/
def valueAt : Nat → List Char → Except Reading (Data × List Char)
  | 0, _ => .error value
  | fuel + 1, cs =>
    match cs with
    | 'n' :: 'u' :: 'l' :: 'l' :: rest => .ok (.null, rest)
    | 't' :: 'r' :: 'u' :: 'e' :: rest => .ok (.bool true, rest)
    | 'f' :: 'a' :: 'l' :: 's' :: 'e' :: rest => .ok (.bool false, rest)
    | '"' :: rest => do
      let (s, rest) ← textBody (rest.length + 1) rest []
      return (.string s, rest)
    | '[' :: rest =>
      match skipBlanks rest with
      | [] => .error valueOrEnd
      | ']' :: rest => .ok (.array [], rest)
      | rest => do
        let (items, rest) ← itemsAt fuel rest []
        return (.array items, rest)
    | '\x7b' :: rest =>
      match skipBlanks rest with
      | [] => .error valueOrEnd
      | '\x7d' :: rest => .ok (.object [], rest)
      | rest => do
        let (members, rest) ← membersAt fuel rest []
        return (.object members, rest)
    | c :: _ =>
      if c == '-' || c.isDigit then do
        let (text, rest) ← numberText cs
        return (ofNumeralText (String.ofList text), rest)
      else .error value
    | [] => .error value

/-- The items of an array up to its closing bracket; `done` holds those read, backwards. -/
def itemsAt : Nat → List Char → List Data → Except Reading (List Data × List Char)
  | 0, _, _ => .error value
  | fuel + 1, cs, done => do
    let (item, rest) ← valueAt fuel cs
    match skipBlanks rest with
    | ']' :: rest => return ((item :: done).reverse, rest)
    | ',' :: rest => itemsAt fuel (skipBlanks rest) (item :: done)
    | _ => throw commaOrEnd

/-- The members of an object up to its closing brace. -/
def membersAt :
    Nat → List Char → List (String × Data) → Except Reading (List (String × Data) × List Char)
  | 0, _, _ => .error value
  | fuel + 1, cs, done => do
    let (name, rest) ←
      match cs with
      | '"' :: rest => textBody (rest.length + 1) rest []
      | [] => throw value
      | _ => throw string
    let rest ←
      match skipBlanks rest with
      | ':' :: rest => pure (skipBlanks rest)
      | _ => throw colon
    let (member, rest) ← valueAt fuel rest
    let done := Fields.put done name member
    match skipBlanks rest with
    | '\x7d' :: rest => return (done, rest)
    | ',' :: rest => membersAt fuel (skipBlanks rest) done
    | _ => throw commaOrEnd

end

/-- The datum that a text is. -/
def read (text : String) : Except Reading Data := do
  let cs := text.toList
  let (d, rest) ← valueAt (2 * cs.length + 2) (skipBlanks cs)
  if (skipBlanks rest).isEmpty then return d else throw endOfText

end Reading

end Data

end Specimen
