import Specimen.Json.Decimal
import Specimen.Json.Reading

/-!
# Reading JSON text

`Json.readFirst` reads the first JSON value of a text and answers it as a reading, together with
the text after it. Containers may be nested 127 deep. `Json.parse` reads a text that holds exactly
one value and settles it.
-/

namespace Specimen

namespace Json

/-- How many containers may be nested. -/
def depthLimit : Nat := 127

/-- The blanks between tokens. -/
def isBlank (c : Char) : Bool := c = ' ' || c = '\n' || c = '\t' || c = '\r'

def skipBlanks (cs : List Char) : List Char := cs.dropWhile isBlank

def isDigit (c : Char) : Bool := decide ('0' ≤ c) && decide (c ≤ '9')

def digitOf (c : Char) : Nat := c.toNat - 48

/-- The digits at the front of a text, and the rest. -/
def takeDigits (cs : List Char) : List Nat × List Char :=
  ((cs.takeWhile isDigit).map digitOf, cs.dropWhile isDigit)

/-- A hexadecimal digit. -/
def hexOf? (c : Char) : Option Nat :=
  if '0' ≤ c ∧ c ≤ '9' then some (c.toNat - 48)
  else if 'a' ≤ c ∧ c ≤ 'f' then some (c.toNat - 87)
  else if 'A' ≤ c ∧ c ≤ 'F' then some (c.toNat - 55)
  else none

/-- Four hexadecimal digits at the front of a text. -/
def takeHex : List Char → Option (Nat × List Char)
  | a :: b :: c :: d :: rest => do
    let a ← hexOf? a
    let b ← hexOf? b
    let c ← hexOf? c
    let d ← hexOf? d
    some (((a * 16 + b) * 16 + c) * 16 + d, rest)
  | _ => none

/-- The character after a backslash and a `u`: a scalar value, or two surrogates that form one. -/
def takeUnicode (cs : List Char) : Option (Char × List Char) := do
  let (unit, rest) ← takeHex cs
  if 0xD800 ≤ unit ∧ unit < 0xDC00 then
    match rest with
    | '\\' :: 'u' :: rest =>
      let (low, rest) ← takeHex rest
      if 0xDC00 ≤ low ∧ low < 0xE000 then
        some (Char.ofNat (0x10000 + (unit - 0xD800) * 0x400 + (low - 0xDC00)), rest)
      else none
    | _ => none
  else if 0xDC00 ≤ unit ∧ unit < 0xE000 then none
  else some (Char.ofNat unit, rest)

/-- The rest of a string whose opening quote has been read; `done` holds what was read, backwards.
Every step takes at least one character, so `fuel` beyond the length of the text is never used. -/
def takeString : Nat → List Char → List Char → Option (String × List Char)
  | 0, _, _ => none
  | fuel + 1, cs, done =>
    match cs with
    | [] => none
    | '"' :: rest => some (String.ofList done.reverse, rest)
    | '\\' :: 'u' :: rest =>
      match takeUnicode rest with
      | some (c, rest) => takeString fuel rest (c :: done)
      | none => none
    | '\\' :: c :: rest =>
      if c = '"' ∨ c = '\\' ∨ c = '/' then takeString fuel rest (c :: done)
      else if c = 'b' then takeString fuel rest ('\x08' :: done)
      else if c = 'f' then takeString fuel rest ('\x0c' :: done)
      else if c = 'n' then takeString fuel rest ('\n' :: done)
      else if c = 'r' then takeString fuel rest ('\r' :: done)
      else if c = 't' then takeString fuel rest ('\t' :: done)
      else none
    | c :: rest => if c.toNat < 32 then none else takeString fuel rest (c :: done)

/-- The power of ten of a number, if one is written. -/
def takePower : List Char → Option (Option (Bool × List Nat) × List Char)
  | c :: rest =>
    if c = 'e' ∨ c = 'E' then
      let (minus, rest) :=
        match rest with
        | '-' :: rest => (true, rest)
        | '+' :: rest => (false, rest)
        | rest => (false, rest)
      match takeDigits rest with
      | ([], _) => none
      | (digits, rest) => some (some (minus, digits), rest)
    else some (none, c :: rest)
  | [] => some (none, [])

/-- A number at the front of a text, as it is written. No nought stands before other digits. -/
def takeNumber (cs : List Char) : Option (WrittenNumber × List Char) := do
  let (negative, cs) :=
    match cs with
    | '-' :: rest => (true, rest)
    | cs => (false, cs)
  let (whole, cs) := takeDigits cs
  match whole with
  | [] => none
  | 0 :: _ :: _ => none
  | _ =>
    let (fraction, cs) ←
      match cs with
      | '.' :: rest =>
        match takeDigits rest with
        | ([], _) => none
        | (digits, rest) => some (some digits, rest)
      | cs => some (none, cs)
    let (power, cs) ← takePower cs
    some (⟨negative, whole, fraction, power⟩, cs)

/-- The text after a given word, if the text starts with it. -/
def takeWord : List Char → List Char → Option (List Char)
  | [], cs => some cs
  | w :: ws, c :: cs => if w = c then takeWord ws cs else none
  | _ :: _, [] => none

/-- A value and the text after it; no text when reading broke off inside the value. -/
abbrev Step := Reading × Option (List Char)

/-- Reading breaks off. -/
def stopped (fault : Fault) : Step := (.broken fault, none)

/-- The rest of a word whose first character has been read, and what the word says. -/
def word (text : String) (value : Reading) (cs : List Char) : Step :=
  match takeWord text.toList cs with
  | some rest => (value, some rest)
  | none => stopped .malformed

mutual

/-- One value. `depth` containers may still be opened; `fuel` bounds the characters left. -/
def readValue : Nat → Nat → List Char → Step
  | 0, _, _ => stopped .malformed
  | fuel + 1, depth, cs =>
    match skipBlanks cs with
    | [] => stopped .malformed
    | '"' :: rest =>
      match takeString fuel rest [] with
      | some (s, rest) => (.string s, some rest)
      | none => stopped .malformed
    | '[' :: rest =>
      match depth with
      | 0 => stopped .tooDeep
      | depth + 1 =>
        match skipBlanks rest with
        | ']' :: rest => (.array [], some rest)
        | rest =>
          let (items, after) := readItems fuel depth rest
          (.array items, after)
    | '\x7b' :: rest =>
      match depth with
      | 0 => stopped .tooDeep
      | depth + 1 =>
        match skipBlanks rest with
        | '\x7d' :: rest => (.object [] none, some rest)
        | rest =>
          let (members, stop, after) := readMembers fuel depth rest
          (.object members stop, after)
    | 'n' :: rest => word "ull" .null rest
    | 't' :: rest => word "rue" (.bool true) rest
    | 'f' :: rest => word "alse" (.bool false) rest
    | cs =>
      match takeNumber cs with
      | none => stopped .malformed
      | some (written, rest) =>
        match written.numeral? with
        | some n => (.number n, some rest)
        | none => stopped .malformed

/-- The items of an array from a first one on. -/
def readItems : Nat → Nat → List Char → List Reading × Option (List Char)
  | 0, _, _ => ([.broken .malformed], none)
  | fuel + 1, depth, cs =>
    match readValue fuel depth cs with
    | (item, none) => ([item], none)
    | (item, some rest) =>
      match skipBlanks rest with
      | ',' :: rest =>
        let (items, after) := readItems fuel depth rest
        (item :: items, after)
      | ']' :: rest => ([item], some rest)
      | _ => ([item, .broken .malformed], none)

/-- The members of an object from a first one on. -/
def readMembers : Nat → Nat → List Char →
    List (String × Reading) × Option Fault × Option (List Char)
  | 0, _, _ => ([], some .malformed, none)
  | fuel + 1, depth, cs =>
    match skipBlanks cs with
    | '"' :: rest =>
      match takeString fuel rest [] with
      | none => ([], some .malformed, none)
      | some (name, rest) =>
        match skipBlanks rest with
        | ':' :: rest =>
          match readValue fuel depth rest with
          | (member, none) => ([(name, member)], none, none)
          | (member, some rest) =>
            match skipBlanks rest with
            | ',' :: rest =>
              let (members, stop, after) := readMembers fuel depth rest
              ((name, member) :: members, stop, after)
            | '\x7d' :: rest => ([(name, member)], none, some rest)
            | _ => ([(name, member)], some .malformed, none)
        | _ => ([(name, .broken .malformed)], none, none)
    | _ => ([], some .malformed, none)

end

/-- The first value of a text, and the text after it. -/
def readFirst (text : String) : Step :=
  let cs := text.toList
  readValue (2 * cs.length + 2) depthLimit cs

/-- The one value of a text that holds nothing else. -/
def parse (text : String) : Except Fault Json :=
  match readFirst text with
  | (reading, none) => reading.settle
  | (reading, some rest) =>
    match reading.settle with
    | .error fault => .error fault
    | .ok json => if (skipBlanks rest).isEmpty then .ok json else .error .malformed

end Json

end Specimen
