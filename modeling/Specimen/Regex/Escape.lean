import Specimen.Regex.Basic
import Specimen.Regex.Flags
import Specimen.Unicode.Lookup

/-!
# Escapes of regular expressions

What a backslash makes of what follows it: a character by its number or by a letter, a kind of
characters, or an edge.
-/

namespace Specimen

namespace Regex

/-- What an escape stands for. -/
inductive Escaped
  /-- A character; `byte` tells whether it was written as a single byte. -/
  | char (c : Char) (byte : Bool)
  | kind (set : CharSet)
  | edge (e : Edge)

/-! ## Characters by number -/

def hexDigit? (c : Char) : Option Nat :=
  if '0' ≤ c ∧ c ≤ '9' then some (c.toNat - '0'.toNat)
  else if 'a' ≤ c ∧ c ≤ 'f' then some (c.toNat - 'a'.toNat + 10)
  else if 'A' ≤ c ∧ c ≤ 'F' then some (c.toNat - 'A'.toNat + 10)
  else none

/-- The character of a number, if there is one. -/
def charOf? (n : Nat) : Option Char := if n.isValidChar then some (Char.ofNat n) else none

/-- The character of hexadecimal digits. -/
def hexChar? (digits : List Char) : Option Char := do
  if digits.isEmpty then none
  else charOf? ((← digits.mapM hexDigit?).foldl (fun n digit => 16 * n + digit) 0)

/-- What stands before the closing brace, blanks aside where they do not count, and what comes after
it. -/
def braced (flags : Flags) : Nat → List Char → List Char → Option (List Char × List Char)
  | 0, _, _ => none
  | fuel + 1, cs, inside =>
    match skip flags cs with
    | [] => none
    | c :: rest =>
      if c = '\x7d' then some (inside.reverse, rest) else braced flags fuel rest (c :: inside)

/-- So many characters, blanks aside where they do not count. -/
def takeCounted (flags : Flags) : Nat → List Char → Option (List Char × List Char)
  | 0, cs => some ([], cs)
  | width + 1, cs =>
    match skip flags cs with
    | [] => none
    | c :: rest => (takeCounted flags width rest).map fun (taken, rest) => (c :: taken, rest)

/-- A character by its number, in braces or in so many digits. -/
def numbered (flags : Flags) (width : Nat) (cs : List Char) : Option (Char × List Char) :=
  match skip flags cs with
  | '\x7b' :: rest => do
    let (digits, rest) ← braced flags (rest.length + 1) rest []
    return (← hexChar? digits, rest)
  | cs => do
    let (digits, rest) ← takeCounted flags width cs
    return (← hexChar? digits, rest)

/-! ## Kinds of characters -/

/-- The digits below 128. -/
def asciiDigit : CharSet := .ofRange 0x30 0x39

/-- The white space below 128. -/
def asciiSpace : CharSet := .ofRanges [(9, 13), (32, 32)]

def digitKind (flags : Flags) : CharSet :=
  if flags.unicode then Unicode.Category.of "nd" else asciiDigit

def spaceKind (flags : Flags) : CharSet :=
  if flags.unicode then Unicode.Property.of "whitespace" else asciiSpace

def wordKind (flags : Flags) : CharSet := Edge.word !flags.unicode

/-- The text before and after the first place where a separator stands. -/
def cutAt (separator : List Char) : List Char → List Char → Option (String × String)
  | [], _ => none
  | c :: rest, before =>
    if separator.isPrefixOf (c :: rest) then
      some (String.ofList before.reverse, String.ofList ((c :: rest).drop separator.length))
    else cutAt separator rest (c :: before)

/-- The characters of a property by its name, or by its name and value; and whether those are meant for
which it has another value. -/
def propertyNamed? (cs : List Char) : Option (CharSet × Bool) :=
  let valued (name value : String) (other : Bool) : Option (CharSet × Bool) :=
    (Unicode.valued? name value).map fun set => (set, other)
  match cutAt ['!', '='] cs [], cutAt [':'] cs [], cutAt ['='] cs [] with
  | some (name, value), _, _ => valued name value true
  | none, some (name, value), _ => valued name value false
  | none, none, some (name, value) => valued name value false
  | none, none, none => (Unicode.named? (String.ofList cs)).map fun set => (set, false)

/-- A property by its letter or, in braces, by its name. -/
def property (flags : Flags) (negated : Bool) (cs : List Char) :
    Option (CharSet × List Char) := do
  if !flags.unicode then none
  else
    let ((set, other), rest) ←
      match skip flags cs with
      | '\x7b' :: rest => do
        let (name, rest) ← braced flags (rest.length + 1) rest []
        pure (← propertyNamed? name, rest)
      | '\\' :: _ => none
      | c :: rest => do pure ((← Unicode.named? (String.singleton c), false), rest)
      | [] => none
    return (← flags.sign (negated != other) (flags.fold set), rest)

/-! ## Edges -/

/-- The letters and hyphens that a name in braces is made of, and the text after them. -/
def edgeName (flags : Flags) : Nat → List Char → List Char → Option (String × List Char)
  | 0, _, _ => none
  | fuel + 1, cs, name =>
    match skip flags cs with
    | '\x7d' :: rest => some (String.ofList name.reverse, rest)
    | c :: rest =>
      if c.isAlpha || c == '-' then edgeName flags fuel rest (c :: name) else none
    | [] => none

/-- The edge after the letter for word edges: named in braces if a name stands there. -/
def namedEdge (flags : Flags) (cs : List Char) : Option (Edge × List Char) :=
  let ascii := !flags.unicode
  match cs with
  | '\x7b' :: rest =>
    match skip flags rest with
    | [] => none
    | c :: more =>
      if c.isAlpha || c == '-' then do
        let (name, rest) ← edgeName flags (more.length + 2) (c :: more) []
        match name with
        | "start" => some (.wordStart ascii, rest)
        | "end" => some (.wordEnd ascii, rest)
        | "start-half" => some (.wordStartHalf ascii, rest)
        | "end-half" => some (.wordEndHalf ascii, rest)
        | _ => none
      else some (.wordEdge ascii, cs)
  | cs => some (.wordEdge ascii, cs)

/-- What follows a backslash. -/
def escape (flags : Flags) (cs : List Char) : Option (Escaped × List Char) :=
  let char (c : Char) (rest : List Char) : Option (Escaped × List Char) :=
    some (.char c false, rest)
  let kind (set : CharSet) (negated : Bool) (rest : List Char) : Option (Escaped × List Char) :=
    (flags.sign negated set).map fun set => (.kind set, rest)
  let edge (e : Edge) (rest : List Char) : Option (Escaped × List Char) := some (.edge e, rest)
  let ascii := !flags.unicode
  match cs with
  | [] => none
  | 'x' :: rest => do
    let byte := (skip flags rest).head? != some '\x7b'
    let (c, rest) ← numbered flags 2 rest
    return (.char c byte, rest)
  | 'u' :: rest => do
    let (c, rest) ← numbered flags 4 rest
    char c rest
  | 'U' :: rest => do
    let (c, rest) ← numbered flags 8 rest
    char c rest
  | 'p' :: rest => (property flags false rest).map fun (set, rest) => (.kind set, rest)
  | 'P' :: rest => (property flags true rest).map fun (set, rest) => (.kind set, rest)
  | 'd' :: rest => kind (digitKind flags) false rest
  | 'D' :: rest => kind (digitKind flags) true rest
  | 's' :: rest => kind (spaceKind flags) false rest
  | 'S' :: rest => kind (spaceKind flags) true rest
  | 'w' :: rest => kind (wordKind flags) false rest
  | 'W' :: rest => kind (wordKind flags) true rest
  | 'a' :: rest => char '\x07' rest
  | 'f' :: rest => char '\x0c' rest
  | 't' :: rest => char '\t' rest
  | 'n' :: rest => char '\n' rest
  | 'r' :: rest => char '\r' rest
  | 'v' :: rest => char '\x0b' rest
  | 'A' :: rest => edge .textStart rest
  | 'z' :: rest => edge .textEnd rest
  | 'b' :: rest => (namedEdge flags rest).map fun (e, rest) => (.edge e, rest)
  | 'B' :: rest => edge (.noWordEdge ascii) rest
  | '<' :: rest => edge (.wordStart ascii) rest
  | '>' :: rest => edge (.wordEnd ascii) rest
  | c :: rest => if c.toNat < 128 ∧ !c.isAlphanum then char c rest else none

/-- The set of a character in a class. Where characters are the first 128, a class holds no other. -/
def classChar (flags : Flags) (c : Char) : Option Nat :=
  if flags.unicode || c.toNat < 128 then some c.toNat else none

/-- The set of a character outside a class, in all cases that it may take. A single byte beyond the
first 128 is no whole character. -/
def charSet (flags : Flags) (c : Char) (byte : Bool) : Option CharSet :=
  if flags.unicode then some (flags.fold (.ofChar c))
  else if c.toNat < 128 then some (flags.fold (.ofChar c))
  else if byte then none
  else some (.ofChar c)

end Regex

end Specimen
