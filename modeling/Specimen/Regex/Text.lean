import Specimen.Regex.Class
import Specimen.Regex.Size

/-!
# Regular expressions as text

How expressions are written: characters for themselves, dots and classes for one of several, anchors,
groups, alternatives, repetitions and flags. There are no references back and no looking around; a
text that asks for them, like any other that is not an expression, is none. So is a text whose
constructs stand too deep within each other, or whose expression is too large.

Flags hold from where they are set to the end of the group around them.
-/

namespace Specimen

namespace Regex

/-! ## Repetitions -/

/-- The greatest count of a repetition. -/
def countLimit : Nat := 0x100000000 - 1

/-- Digits, blanks aside where they do not count. -/
def countDigits (flags : Flags) : Nat → List Char → List Char → List Char × List Char
  | 0, cs, digits => (digits.reverse, cs)
  | fuel + 1, cs, digits =>
    match cs with
    | [] => (digits.reverse, [])
    | c :: rest =>
      if c.isDigit then countDigits flags fuel (skip flags rest) (c :: digits)
      else (digits.reverse, c :: rest)

/-- A count with blanks around it. -/
def count (flags : Flags) (cs : List Char) : Option (Nat × List Char) :=
  let (digits, rest) := countDigits flags (cs.length + 1) (cs.dropWhile isSpace) []
  let n := digits.foldl (fun n c => 10 * n + (c.toNat - '0'.toNat)) 0
  if digits.isEmpty ∨ countLimit < n then none
  else some (n, skip flags (rest.dropWhile isSpace))

/-- The bounds of a repetition, after the opening brace. -/
def bounds (flags : Flags) (cs : List Char) : Option (Nat × Option Nat × List Char) := do
  let (least, cs) ← count flags (skip flags cs)
  match cs with
  | '\x7d' :: rest => some (least, some least, rest)
  | ',' :: rest =>
    match skip flags rest with
    | '\x7d' :: rest => some (least, none, rest)
    | rest =>
      let (most, cs) ← count flags rest
      match cs with
      | '\x7d' :: rest => if least ≤ most then some (least, some most, rest) else none
      | _ => none
  | _ => none

/-- Whether a repetition is lazy, by the mark that may stand here, and the text after the mark. -/
def takeLazy (flags : Flags) : List Char → Bool × List Char
  | '?' :: rest => (!flags.lazy, rest)
  | rest => (flags.lazy, rest)

/-! ## Expressions -/

/-- A part of an expression, with its depth. Settings of flags are parts that match the empty text and
cannot be repeated. -/
structure Piece where
  regex : Regex
  depth : Nat
  repeatable : Bool

namespace Piece

def ofRegex (r : Regex) : Piece := ⟨r, 0, true⟩

/-- The piece repeated. -/
def repeated (p : Piece) (least : Nat) (most : Option Nat) (lazy : Bool) : Option Piece :=
  if p.repeatable then some ⟨.repeated p.regex least most lazy, p.depth + 1, true⟩ else none

/-- Pieces one after the other, given backwards. -/
def sequence (pieces : List Piece) : Piece :=
  match pieces with
  | [] => ⟨.empty, 0, false⟩
  | [piece] => piece
  | pieces =>
    ⟨pieces.foldl (fun rest p => p.regex.followedBy rest) .empty,
      pieces.foldl (fun d p => max d p.depth) 0 + 1, true⟩

/-- One of several pieces, given backwards; `last` is the last of them. -/
def choice (earlier : List Piece) (last : Piece) : Piece :=
  match earlier with
  | [] => last
  | earlier =>
    ⟨earlier.foldl (fun rest p => .either p.regex rest) last.regex,
      earlier.foldl (fun d p => max d p.depth) last.depth + 1, true⟩

end Piece

/-- What has been read of a group: the flags in force, the names of all groups, the alternatives that
are complete, and the pieces of the one that is not, all backwards. -/
structure Progress where
  flags : Flags
  names : List String
  alternatives : List Piece
  pieces : List Piece

namespace Progress

def start (flags : Flags) (names : List String) : Progress := ⟨flags, names, [], []⟩

def push (p : Progress) (piece : Piece) : Progress := { p with pieces := piece :: p.pieces }

def pushRegex (p : Progress) (r : Regex) : Progress := p.push (.ofRegex r)

/-- The last piece repeated, if there is one that can be; and the text after the mark that may tell
how. -/
def repeatLast (p : Progress) (least : Nat) (most : Option Nat) (cs : List Char) :
    Option (Progress × List Char) :=
  let (lazy, cs) := takeLazy p.flags cs
  match p.pieces with
  | [] => none
  | last :: rest =>
    (last.repeated least most lazy).map fun piece => ({ p with pieces := piece :: rest }, cs)

/-- The next alternative. -/
def alternate (p : Progress) : Progress :=
  { p with alternatives := .sequence p.pieces :: p.alternatives, pieces := [] }

/-- All that was read, as one piece. -/
def result (p : Progress) : Piece := .choice p.alternatives (.sequence p.pieces)

end Progress

/-- Whether a character may stand in the name of a group; the first is held to more. -/
def inGroupName (first : Bool) (c : Char) : Bool :=
  c == '_' || Unicode.Property.alphabetic.contains c.toNat ||
    (!first && (c == '.' || c == '[' || c == ']' || Unicode.Category.number.contains c.toNat))

/-- The name of a group up to its closing bracket, and the text after it. -/
def groupName (cs : List Char) : Option (String × List Char) :=
  let name := cs.takeWhile fun c => c != '>'
  match name, cs.drop name.length with
  | first :: others, '>' :: rest =>
    if inGroupName true first && others.all (inGroupName false) then
      some (String.ofList name, rest)
    else none
  | _, _ => none

/-- Everything but the ends of lines, or everything. -/
def dotSet (flags : Flags) : Option CharSet :=
  if !flags.unicode then none
  else if flags.dotAll then some .full
  else if flags.carriage then some (CharSet.ofRanges [(10, 10), (13, 13)]).compl
  else some (CharSet.ofChar '\n').compl

def startEdge (flags : Flags) : Edge :=
  if !flags.multiLine then .textStart else if flags.carriage then .anyLineStart else .lineStart

def endEdge (flags : Flags) : Edge :=
  if !flags.multiLine then .textEnd else if flags.carriage then .anyLineEnd else .lineEnd

/-- A piece that is not a group, a class or a repetition. -/
def parsePrimitive (flags : Flags) (c : Char) (rest : List Char) : Option (Regex × List Char) :=
  match c with
  | '\\' => do
    match ← escape flags rest with
    | (.char c byte, rest) => return (.one (← charSet flags c byte), rest)
    | (.kind set, rest) => return (.one set, rest)
    | (.edge e, rest) => return (.edge e, rest)
  | '.' => (dotSet flags).map fun set => (.one set, rest)
  | '^' => some (.edge (startEdge flags), rest)
  | '$' => some (.edge (endEdge flags), rest)
  | c => (charSet flags c false).map fun set => (.one set, rest)

mutual

/-- The pieces up to the end of the text or a closing parenthesis. -/
def parsePieces : Nat → List Char → Progress → Option (Progress × List Char)
  | 0, _, _ => none
  | fuel + 1, cs, p =>
    match skip p.flags cs with
    | [] => some (p, [])
    | ')' :: rest => some (p, ')' :: rest)
    | '|' :: rest => parsePieces fuel rest p.alternate
    | '(' :: rest => do
      let (p, rest) ← parseGroup fuel (skip p.flags rest) p
      parsePieces fuel rest p
    | '[' :: rest => do
      let (set, depth, rest) ← parseClass p.flags fuel rest
      parsePieces fuel rest (p.push ⟨.one set, depth, true⟩)
    | '?' :: rest => do
      let (p, rest) ← p.repeatLast 0 (some 1) rest
      parsePieces fuel rest p
    | '*' :: rest => do
      let (p, rest) ← p.repeatLast 0 none rest
      parsePieces fuel rest p
    | '+' :: rest => do
      let (p, rest) ← p.repeatLast 1 none rest
      parsePieces fuel rest p
    | '\x7b' :: rest => do
      let (least, most, rest) ← bounds p.flags rest
      let (p, rest) ← p.repeatLast least most (skip p.flags rest)
      parsePieces fuel rest p
    | c :: rest => do
      let (r, rest) ← parsePrimitive p.flags c rest
      parsePieces fuel rest (p.pushRegex r)

/-- A group, or a setting of flags, after the opening parenthesis. -/
def parseGroup : Nat → List Char → Progress → Option (Progress × List Char)
  | 0, _, _ => none
  | fuel + 1, cs, p =>
    match cs with
    | '?' :: '=' :: _ | '?' :: '!' :: _ | '?' :: '<' :: '=' :: _ | '?' :: '<' :: '!' :: _ => none
    | '?' :: 'P' :: '<' :: rest | '?' :: '<' :: rest => do
      let (name, rest) ← groupName rest
      if p.names.contains name then none
      else parseBody fuel p.flags true rest { p with names := name :: p.names }
    | '?' :: rest => do
      let (flags, rest) ← readFlags true [] p.flags rest
      match rest with
      | ':' :: rest => parseBody fuel flags false rest p
      | ')' :: after =>
        if cs.length = rest.length + 1 then none
        else some ({ p with flags }.push ⟨.empty, 0, false⟩, after)
      | _ => none
    | rest => parseBody fuel p.flags true rest p

/-- What a group holds, and its closing parenthesis. -/
def parseBody :
    Nat → Flags → Bool → List Char → Progress → Option (Progress × List Char)
  | 0, _, _, _, _ => none
  | fuel + 1, flags, captured, cs, p => do
    let (inner, rest) ← parsePieces fuel cs (.start flags p.names)
    match rest with
    | ')' :: rest =>
      let body := inner.result
      some
        ({ p with names := inner.names }.push ⟨.group captured body.regex, body.depth + 1, true⟩, rest)
    | _ => none

end

/-- How deep constructs may stand within each other. -/
def depthLimit : Nat := 250

/-- The expression that a text is, if it is one. -/
def parse (text : String) : Option Regex :=
  let cs := text.toList
  match parsePieces (3 * cs.length + 4) cs (.start .initial []) with
  | some (p, []) =>
    let whole := p.result
    if whole.depth ≤ depthLimit ∧ whole.regex.fits then some whole.regex else none
  | _ => none

end Regex

end Specimen
