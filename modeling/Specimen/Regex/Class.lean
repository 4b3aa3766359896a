import Specimen.Regex.Escape

/-!
# Classes of characters

A class stands between brackets: characters, ranges, kinds of characters and further classes, all of
which belong to it, and operators between them, which group from the left. Where case does not count,
the cases are filled in before sets are combined and before a class is negated.

Along with its set, a class has a depth: how far constructs stand within each other.
-/

namespace Specimen

namespace Regex

/-- A class by a name between colons. -/
def asciiKind? (name : String) : Option CharSet :=
  match name with
  | "alnum" => some (.ofRanges [(0x30, 0x39), (0x41, 0x5A), (0x61, 0x7A)])
  | "alpha" => some (.ofRanges [(0x41, 0x5A), (0x61, 0x7A)])
  | "ascii" => some (.ofRange 0 0x7F)
  | "blank" => some (.ofRanges [(9, 9), (32, 32)])
  | "cntrl" => some (.ofRanges [(0, 31), (127, 127)])
  | "digit" => some asciiDigit
  | "graph" => some (.ofRange 33 126)
  | "lower" => some (.ofRange 0x61 0x7A)
  | "print" => some (.ofRange 32 126)
  | "punct" => some (.ofRanges [(33, 47), (58, 64), (91, 96), (123, 126)])
  | "space" => some asciiSpace
  | "upper" => some (.ofRange 0x41 0x5A)
  | "word" => some Edge.asciiWord
  | "xdigit" => some (.ofRanges [(0x30, 0x39), (0x41, 0x46), (0x61, 0x66)])
  | _ => none

/-- A class between colons, if one stands here: whether it is negated, and its set. -/
def asciiClass (cs : List Char) : Option (Bool × CharSet × List Char) :=
  let (negated, cs) :=
    match cs with
    | '^' :: rest => (true, rest)
    | cs => (false, cs)
  let name := cs.takeWhile fun c => c != ':'
  match cs.drop name.length with
  | ':' :: ']' :: rest =>
    (asciiKind? (String.ofList name)).map fun set => (negated, set, rest)
  | _ => none

/-- How two parts of a class are combined. -/
inductive ClassOp
  | intersection | difference | symmetric

def ClassOp.apply : ClassOp → CharSet → CharSet → CharSet
  | intersection => CharSet.inter
  | difference => CharSet.diff
  | symmetric => CharSet.symmDiff

/-- What has been read of a class: what stands before the last operator, with its depth, and the items
after it. -/
structure ClassParts where
  before : Option (ClassOp × CharSet × Nat)
  since : CharSet
  items : Nat
  /-- The depth of the deepest item. -/
  depth : Nat

namespace ClassParts

def start : ClassParts := ⟨none, .empty, 0, 0⟩

/-- One more item. -/
def add (p : ClassParts) (set : CharSet) (depth : Nat) : ClassParts :=
  { p with since := p.since.union set, items := p.items + 1, depth := max p.depth depth }

/-- The set of all parts and their depth. -/
def result (flags : Flags) (p : ClassParts) : CharSet × Nat :=
  let depth := if 2 ≤ p.items then p.depth + 1 else p.depth
  match p.before with
  | none => (p.since, depth)
  | some (op, set, d) => (op.apply (flags.fold set) (flags.fold p.since), max d depth + 1)

/-- The parts so far as the left side of an operator. -/
def next (flags : Flags) (p : ClassParts) (op : ClassOp) : ClassParts :=
  let (set, depth) := p.result flags
  ⟨some (op, set, depth), .empty, 0, 0⟩

end ClassParts

/-- One character of a class, or a kind of characters. -/
def classItem (flags : Flags) (cs : List Char) : Option ((Char ⊕ CharSet) × List Char) :=
  match cs with
  | [] => none
  | '\\' :: rest =>
    match escape flags rest with
    | some (.char c _, rest) => some (.inl c, rest)
    | some (.kind set, rest) => some (.inr set, rest)
    | _ => none
  | c :: rest => some (.inl c, rest)

/-- The characters of an item. -/
def itemSet (flags : Flags) (item : Char ⊕ CharSet) : Option CharSet :=
  match item with
  | .inl c => (classChar flags c).map fun code => .ofRange code code
  | .inr set => some set

/-- The characters between two items, if both are characters and in order. -/
def rangeSet (flags : Flags) (first last : Char ⊕ CharSet) : Option CharSet :=
  match first, last with
  | .inl a, .inl b => do
    let first ← classChar flags a
    let last ← classChar flags b
    if first ≤ last then some (.ofRange first last) else none
  | _, _ => none

/-- What comes first in a class: hyphens, taken as they are. -/
def classStart (flags : Flags) : Nat → List Char → ClassParts → ClassParts × List Char
  | 0, cs, parts => (parts, cs)
  | fuel + 1, cs, parts =>
    match skip flags cs with
    | '-' :: rest => classStart flags fuel rest (parts.add (.ofChar '-') 0)
    | cs => (parts, cs)

/-- What comes first in a class: hyphens, or else a closing bracket, taken as they are. -/
def classOpening (flags : Flags) (cs : List Char) : ClassParts × List Char :=
  match classStart flags (cs.length + 1) cs .start with
  | (parts, ']' :: rest) =>
    if parts.items = 0 then (parts.add (.ofChar ']') 0, rest) else (parts, ']' :: rest)
  | started => started

mutual

/-- A class after its opening bracket: its set, its depth, and the text after it. -/
def parseClass (flags : Flags) : Nat → List Char → Option (CharSet × Nat × List Char)
  | 0, _ => none
  | fuel + 1, cs => do
    let (negated, cs) :=
      match skip flags cs with
      | '^' :: rest => (true, rest)
      | cs => (false, cs)
    let (parts, rest) := classOpening flags cs
    let (parts, rest) ← parseClassItems flags fuel rest parts
    let (set, depth) := parts.result flags
    return (← flags.sign negated (flags.fold set), depth + 1, rest)

/-- The items of a class up to its closing bracket. -/
def parseClassItems (flags : Flags) :
    Nat → List Char → ClassParts → Option (ClassParts × List Char)
  | 0, _, _ => none
  | fuel + 1, cs, parts =>
    match skip flags cs with
    | [] => none
    | ']' :: rest => some (parts, rest)
    | '&' :: '&' :: rest => parseClassItems flags fuel rest (parts.next flags .intersection)
    | '~' :: '~' :: rest => parseClassItems flags fuel rest (parts.next flags .symmetric)
    | '-' :: '-' :: rest => parseClassItems flags fuel rest (parts.next flags .difference)
    | '[' :: rest =>
      let colons :=
        match rest with
        | ':' :: named => asciiClass named
        | _ => none
      match colons with
      | some (negated, set, rest) => do
        let set ← flags.sign negated (flags.fold set)
        parseClassItems flags fuel rest (parts.add set 0)
      | none => do
        let (set, depth, rest) ← parseClass flags fuel rest
        parseClassItems flags fuel rest (parts.add set depth)
    | cs => do
      let (item, rest) ← classItem flags cs
      let alone : Option CharSet := itemSet flags item
      match skip flags rest with
      | '-' :: after =>
        match skip flags after with
        | [] => none
        | ']' :: _ => parseClassItems flags fuel rest (parts.add (← alone) 0)
        | '-' :: _ => parseClassItems flags fuel rest (parts.add (← alone) 0)
        | after => do
          let (last, rest) ← classItem flags after
          parseClassItems flags fuel rest (parts.add (← rangeSet flags item last) 0)
      | rest => parseClassItems flags fuel rest (parts.add (← alone) 0)

end

end Regex

end Specimen
