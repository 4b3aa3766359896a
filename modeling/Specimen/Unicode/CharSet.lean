/-!
# Sets of characters

A set of characters as ascending ranges of codes. `CharSet.ofRanges` brings any ranges into that form;
the operations keep it.

The tables of the standard are written as texts: codes and ranges of codes in base sixteen, with blanks
or ends of lines between them.
-/

namespace Specimen

/-- A set of codes: ascending ranges, both ends included, no two of which touch. -/
structure CharSet where
  ranges : List (Nat × Nat)
deriving DecidableEq

namespace CharSet

/-- The greatest code. -/
def top : Nat := 0x10FFFF

def empty : CharSet := ⟨[]⟩

def full : CharSet := ⟨[(0, top)]⟩

/-- Ascending ranges with those joined that touch. -/
def join : List (Nat × Nat) → List (Nat × Nat)
  | [] => []
  | [range] => [range]
  | (a, b) :: (c, d) :: rest =>
    if c ≤ b + 1 then join ((a, max b d) :: rest) else (a, b) :: join ((c, d) :: rest)
termination_by ranges => ranges.length

/-- The set of all codes in some ranges. -/
def ofRanges (ranges : List (Nat × Nat)) : CharSet :=
  ⟨join (ranges.mergeSort fun a b => decide (a.1 ≤ b.1))⟩

def ofRange (first last : Nat) : CharSet := ⟨[(first, last)]⟩

def ofChar (c : Char) : CharSet := ofRange c.toNat c.toNat

def contains (s : CharSet) (code : Nat) : Bool :=
  s.ranges.any fun (first, last) => decide (first ≤ code) && decide (code ≤ last)

def union (s t : CharSet) : CharSet := ofRanges (s.ranges ++ t.ranges)

def unions (sets : List CharSet) : CharSet := ofRanges (sets.flatMap ranges)

/-- The codes from `start` on that lie between ranges. -/
def gaps (start : Nat) : List (Nat × Nat) → List (Nat × Nat)
  | [] => if start ≤ top then [(start, top)] else []
  | (first, last) :: rest =>
    if start < first then (start, first - 1) :: gaps (last + 1) rest else gaps (last + 1) rest

/-- All codes that a set does not hold. -/
def compl (s : CharSet) : CharSet := ⟨gaps 0 s.ranges⟩

def inter (s t : CharSet) : CharSet := (s.compl.union t.compl).compl

def diff (s t : CharSet) : CharSet := s.inter t.compl

def symmDiff (s t : CharSet) : CharSet := (s.diff t).union (t.diff s)

/-- Whether all codes are below 128. -/
def isAscii (s : CharSet) : Bool := s.ranges.all fun range => decide (range.2 < 128)

/-! ## Tables -/

/-- The number of digits in base sixteen. -/
def hexValue (digits : String) : Nat :=
  digits.foldl (fun n c => 16 * n + (if c.isDigit then c.toNat - 48 else c.toNat - 55)) 0

/-- A code or a range of codes, as a table writes it. -/
def rangeOfText (text : String) : Nat × Nat :=
  match text.splitOn "-" with
  | [first, last] => (hexValue first, hexValue last)
  | _ => (hexValue text, hexValue text)

/-- The words of a text, between blanks and ends of lines. -/
def words (text : String) : List String :=
  ((text.splitOn "\n").flatMap (·.splitOn " ")).filter fun word => !word.isEmpty

/-- The set of a table. -/
def ofTable (table : String) : CharSet := ofRanges ((words table).map rangeOfText)

end CharSet

/-- A table with the names that it goes by, in small letters alone. -/
structure NamedSet where
  names : List String
  table : String

namespace NamedSet

def set (s : NamedSet) : CharSet := .ofTable s.table

/-- The set of a name. -/
def find? (tables : List NamedSet) (name : String) : Option CharSet :=
  (tables.find? (·.names.contains name)).map set

end NamedSet

end Specimen
