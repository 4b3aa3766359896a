import Specimen.Regex.Basic
import Specimen.Regex.ByteRow

/-!
# The shape of an expression

An expression with everything out of it that does not matter for its machine: groups that capture
nothing, empty parts, and repetitions that repeat nothing. Characters in a row are one text;
alternatives that are single characters, or all sets, are one set; and alternatives that begin with the
same parts have those parts in front. `Shape.ofRegex` is put together by constructors that keep shapes
so (`concat`, `alternation`, `repetition`).
-/

namespace Specimen

namespace Regex

/-- The shape of an expression. -/
inductive Shape
  | empty
  /-- Characters in a row, by their codes. -/
  | literal (codes : List Nat)
  /-- A set of any number of characters but one. -/
  | set (set : CharSet)
  | edge (edge : Edge)
  | repeated (body : Shape) (least : Nat) (most : Option Nat) (lazy : Bool)
  | group (body : Shape)
  | sequence (parts : List Shape)
  | choice (branches : List Shape)

namespace Shape

/-- The bytes of characters in a row. -/
def bytes (codes : List Nat) : List Nat := codes.flatMap ByteRow.encode

mutual

/-- Whether two shapes are the same. A group is the same as no other, for each has its own match. -/
def same : Shape → Shape → Bool
  | .empty, .empty => true
  | .literal as, .literal bs => as == bs
  | .set s, .set t => decide (s = t)
  | .edge e, .edge f => decide (e = f)
  | .repeated a least most lazy, .repeated b least' most' lazy' =>
    least == least' && most == most' && lazy == lazy' && same a b
  | .sequence as, .sequence bs => sameAll as bs
  | .choice as, .choice bs => sameAll as bs
  | _, _ => false

def sameAll : List Shape → List Shape → Bool
  | [], [] => true
  | a :: as, b :: bs => same a b && sameAll as bs
  | _, _ => false

end

mutual

/-- The number of shapes within a shape. -/
def nodes : Shape → Nat
  | .repeated body _ _ _ | .group body => nodes body + 1
  | .sequence parts | .choice parts => nodesOf parts + 1
  | _ => 1

def nodesOf : List Shape → Nat
  | [] => 0
  | s :: rest => nodes s + nodesOf rest

end

/-! ## Lengths -/

mutual

/-- The least number of bytes in a match, if there are matches. -/
def minLength : Shape → Option Nat
  | .empty | .edge _ => some 0
  | .literal codes => some (bytes codes).length
  | .set s => s.ranges.head?.map fun range => (ByteRow.encode range.1).length
  | .repeated body least _ _ => (minLength body).map (least * ·)
  | .group body => minLength body
  | .sequence parts => minTotal parts
  | .choice branches => minLeast branches

/-- The least number of bytes in matches of all shapes together. -/
def minTotal : List Shape → Option Nat
  | [] => some 0
  | s :: rest => do return (← minLength s) + (← minTotal rest)

/-- The least number of bytes in a match of some shape, if each of them has matches. -/
def minLeast : List Shape → Option Nat
  | [] => none
  | [s] => minLength s
  | s :: rest => do return min (← minLength s) (← minLeast rest)

end

mutual

/-- The greatest number of bytes in a match, if there are matches and there is a greatest number. -/
def maxLength : Shape → Option Nat
  | .empty | .edge _ => some 0
  | .literal codes => some (bytes codes).length
  | .set s => s.ranges.getLast?.map fun range => (ByteRow.encode range.2).length
  | .repeated body _ most _ => do return (← maxLength body) * (← most)
  | .group body => maxLength body
  | .sequence parts => maxTotal parts
  | .choice branches => maxMost branches

def maxTotal : List Shape → Option Nat
  | [] => some 0
  | s :: rest => do return (← maxLength s) + (← maxTotal rest)

def maxMost : List Shape → Option Nat
  | [] => none
  | [s] => maxLength s
  | s :: rest => do return max (← maxLength s) (← maxMost rest)

end

/-- Whether all matches are empty, as far as the shape tells. -/
def onlyEmpty (s : Shape) : Bool := s.maxLength == some 0

/-! ## Edges at the ends -/

mutual

/-- Whether each match starts, or backwards ends, at an edge. -/
def borders (backwards : Bool) (e : Edge) : Shape → Bool
  | .edge f => decide (f = e)
  | .repeated body least _ _ => least != 0 && borders backwards e body
  | .group body => borders backwards e body
  | .sequence parts =>
    if backwards then (lastBorders e parts).1 else firstBorders e parts
  | .choice branches => allBorder backwards e branches
  | _ => false

/-- Whether one of the first parts, up to one that may match more than the empty text, starts at an
edge. -/
def firstBorders (e : Edge) : List Shape → Bool
  | [] => false
  | s :: rest => borders false e s || (s.onlyEmpty && firstBorders e rest)

/-- Whether one of the last parts, from one that may match more than the empty text, ends at an edge;
and whether all parts match the empty text alone. -/
def lastBorders (e : Edge) : List Shape → Bool × Bool
  | [] => (false, true)
  | s :: rest =>
    let (found, bare) := lastBorders e rest
    (found || (bare && borders true e s), bare && s.onlyEmpty)

def allBorder (backwards : Bool) (e : Edge) : List Shape → Bool
  | [] => true
  | s :: rest => borders backwards e s && allBorder backwards e rest

end

/-! ## Constructors -/

/-- A set; a single character is a text. -/
def ofSet (s : CharSet) : Shape :=
  match s.ranges with
  | [(first, last)] => if first = last then .literal [first] else .set s
  | _ => .set s

/-- Shapes in a row with the texts joined that stand next to each other. -/
def joinLiterals : List Shape → List Shape
  | [] => []
  | s :: rest =>
    match s, joinLiterals rest with
    | .literal as, .literal bs :: more => .literal (as ++ bs) :: more
    | s, joined => s :: joined

/-- The parts that a shape adds to a sequence. -/
def parts : Shape → List Shape
  | .empty => []
  | .sequence parts => parts
  | s => [s]

/-- Shapes one after the other. -/
def concat (shapes : List Shape) : Shape :=
  match joinLiterals (shapes.flatMap parts) with
  | [] => .empty
  | [s] => s
  | parts => .sequence parts

/-- A shape so many times. What matches the empty text alone does so at once. -/
def repetition (body : Shape) (least : Nat) (most : Option Nat) (lazy : Bool) : Shape :=
  let (least, most) :=
    if body.onlyEmpty then (min least 1, some ((most.map (min 1)).getD 1)) else (least, most)
  if most = some 0 then .empty
  else if least = 1 ∧ most = some 1 then body
  else .repeated body least most lazy

/-- The character of a shape that is one. -/
def single? : Shape → Option (Nat × Nat)
  | .literal [code] => some (code, code)
  | _ => none

/-- The set of a shape that is one. -/
def set? : Shape → Option CharSet
  | .set s => some s
  | _ => none

/-- The text of a shape that is one. -/
def literal? : Shape → Option (List Nat)
  | .literal codes => some codes
  | _ => none

/-- The parts of a shape that is a sequence. -/
def sequence? : Shape → Option (List Shape)
  | .sequence parts => some parts
  | _ => none

/-- How many parts two sequences have in common at their start. -/
def common : List Shape → List Shape → Nat
  | a :: as, b :: bs => if same a b then common as bs + 1 else 0
  | _, _ => 0

/-- How many parts all sequences have in common at their start. -/
def commonAll : List (List Shape) → Nat
  | [] => 0
  | first :: rest => rest.foldl (fun n parts => min n (common first parts)) first.length

/-- The branches that a shape adds to a choice. -/
def branches : Shape → List Shape
  | .choice branches => branches
  | s => [s]

/-- One of several shapes: a set if they are characters or sets; with the parts in front that all of
them begin with. -/
def alternationOf : Nat → List Shape → Shape
  | fuel, shapes =>
    let shapes := shapes.flatMap branches
    match shapes with
    | [s] => s
    | shapes =>
      match shapes.mapM single?, shapes.mapM set?, shapes.mapM sequence?, fuel with
      | some codes, _, _, _ => ofSet (.ofRanges codes)
      | none, some sets, _, _ => ofSet (.unions sets)
      | none, none, some (first :: rest), fuel + 1 =>
        let n := commonAll (first :: rest)
        if n = 0 then .choice shapes
        else
          concat (first.take n ++
            [alternationOf fuel ((first :: rest).map fun parts => concat (parts.drop n))])
      | _, _, _, _ => .choice shapes

def alternation (shapes : List Shape) : Shape := alternationOf (nodesOf shapes) shapes

/-- The alternatives of an expression. -/
def alternatives : Regex → List Shape
  | .empty => [.empty]
  | .one s => [ofSet s]
  | .edge e => [.edge e]
  | .seq first second =>
    [concat [alternation (alternatives first), alternation (alternatives second)]]
  | .either first second => alternatives first ++ alternatives second
  | .repeated body least most lazy =>
    [repetition (alternation (alternatives body)) least most lazy]
  | .group false body => [alternation (alternatives body)]
  | .group true body => [.group (alternation (alternatives body))]

def ofRegex (r : Regex) : Shape := alternation (alternatives r)

end Shape

end Regex

end Specimen
