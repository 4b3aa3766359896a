import Specimen.Regex.Shape
import Specimen.Regex.Trie

/-!
# The size of an expression

How much memory the machine of an expression takes. It has states, and links from states to others.
Counted repetitions repeat the machine of what they repeat, so small texts may ask for large machines;
an expression is admitted only if its machine fits, read forwards and read backwards.

A `Part` of a machine is what building it adds to what was built before. How much that is depends on how
many states there are already, but only for sets read backwards, whose states are remembered in cells
that are found by the numbers of states (`ByteRow.Sharing`).
-/

namespace Specimen

namespace Regex

/-- What has been built of a machine: the number of its states, and the memory of its links. -/
structure Build where
  states : Nat
  links : Nat

namespace Build

/-- The memory of a state, of a link for a range of bytes, and of a link without any. -/
def stateSize : Nat := 32

def rangeSize : Nat := 8

def choiceSize : Nat := 4

def start : Build := ⟨0, 0⟩

def memory (b : Build) : Nat := stateSize * b.states + b.links

/-- The memory that a machine may take. -/
def limit : Nat := 10 * 1024 * 1024

end Build

/-- A part of a machine, by what there is once it is built. -/
structure Part where
  build : Build → Build

namespace Part

open Build

/-- So many states, with the memory of their links. -/
def states (count links : Nat) : Part := ⟨fun b => ⟨b.states + count, b.links + links⟩⟩

/-- A state that chooses between two others. -/
def fork : Part := states 1 (2 * choiceSize)

/-- One part after the other. -/
def andThen (p q : Part) : Part := ⟨fun b => q.build (p.build b)⟩

/-- Parts one after the other. -/
def all (parts : List Part) : Part := ⟨fun b => parts.foldl (fun b p => p.build b) b⟩

/-- What there is once a part has been built so many times, or does not fit any more. -/
def iterate (p : Part) : Nat → Build → Build
  | 0, b => b
  | count + 1, b => if limit < b.memory then b else iterate p count (p.build b)

/-- A part so many times over. -/
def times (p : Part) (count : Nat) : Part := ⟨p.iterate count⟩

/-! ## Sets and texts -/

/-- The part for a set of characters. -/
def ofSet (backwards : Bool) (s : CharSet) : Part :=
  if s.isAscii then states 2 (rangeSize * s.ranges.length)
  else if backwards then
    let rows := ByteRow.ofSet s
    ⟨fun b => ⟨ByteRow.statesAfter (b.states + 2) rows, b.links + choiceSize * rows.length⟩⟩
  else
    let ways := ByteRow.forwards s
    states (ways.length + 1) (ways.foldl (fun links ways => links + rangeSize * ways.length) 0)

/-- The states of a stage, and the memory of their links. -/
def ofStage (ways : Nat) : Part :=
  if ways = 0 then states 0 0
  else if ways = 1 then states 1 0
  else states 1 (rangeSize * ways)

mutual

/-- The part for a place in a tree of texts and all that follows: a state for each stage with its ways
on, and one that chooses between the stages and the ends of texts. -/
def ofPlace : ByteTrie → Part
  | .node closed current =>
    let stages := (closed ++ [current]).filter fun ways => !ways.isEmpty
    (ofStages closed).andThen <| (ofWays current).andThen <|
      (ofStage current.length).andThen (states 1 (choiceSize * (stages.length + closed.length)))

def ofStages : List (List (Nat × ByteTrie)) → Part
  | [] => states 0 0
  | ways :: rest => (ofWays ways).andThen ((ofStage ways.length).andThen (ofStages rest))

def ofWays : List (Nat × ByteTrie) → Part
  | [] => states 0 0
  | (_, t) :: rest => (if t.isLeaf then states 0 0 else ofPlace t).andThen (ofWays rest)

end

/-- The part for texts to choose between. -/
def ofTexts (backwards : Bool) (texts : List (List Nat)) : Part :=
  let texts := texts.map fun codes => Shape.bytes codes
  (states 1 0).andThen
    (ofPlace (.ofTexts (if backwards then texts.map List.reverse else texts)))

/-! ## Shapes -/

/-- A part at least, and perhaps at most, so many times; `consumes` tells whether no match of it is
empty. -/
def repetition (p : Part) (consumes : Bool) (least : Nat) (most : Option Nat) : Part :=
  match most with
  | none =>
    if least = 0 then
      if consumes then fork.andThen p else all [p, fork, fork, states 1 0]
    else (p.times least).andThen fork
  | some most =>
    if least = 0 ∧ most = 1 then all [fork, p, states 1 0]
    else if least = most then p.times least
    else
      all [if least = 0 then states 1 0 else p.times least, states 1 0,
        (fork.andThen p).times (most - least)]

/-- One of several parts: the state that chooses is built after the second. -/
def choice : List Part → Part
  | first :: second :: rest =>
    all (first :: second :: states 2 (choiceSize * (rest.length + 2)) :: rest)
  | parts => all parts

mutual

/-- The part for a shape. -/
def ofShape (backwards : Bool) : Shape → Part
  | .empty | .edge _ => states 1 0
  | .literal codes => states (Shape.bytes codes).length 0
  | .set s => ofSet backwards s
  | .repeated body least most _ =>
    (ofShape backwards body).repetition (body.minLength.any (0 < ·)) least most
  | .group body =>
    if backwards then ofShape backwards body
    else all [states 1 0, ofShape backwards body, states 1 0]
  | .sequence parts =>
    let parts := ofShapes backwards parts
    all (if backwards then parts.reverse else parts)
  | .choice branches =>
    match branches.mapM Shape.literal? with
    | some texts => ofTexts backwards texts
    | none => choice (ofShapes backwards branches)

def ofShapes (backwards : Bool) : List Shape → List Part
  | [] => []
  | s :: rest => ofShape backwards s :: ofShapes backwards rest

end

/-- The part that leads to the start of a match: a single state if matches start at the edge of the
text, and else one that passes over any byte. -/
def entrance (backwards : Bool) (s : Shape) : Part :=
  if s.borders backwards (if backwards then .textEnd else .textStart) then states 1 0
  else fork.andThen (states 2 rangeSize)

/-- The whole machine of a shape. Forwards, the whole match is a group. -/
def machine (backwards : Bool) (s : Shape) : Part :=
  all [entrance backwards s, ofShape backwards (if backwards then s else .group s), states 1 0]

end Part

/-- Whether the machines of an expression are not too large. -/
def fits (r : Regex) : Bool :=
  let shape := Shape.ofRegex r
  [false, true].all fun backwards =>
    decide (((Part.machine backwards shape).build .start).memory ≤ Build.limit)

end Regex

end Specimen
