import Specimen.Value.Basic

/-!
# Generators

A generator is a program that draws values, held as a tree of combinators. What it draws, how often
it rejects, and which filter a starved draw names is said once, in `Specimen.Generator.Draw`.

A choice among options has at least one by its type, so no generator is ever asked to choose among
none.
-/

namespace Specimen

inductive Generator
  | constant (v : Value)
  | boolean
  /-- Finite numbers of either sign. -/
  | number
  /-- Texts without control characters. -/
  | text
  /-- Undefined or null. -/
  | void
  | callable
  /-- JSON-like values, containers nested at most `depth` deep. -/
  | json (depth : Nat)
  /-- Given values, one after the other and round again; every draw from the tape of this identity
  moves it on, whoever draws. -/
  | tape (id : Nat) (values : List Value)
  /-- Between none and `most` elements. -/
  | array (element : Generator) (most : Nat)
  /-- Between none and `most` drawn members; a name drawn twice is one member. -/
  | dictionary (value : Generator) (most : Nat)
  /-- One option, each as likely as any other. -/
  | oneOf (first : Generator) (others : List Generator)
  /-- An array of one value from each. -/
  | tupleOf (components : List Generator)
  /-- An object of one member from each, in order. -/
  | recordOf (fields : List (String × Generator))
  | mapped (source : Generator) (f : Value → Value)
  /-- Draws until a value is kept. A rejection is noted under the label, if there is one. -/
  | filtered (source : Generator) (label : Option String) (keep : Value → Bool)
  /-- Draws one candidate from each and then a start, and takes the first candidate kept in cyclic
  order from the start; starts over when none is. -/
  | rotated (candidates : List Generator) (label : String) (keep : Value → Bool)
  /-- An array brought to `count` items that a test accepts: draws the array, `count` extras, and
  `count` slots for them. -/
  | mended (base extra : Generator) (count : Nat) (accepts : Value → Bool)

namespace Generator

/-- Nesting of arbitrary JSON values. -/
def jsonDepth : Nat := 3

/-- A drawn value, or the absent marker. -/
def optional (source : Generator) : Generator := oneOf source [constant .undefined]

/-- One of several options, if there are any. -/
def oneOf? : List Generator → Option Generator
  | [] => none
  | first :: others => some (oneOf first others)

/-- A value without those of the named members that are undefined. -/
def withoutAbsent (names : List String) (v : Value) : Value :=
  match v with
  | .object members =>
    .object (members.filter fun (name, member) => !(member.isUndefined && names.contains name))
  | v => v

/-- Leaves out the named members whose drawn value is the absent marker. -/
def dropAbsent (source : Generator) (names : List String) : Generator :=
  mapped source (withoutAbsent names)

end Generator

end Specimen
