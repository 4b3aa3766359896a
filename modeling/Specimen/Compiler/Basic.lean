import Specimen.Compiler.Plan
import Specimen.Descriptor.Guard
import Specimen.Descriptor.Dump

/-!
# Compilers

A compiler holds what was registered: strategies for extensions by name, strategies for marked
constraints by tag, rules for intersections by the set of kinds they cover, and strategies for
intersections of marked constraints by the set of tags they cover. Each of the four is an ordered
table in which the last registration under a key wins and keeps the place of the first.

A strategy is handed the bound on the size of generated collections and the node, and makes a `Plan`,
through which it has compiled whatever else it needs; so a registration made at any time is honoured
by every later compilation. How deep compilations may nest is bounded in `Specimen.Compiler.Compile`,
and what runs past the bound is abandoned.
-/

namespace Specimen

/-- An extension, as its strategy sees it. -/
structure ExtensionNode where
  name : String
  payload : Json
  guard : Predicate

/-- A marked constraint, as its strategy sees it. -/
structure MarkedConstraint where
  underlying : Descriptor
  predicate : Predicate
  correction : Option Correction
  args : Args Descriptor

abbrev ExtensionStrategy := Nat → ExtensionNode → Plan Generator
abbrev ConstraintStrategy := Nat → MarkedConstraint → Plan Generator
abbrev IntersectStrategy := Nat → List Descriptor → Plan Generator

/-- A strategy for the intersections all of whose kinds lie in a set. -/
structure IntersectionRule where
  name : String
  /-- The set of kinds, in the order of kinds. -/
  tags : List Tag
  strategy : IntersectStrategy

/-- A strategy for the intersections of marked constraints all of whose tags lie in a set. -/
structure CustomIntersection where
  /-- The set of tags, in ascending order. -/
  tags : List String
  strategy : IntersectStrategy

/-- Texts in ascending order, each once. -/
def textSet (texts : List String) : List String :=
  (texts.mergeSort fun a b => !decide (b < a)).eraseReps

/-- Everything registered, and the bound on the size of generated collections. -/
structure Compiler where
  strategies : List (String × ExtensionStrategy)
  customConstraints : List (String × ConstraintStrategy)
  customRules : List IntersectionRule
  customIntersections : List CustomIntersection
  maxSize : Nat

/-- Replaces the first entry of an equal key in place, or adds one at the end. -/
def register {α κ : Type} [BEq κ] (key : α → κ) (entry : α) : List α → List α
  | [] => [entry]
  | old :: rest =>
    if key old == key entry then entry :: rest else old :: register key entry rest

namespace Compiler

/-- The bound on the size of generated collections, unless another is set. -/
def defaultMaxSize : Nat := 10

/-- A compiler with nothing registered. -/
def new : Compiler := ⟨[], [], [], [], defaultMaxSize⟩

instance : Inhabited Compiler := ⟨new⟩

def withMaxSize (c : Compiler) (maxSize : Nat) : Compiler := { c with maxSize := maxSize }

/-- The strategy for the extensions of a name. -/
def registerStrategy (c : Compiler) (name : String) (strategy : ExtensionStrategy) : Compiler :=
  { c with strategies := register Prod.fst (name, strategy) c.strategies }

/-- The strategy for the constraints marked with a tag. -/
def registerCustomConstraint (c : Compiler) (tag : String) (strategy : ConstraintStrategy) :
    Compiler :=
  { c with customConstraints := register Prod.fst (tag, strategy) c.customConstraints }

/-- A rule for the intersections all of whose kinds are among `tags`. Built-in rules come first. -/
def registerIntersectionRule (c : Compiler) (name : String) (tags : List Tag)
    (strategy : IntersectStrategy) : Compiler :=
  { c with
    customRules :=
      register IntersectionRule.tags ⟨name, tagSet tags, strategy⟩ c.customRules }

/-- A strategy for the intersections of marked constraints all of whose tags are among `tags`. -/
def registerCustomIntersection (c : Compiler) (tags : List String)
    (strategy : IntersectStrategy) : Compiler :=
  { c with
    customIntersections :=
      register CustomIntersection.tags ⟨textSet tags, strategy⟩ c.customIntersections }

end Compiler

end Specimen
