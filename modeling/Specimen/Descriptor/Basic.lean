import Specimen.Args
import Specimen.Value.Basic

/-!
# Descriptors

A descriptor is a tree of nodes, each with a shape. Every node carries an identity, so that a type
which stands under many parents is recognised as the same node there, however alike two nodes may
look; nothing but identity itself (`Descriptor.same`) depends on identities. They are handed out by
`Fresh`.

Predicates and corrections are functions under a name. The name is how reports speak of them.
-/

namespace Specimen

/-- A test of values. -/
structure Predicate where
  name : String
  test : Value → Bool

/-- A repair of values. -/
structure Correction where
  name : String
  apply : Value → Value

mutual

/-- A described type. -/
inductive Descriptor
  | node (id : Nat) (shape : Shape)

/-- What a node says of its values. -/
inductive Shape
  | always
  | array (element : Descriptor)
  | boolean
  /-- The values of `underlying` that a predicate accepts. A correction makes an accepted value of
  any other; arguments mark the constraint for a strategy of its own. -/
  | constraint (underlying : Descriptor) (predicate : Predicate)
      (correction : Option Correction) (args : Option (Args Descriptor))
  | dictionary (value : Descriptor)
  | function
  | intersect (intersectees : List Descriptor)
  | literal (value : Value)
  | number
  | partialRecord (fields : List (String × Descriptor))
  | record (fields : List (String × Descriptor))
  | string
  | tuple (components : List Descriptor)
  | union (alternatives : List Descriptor)
  | void
  /-- A type of another kind: a registered strategy generates it, and a guard recognises it. -/
  | extension (name : String) (payload : Json) (guard : Predicate)

end

instance : Inhabited Descriptor := ⟨.node 0 .always⟩

/-- The kinds of shape, in the order in which sets of them are listed. -/
inductive Tag
  | always | array | boolean | constraint | dictionary | function | intersect | literal | number
  | partialRecord | record | string | tuple | union | void | extension
deriving DecidableEq

namespace Tag

/-- All kinds of shape, in their order. -/
def all : List Tag :=
  [always, array, boolean, constraint, dictionary, function, intersect, literal, number,
    partialRecord, record, string, tuple, union, void, extension]

def name : Tag → String
  | always => "always"
  | array => "array"
  | boolean => "boolean"
  | constraint => "constraint"
  | dictionary => "dictionary"
  | function => "function"
  | intersect => "intersect"
  | literal => "literal"
  | number => "number"
  | partialRecord => "partial"
  | record => "record"
  | string => "string"
  | tuple => "tuple"
  | union => "union"
  | void => "void"
  | extension => "extension"

def ofName? (name : String) : Option Tag := all.find? fun tag => tag.name == name

end Tag

/-- The set of kinds in a list, in the order of kinds. -/
def tagSet (tags : List Tag) : List Tag := Tag.all.filter tags.contains

namespace Shape

def tag : Shape → Tag
  | always => .always
  | array _ => .array
  | boolean => .boolean
  | constraint _ _ _ _ => .constraint
  | dictionary _ => .dictionary
  | function => .function
  | intersect _ => .intersect
  | literal _ => .literal
  | number => .number
  | partialRecord _ => .partialRecord
  | record _ => .record
  | string => .string
  | tuple _ => .tuple
  | union _ => .union
  | void => .void
  | extension _ _ _ => .extension

end Shape

namespace Descriptor

def id : Descriptor → Nat
  | node id _ => id

def shape : Descriptor → Shape
  | node _ shape => shape

def tag (t : Descriptor) : Tag := t.shape.tag

/-- Whether two descriptors are one node, not merely alike. -/
def same (a b : Descriptor) : Bool := a.id == b.id

/-- The arguments of a constraint that ask for a strategy of its own. The empty tag asks for none. -/
def marking (args : Option (Args Descriptor)) : Option (Args Descriptor) :=
  args.filter fun args => !args.tag.isEmpty

/-- The tag under which a constraint asks for a strategy of its own. -/
def customTag (t : Descriptor) : Option String :=
  match t.shape with
  | .constraint _ _ _ args => (marking args).map Args.tag
  | _ => none

end Descriptor

/-! ## Making nodes -/

/-- Computations that make nodes, each with an identity of its own. -/
abbrev Fresh := StateM Nat

namespace Descriptor

/-- A new node. -/
def make (shape : Shape) : Fresh Descriptor := do
  let id ← get
  set (id + 1)
  return node id shape

def record (fields : List (String × Descriptor)) : Fresh Descriptor :=
  make (.record (Fields.ofPairs fields))

def partialRecord (fields : List (String × Descriptor)) : Fresh Descriptor :=
  make (.partialRecord (Fields.ofPairs fields))

/-- Either of two types. -/
def or (a b : Descriptor) : Fresh Descriptor := make (.union [a, b])

/-- Both of two types. -/
def and (a b : Descriptor) : Fresh Descriptor := make (.intersect [a, b])

def withConstraint (t : Descriptor) (predicate : Predicate) : Fresh Descriptor :=
  make (.constraint t predicate none none)

def withCorrection (t : Descriptor) (predicate : Predicate) (correction : Correction) :
    Fresh Descriptor :=
  make (.constraint t predicate (some correction) none)

/-- A constraint marked for a strategy of its own. -/
def custom (t : Descriptor) (predicate : Predicate) (args : Args Descriptor) :
    Fresh Descriptor :=
  make (.constraint t predicate none (some args))

end Descriptor

end Specimen
