import Specimen.Args

/-!
# Documents

A document declares named types. Each declaration is a node: plain data that can be read, written,
compared and stored, in which a name may stand for another declaration and predicates are still
program text. `Specimen.Document.Lowering` makes descriptors of it.

A document is an association list because the order of declarations is content: it is the order in
which types are checked, printed and blamed.
-/

namespace Specimen

/-- A declared shape. -/
inductive Node
  | always
  | boolean
  | number
  | string
  | void
  | function
  | literal (value : Json)
  | array (element : Node)
  | tuple (components : List Node)
  | dictionary (value : Node)
  | record (fields : List (String × Node))
  | partialRecord (fields : List (String × Node))
  | union (alternatives : List Node)
  | intersect (intersectees : List Node)
  /-- The values of `underlying` that a program accepts. A correction is a program that makes an
  accepted value of any other. -/
  | constraint (underlying : Node) (predicate : String) (correction : Option String)
      (args : Option (Args Node))
  /-- Another declaration of the same document. -/
  | reference (name : String)
  /-- A type that a registered strategy generates and a program recognises. -/
  | extension (name : String) (guard : String) (payload : Json)
deriving Inhabited

/-- Named declarations, in order, each name once. -/
abbrev Document := List (String × Node)

/-! ## The format

Each kind of node has a tag and declares the members it takes, in order. Reading and writing both
follow these tables. -/

/-- The kinds of node. -/
inductive NodeTag
  | always | boolean | number | string | void | function | literal | array | tuple | dictionary
  | record | partialRecord | union | intersect | constraint | reference | extension
deriving DecidableEq

/-- What a member of a node holds. -/
inductive MemberKind
  | node | nodes | namedNodes | text | optionalText | json | optionalArgs
deriving DecidableEq

/-- A member that a kind of node declares. -/
structure MemberDecl where
  name : String
  kind : MemberKind
  required : Bool

namespace NodeTag

/-- All kinds of node, in the order in which they are numbered and listed. -/
def all : List NodeTag :=
  [always, boolean, number, string, void, function, literal, array, tuple, dictionary, record,
    partialRecord, union, intersect, constraint, reference, extension]

/-- The tag as documents write it. -/
def name : NodeTag → String
  | always => "always"
  | boolean => "boolean"
  | number => "number"
  | string => "string"
  | void => "void"
  | function => "function"
  | literal => "literal"
  | array => "array"
  | tuple => "tuple"
  | dictionary => "dictionary"
  | record => "record"
  | partialRecord => "partial"
  | union => "union"
  | intersect => "intersect"
  | constraint => "constraint"
  | reference => "ref"
  | extension => "extension"

def ofName? (name : String) : Option NodeTag := all.find? fun tag => tag.name == name

/-- The members that a kind of node declares; none for those that are their tag alone. -/
def members : NodeTag → List MemberDecl
  | always | boolean | number | string | void | function => []
  | literal => [⟨"value", .json, true⟩]
  | array => [⟨"element", .node, true⟩]
  | tuple => [⟨"components", .nodes, true⟩]
  | dictionary => [⟨"value", .node, true⟩]
  | record | partialRecord => [⟨"fields", .namedNodes, true⟩]
  | union => [⟨"alternatives", .nodes, true⟩]
  | intersect => [⟨"intersectees", .nodes, true⟩]
  | constraint =>
    [⟨"underlying", .node, true⟩, ⟨"constraint", .text, true⟩,
      ⟨"correction", .optionalText, false⟩, ⟨"args", .optionalArgs, false⟩]
  | reference => [⟨"name", .text, true⟩]
  | extension => [⟨"name", .text, true⟩, ⟨"guard", .text, true⟩, ⟨"payload", .json, false⟩]

end NodeTag

/-- The members of constraint arguments. -/
def Args.memberNames : List String := ["tag", "params", "types"]

/-! ## Equality -/

/-- Whether each name on the left has an equal thing on the right, by `same`. -/
def Fields.agree {α : Type} (same : α → α → Bool) (as bs : List (String × α)) : Bool :=
  as.length == bs.length && as.all fun (k, a) =>
    match Fields.get? bs k with
    | some b => same a b
    | none => false

namespace Node

mutual

/-- Equality of declarations: lists in order, fields and members of JSON objects in any order. -/
def equal : Node → Node → Bool
  | .always, .always => true
  | .boolean, .boolean => true
  | .number, .number => true
  | .string, .string => true
  | .void, .void => true
  | .function, .function => true
  | .literal a, .literal b => a.equal b
  | .array a, .array b => equal a b
  | .tuple as, .tuple bs => equalAll as bs
  | .dictionary a, .dictionary b => equal a b
  | .record as, .record bs => as.length == bs.length && equalFields as bs
  | .partialRecord as, .partialRecord bs => as.length == bs.length && equalFields as bs
  | .union as, .union bs => equalAll as bs
  | .intersect as, .intersect bs => equalAll as bs
  | .constraint a p k none, .constraint b q l none => equal a b && p == q && k == l
  | .constraint a p k (some ⟨t, ps, ts⟩), .constraint b q l (some ⟨u, qs, us⟩) =>
    equal a b && p == q && k == l && t == u && Fields.agree Json.equal ps qs &&
      ts.length == us.length && equalFields ts us
  | .reference a, .reference b => a == b
  | .extension a p x, .extension b q y => a == b && p == q && x.equal y
  | _, _ => false

/-- One by one. -/
def equalAll : List Node → List Node → Bool
  | [], [] => true
  | a :: as, b :: bs => equal a b && equalAll as bs
  | _, _ => false

/-- Each field on the left has an equal one of its name on the right. -/
def equalFields : List (String × Node) → List (String × Node) → Bool
  | [], _ => true
  | (k, a) :: as, bs =>
    (match Fields.get? bs k with
      | some b => equal a b
      | none => false) && equalFields as bs

end

end Node

/-- Equality of documents, whatever the order of their declarations. -/
def Document.equal (a b : Document) : Bool := Fields.agree Node.equal a b

end Specimen
