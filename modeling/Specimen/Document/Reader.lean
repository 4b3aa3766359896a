import Specimen.Document.Node
import Specimen.Json.Mismatch
import Specimen.Json.Pointer
import Specimen.Json.Reader

/-!
# Reading documents

A document is read from a JSON text, or from the place that a JSON pointer selects in one. A node is
an object with a tag and the members that its tag declares, or the same as a sequence, tag first and
members in declared order. Other members are refused, except beside a tag that stands alone, where
they are ignored.

The declared types are read one by one, in the order of the text, and the first thing that goes wrong
is the complaint. The members of a declaration are gathered before any but its tag is looked at, so a
fault of the text anywhere in a declaration comes before what its members say, and all that its
members say wrong is said of the declaration as a whole.
-/

namespace Specimen

/-- A member of a node, read as its kind demands. -/
inductive Part
  | node (n : Node)
  | nodes (ns : List Node)
  | namedNodes (fields : List (String × Node))
  | text (s : String)
  | optionalText (s : Option String)
  | json (j : Json)
  | optionalArgs (args : Option (Args Node))

namespace NodeTag

/-- The name under which complaints speak of a node's members. -/
def title : NodeTag → String
  | always => "Always"
  | boolean => "Boolean"
  | number => "Number"
  | string => "String"
  | void => "Void"
  | function => "Function"
  | literal => "Literal"
  | array => "Array"
  | tuple => "Tuple"
  | dictionary => "Dictionary"
  | record => "Record"
  | partialRecord => "Partial"
  | union => "Union"
  | intersect => "Intersect"
  | constraint => "Constraint"
  | reference => "Ref"
  | extension => "Extension"

end NodeTag

namespace Part

abbrev Parts := List (String × Part)

private def missing {α : Type} (name : String) : Except Mismatch α := .error (.missingField name)

def needNode (parts : Parts) (name : String) : Except Mismatch Node :=
  match Fields.get? parts name with
  | some (node n) => .ok n
  | _ => missing name

def needNodes (parts : Parts) (name : String) : Except Mismatch (List Node) :=
  match Fields.get? parts name with
  | some (nodes ns) => .ok ns
  | _ => missing name

def needNamedNodes (parts : Parts) (name : String) : Except Mismatch (List (String × Node)) :=
  match Fields.get? parts name with
  | some (namedNodes fields) => .ok fields
  | _ => missing name

def needText (parts : Parts) (name : String) : Except Mismatch String :=
  match Fields.get? parts name with
  | some (text s) => .ok s
  | _ => missing name

def needJson (parts : Parts) (name : String) : Except Mismatch Json :=
  match Fields.get? parts name with
  | some (json j) => .ok j
  | _ => missing name

/-- The node that a tag and its members make; the complaint names the first member that is missing,
in declared order. -/
def assemble (parts : Parts) : NodeTag → Except Mismatch Node
  | .always => .ok .always
  | .boolean => .ok .boolean
  | .number => .ok .number
  | .string => .ok .string
  | .void => .ok .void
  | .function => .ok .function
  | .literal => do return .literal (← needJson parts "value")
  | .array => do return .array (← needNode parts "element")
  | .tuple => do return .tuple (← needNodes parts "components")
  | .dictionary => do return .dictionary (← needNode parts "value")
  | .record => do return .record (← needNamedNodes parts "fields")
  | .partialRecord => do return .partialRecord (← needNamedNodes parts "fields")
  | .union => do return .union (← needNodes parts "alternatives")
  | .intersect => do return .intersect (← needNodes parts "intersectees")
  | .constraint => do
    let underlying ← needNode parts "underlying"
    let predicate ← needText parts "constraint"
    let correction :=
      match Fields.get? parts "correction" with
      | some (optionalText fix) => fix
      | _ => none
    let args :=
      match Fields.get? parts "args" with
      | some (optionalArgs args) => args
      | _ => none
    return .constraint underlying predicate correction args
  | .reference => do return .reference (← needText parts "name")
  | .extension => do
    let name ← needText parts "name"
    let guard ← needText parts "guard"
    let payload :=
      match Fields.get? parts "payload" with
      | some (json j) => j
      | _ => .null
    return .extension name guard payload

end Part

namespace Reading

/-! ## Tags -/

/-- Where a node stands: declared by name, or inside another node, whose members have been gathered.
Inside, a tag may be given by its number, and complaints do not say where. -/
inductive Standing
  | declared | inner
deriving DecidableEq

/-- A tag by its name, or by its number where that is allowed. -/
def nodeTag (standing : Standing) (r : Reading) : Except Complaint NodeTag :=
  match standing, r with
  | _, .string s =>
    match NodeTag.ofName? s with
    | some tag => .ok tag
    | none => .error (.mismatch [] (.unknownVariant s (NodeTag.all.map NodeTag.name)))
  | .inner, .number (.integer (.ofNat i) _) =>
    match NodeTag.all[i]? with
    | some tag => .ok tag
    | none => .error (.mismatch [] (.wrongValue (.integer i) "variant index 0 <= i < 17"))
  | _, r => .error (r.reject "variant identifier")

/-- A tag at a place of its node. -/
def nodeTagAt (standing : Standing) (place : Place) (r : Reading) : Except Complaint NodeTag :=
  match nodeTag standing r, standing with
  | .error complaint, .declared => .error (complaint.within place)
  | result, _ => result

/-- The tag among the members of a node, looking at the members in order: it is given once, and the
first fault of the text on the way is the complaint. -/
def findTag (standing : Standing) :
    List (String × Reading) → Option NodeTag → Except Complaint (Option NodeTag)
  | [], found => .ok found
  | (name, member) :: rest, found =>
    if name = "tag" then
      match found with
      | some _ => .error (.mismatch [] (.duplicateField "tag"))
      | none => do
        let tag ← nodeTagAt standing (.member "tag") member
        findTag standing rest (some tag)
    else
      match member.fault? with
      | some fault => .error (.fault fault)
      | none => findTag standing rest found

/-- The first fault among items. -/
def faultAmong : List Reading → Option Fault
  | [] => none
  | item :: rest => (item.fault?).or (faultAmong rest)

/-! ## Plain members -/

def asText (r : Reading) : Except Complaint String :=
  match r with
  | .string s => .ok s
  | r => .error (r.reject "a string")

def asOptionalText (r : Reading) : Except Complaint (Option String) :=
  match r with
  | .null => .ok none
  | .string s => .ok (some s)
  | r => .error (r.reject "a string")

def asJson (r : Reading) : Except Complaint Json := r.settle.mapError .fault

def asJsonFields (r : Reading) : Except Complaint (List (String × Json)) :=
  match r with
  | .object members _ =>
    match settleMembers members with
    | .ok members => .ok (Fields.ofPairs members)
    | .error fault => .error (.fault fault)
  | r => .error (r.reject "a map")

/-- A count of items, in words. -/
def itemCount (n : Nat) : String := if n = 1 then "1 element" else toString n ++ " elements"

end Reading

/-- A member as its kind demands, given how to read it as the kinds that hold nodes. -/
def MemberKind.part (kind : MemberKind) (r : Reading) (asNode : Unit → Except Complaint Node)
    (asNodes : Unit → Except Complaint (List Node))
    (asNamedNodes : Unit → Except Complaint (List (String × Node)))
    (asArgs : Unit → Except Complaint (Option (Args Node))) : Except Complaint Part :=
  match kind with
  | .node => (asNode ()).map .node
  | .nodes => (asNodes ()).map .nodes
  | .namedNodes => (asNamedNodes ()).map .namedNodes
  | .text => r.asText.map .text
  | .optionalText => r.asOptionalText.map .optionalText
  | .json => r.asJson.map .json
  | .optionalArgs => (asArgs ()).map .optionalArgs

namespace Reading

/-- What a node says wrong, before anyone says where. -/
def complain {α : Type} (cause : Mismatch) : Except Complaint α :=
  .error (.mismatch [] cause)

/-! ## Nodes -/

mutual

/-- A node. -/
def node (standing : Standing) : Reading → Except Complaint Node
  | .object members stop => do
    let found ← findTag standing members none
    match stop, found with
    | some fault, _ => .error (.fault fault)
    | none, none => complain (.missingField "tag")
    | none, some tag =>
      let parts ← if tag.members.isEmpty then pure [] else nodeMembers tag.members members []
      (Part.assemble parts tag).mapError (.mismatch [])
  | .array [] => complain (.missingField "tag")
  | .array (first :: items) => do
    let tag ← nodeTagAt standing (.item 0) first
    match faultAmong items with
    | some fault => .error (.fault fault)
    | none =>
      let parts ← nodeItems tag 0 tag.members items
      (Part.assemble parts tag).mapError (.mismatch [])
  | r => .error (r.reject "internally tagged enum Doc")

/-- The members of a node other than its tag, in the order of the text. -/
def nodeMembers (declared : List MemberDecl) :
    List (String × Reading) → Part.Parts → Except Complaint Part.Parts
  | [], parts => .ok parts
  | (name, member) :: rest, parts =>
    if name = "tag" then nodeMembers declared rest parts
    else
      match declared.find? fun decl => decl.name == name with
      | none => complain (.unknownField name (declared.map MemberDecl.name))
      | some decl =>
        if Fields.has parts name then complain (.duplicateField name)
        else do
          let part ← decl.kind.part member (fun _ => node .inner member)
            (fun _ => nodeSequence member) (fun _ => typeFields member)
            (fun _ => optionalArgs member)
          nodeMembers declared rest (parts ++ [(name, part)])

/-- The members of a node from the declared ones that are left, in declared order; `count` are
before them. -/
def nodeItems (tag : NodeTag) (count : Nat) :
    List MemberDecl → List Reading → Except Complaint Part.Parts
  | [], [] => .ok []
  | [], items => complain (.wrongLength (count + items.length) (itemCount count ++ " in sequence"))
  | decl :: _, [] =>
    if decl.required then
      complain (.wrongLength count
        ("struct variant Doc::" ++ tag.title ++ " with " ++ itemCount tag.members.length))
    else .ok []
  | decl :: decls, item :: items => do
    let part ← decl.kind.part item (fun _ => node .inner item) (fun _ => nodeSequence item)
      (fun _ => typeFields item) (fun _ => optionalArgs item)
    let parts ← nodeItems tag (count + 1) decls items
    return (decl.name, part) :: parts

/-- A sequence of nodes. -/
def nodeSequence : Reading → Except Complaint (List Node)
  | .array items => nodeList items
  | r => .error (r.reject "a sequence")

/-- Constraint arguments, or null for none. -/
def optionalArgs : Reading → Except Complaint (Option (Args Node))
  | .null => .ok none
  | .object members _ => do return some (← argMembers members none none none)
  | .array items => do return some (← argItems items)
  | r => .error (r.reject "struct ArgsDoc")

def nodeList : List Reading → Except Complaint (List Node)
  | [] => .ok []
  | item :: rest => do
    let first ← node .inner item
    return first :: (← nodeList rest)

/-- Named nodes, repeated names included. -/
def nodeFields : List (String × Reading) → Except Complaint (List (String × Node))
  | [] => .ok []
  | (name, member) :: rest => do
    let first ← node .inner member
    return (name, first) :: (← nodeFields rest)

/-- The members of constraint arguments, in the order of the text. -/
def argMembers : List (String × Reading) → Option String → Option (List (String × Json)) →
    Option (List (String × Node)) → Except Complaint (Args Node)
  | [], none, _, _ => complain (.missingField "tag")
  | [], some tag, params, types => .ok ⟨tag, params.getD [], types.getD []⟩
  | (name, member) :: rest, tag, params, types =>
    if name = "tag" then
      if tag.isSome then complain (.duplicateField name)
      else do argMembers rest (some (← member.asText)) params types
    else if name = "params" then
      if params.isSome then complain (.duplicateField name)
      else do argMembers rest tag (some (← member.asJsonFields)) types
    else if name = "types" then
      if types.isSome then complain (.duplicateField name)
      else do argMembers rest tag params (some (← typeFields member))
    else complain (.unknownField name Args.memberNames)

/-- The members of constraint arguments, written as a sequence. -/
def argItems : List Reading → Except Complaint (Args Node)
  | [] => complain (.wrongLength 0 "struct ArgsDoc with 3 elements")
  | [tag] => do return ⟨← tag.asText, [], []⟩
  | [tag, params] => do return ⟨← tag.asText, ← params.asJsonFields, []⟩
  | tag :: params :: types :: rest => do
    let tag ← tag.asText
    let params ← params.asJsonFields
    let types ← typeFields types
    if rest.isEmpty then return ⟨tag, params, types⟩
    else complain (.wrongLength (3 + rest.length) (itemCount 3 ++ " in sequence"))

/-- Named types. -/
def typeFields : Reading → Except Complaint (List (String × Node))
  | .object members _ => do return Fields.ofPairs (← nodeFields members)
  | r => .error (r.reject "a map")

end

/-! ## Documents -/

/-- Declarations in the order of the text; a name declared again keeps its place and takes the new
node. -/
def declarations : List (String × Reading) → Document → Except Complaint Document
  | [], done => .ok done
  | (name, member) :: rest, done =>
    match node .declared member with
    | .error complaint => .error (complaint.within (.member name))
    | .ok n => declarations rest (Fields.put done name n)

/-- A whole document. -/
def document : Reading → Except Complaint Document
  | .object members stop => do
    let done ← declarations members []
    match stop with
    | some fault => .error (.fault fault)
    | none => return done
  | r => .error (r.reject "a map")

end Reading

/-- Why a document could not be loaded. -/
inductive LoadError
  | complaint (complaint : Complaint)
  | selectsNothing (pointer : String)

namespace Document

/-- The document that a JSON value says. -/
def ofJson (j : Json) : Except Complaint Document := j.reading.document

/-- The document in a text. Without a pointer it is the first JSON value of the text, whatever
follows it; with one, the text is a single JSON value, and the document is the part selected. -/
def load (text : String) : Option String → Except LoadError Document
  | none => (Json.readFirst text).1.document.mapError .complaint
  | some pointer =>
    match Json.parse text with
    | .error fault => .error (.complaint (.fault fault))
    | .ok root =>
      match root.select? pointer with
      | none => .error (.selectsNothing pointer)
      | some selected => (ofJson selected).mapError .complaint

end Document

end Specimen
