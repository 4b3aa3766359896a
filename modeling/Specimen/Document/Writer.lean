import Specimen.Document.Node
import Specimen.Json.Writer

/-!
# Writing documents

The JSON form of a document: each node an object with its tag first and its members in the order in
which the format declares them. A correction or arguments that a constraint lacks are left out; the
payload of an extension is always written.
-/

namespace Specimen

namespace Node

def tag : Node → NodeTag
  | always => .always
  | boolean => .boolean
  | number => .number
  | string => .string
  | void => .void
  | function => .function
  | literal _ => .literal
  | array _ => .array
  | tuple _ => .tuple
  | dictionary _ => .dictionary
  | record _ => .record
  | partialRecord _ => .partialRecord
  | union _ => .union
  | intersect _ => .intersect
  | constraint _ _ _ _ => .constraint
  | reference _ => .reference
  | extension _ _ _ => .extension

/-- An object whose first member is a tag. -/
def tagged (tag : NodeTag) (members : List (String × Json)) : Json :=
  .object (("tag", .string tag.name) :: members)

mutual

/-- The JSON form of a node. -/
def json : Node → Json
  | .always => tagged .always []
  | .boolean => tagged .boolean []
  | .number => tagged .number []
  | .string => tagged .string []
  | .void => tagged .void []
  | .function => tagged .function []
  | .literal value => tagged .literal [("value", value)]
  | .array element => tagged .array [("element", json element)]
  | .tuple components => tagged .tuple [("components", .array (jsonAll components))]
  | .dictionary value => tagged .dictionary [("value", json value)]
  | .record fields => tagged .record [("fields", .object (jsonFields fields))]
  | .partialRecord fields => tagged .partialRecord [("fields", .object (jsonFields fields))]
  | .union alternatives => tagged .union [("alternatives", .array (jsonAll alternatives))]
  | .intersect intersectees => tagged .intersect [("intersectees", .array (jsonAll intersectees))]
  | .constraint underlying predicate correction none =>
    tagged .constraint (("underlying", json underlying) :: ("constraint", .string predicate) ::
      (match correction with
        | some fix => [("correction", .string fix)]
        | none => []))
  | .constraint underlying predicate correction (some ⟨tag, params, types⟩) =>
    tagged .constraint (("underlying", json underlying) :: ("constraint", .string predicate) ::
      (match correction with
        | some fix => [("correction", .string fix)]
        | none => []) ++
      [("args", .object [("tag", .string tag), ("params", .object params),
        ("types", .object (jsonFields types))])])
  | .reference name => tagged .reference [("name", .string name)]
  | .extension name guard payload =>
    tagged .extension [("name", .string name), ("guard", .string guard), ("payload", payload)]

def jsonAll : List Node → List Json
  | [] => []
  | node :: rest => json node :: jsonAll rest

def jsonFields : List (String × Node) → List (String × Json)
  | [] => []
  | (name, node) :: rest => (name, json node) :: jsonFields rest

end

end Node

/-- The JSON form of a document. -/
def Document.json (d : Document) : Json := .object (Node.jsonFields d)

end Specimen
