import Specimen.Value.Basic

/-!
# Values and JSON

`Value.json` says as much of a value as JSON can: members that are undefined or callable are left
out, and any other undefined, callable or non-finite number becomes null. `Json.value` reads a JSON
value as a value; whole numbers become the nearest number.
-/

namespace Specimen

namespace Value

/-- Whether a member of this value survives in JSON. -/
def isSayable : Value → Bool
  | .undefined => false
  | .callable _ => false
  | _ => true

mutual

/-- The JSON form of a value. -/
def json : Value → Json
  | .undefined => .null
  | .null => .null
  | .bool b => .bool b
  | .number x => Json.ofNumber x
  | .string s => .string s
  | .array items => .array (jsonItems items)
  | .object members => .object (jsonMembers members)
  | .callable _ => .null

def jsonItems : List Value → List Json
  | [] => []
  | item :: rest => json item :: jsonItems rest

/-- The JSON form of the members that have one. -/
def jsonMembers : List (String × Value) → List (String × Json)
  | [] => []
  | (name, member) :: rest =>
    if member.isSayable then (name, json member) :: jsonMembers rest else jsonMembers rest

end

end Value

namespace Json

mutual

/-- The value a JSON value denotes. -/
def value : Json → Value
  | .null => .null
  | .bool b => .bool b
  | .number n => .number n.number
  | .string s => .string s
  | .array items => .array (valueItems items)
  | .object members => .object (valueMembers members)

def valueItems : List Json → List Value
  | [] => []
  | item :: rest => value item :: valueItems rest

def valueMembers : List (String × Json) → List (String × Value)
  | [] => []
  | (name, member) :: rest => (name, value member) :: valueMembers rest

end

end Json

end Specimen
