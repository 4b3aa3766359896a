import Specimen.Descriptor.Basic
import Specimen.Json.Writer

/-!
# Structural dumps

The text in which developers look at descriptors, values and JSON: constructors by name, fields
between braces, text quoted so that every character shows.
-/

namespace Specimen

namespace Dump

def commaSeparated (parts : List String) : String := String.intercalate ", " parts

/-- A list of dumped things. -/
def list (parts : List String) : String := "[" ++ commaSeparated parts ++ "]"

/-- Dumped things by name. -/
def map (parts : List (String × String)) : String :=
  "\x7b" ++ commaSeparated (parts.map fun (k, v) => dumpQuote k ++ ": " ++ v) ++ "\x7d"

/-- A constructor with named fields. -/
def fields (name : String) (parts : List (String × String)) : String :=
  name ++ " \x7b " ++ commaSeparated (parts.map fun (k, v) => k ++ ": " ++ v) ++ " \x7d"

/-- A constructor around one thing. -/
def wrap (name inner : String) : String := name ++ "(" ++ inner ++ ")"

def option : Option String → String
  | none => "None"
  | some inner => wrap "Some" inner

end Dump

namespace Json

mutual

/-- The dump of a JSON value. -/
def dump : Json → String
  | .null => "Null"
  | .bool b => Dump.wrap "Bool" (if b then "true" else "false")
  | .number n => Dump.wrap "Number" (String.ofList n.chars)
  | .string s => Dump.wrap "String" (dumpQuote s)
  | .array items => "Array " ++ Dump.list (dumpItems items)
  | .object members => "Object " ++ Dump.map (dumpMembers members)

def dumpItems : List Json → List String
  | [] => []
  | item :: rest => dump item :: dumpItems rest

def dumpMembers : List (String × Json) → List (String × String)
  | [] => []
  | (name, member) :: rest => (name, dump member) :: dumpMembers rest

end

end Json

namespace Value

mutual

/-- The dump of a value. -/
def dump : Value → String
  | .undefined => "Undefined"
  | .null => "Null"
  | .bool b => Dump.wrap "Bool" (if b then "true" else "false")
  | .number x => Dump.wrap "Number" (String.ofList (x.text .dump))
  | .string s => Dump.wrap "String" (dumpQuote s)
  | .array items => Dump.wrap "Array" (Dump.list (dumpItems items))
  | .object members => Dump.wrap "Object" (Dump.map (dumpMembers members))
  | .callable c =>
    Dump.wrap "Function" (Dump.fields "Callable" [("seed", toString c.seed.toNat)])

def dumpItems : List Value → List String
  | [] => []
  | item :: rest => dump item :: dumpItems rest

def dumpMembers : List (String × Value) → List (String × String)
  | [] => []
  | (name, member) :: rest => (name, dump member) :: dumpMembers rest

end

end Value

namespace Descriptor

mutual

/-- The dump of a descriptor. -/
def dump : Descriptor → String
  | .node _ shape => dumpShape shape

def dumpShape : Shape → String
  | .always => "Always"
  | .array element => Dump.fields "Array" [("element", dump element)]
  | .boolean => "Boolean"
  | .constraint underlying predicate correction args =>
    Dump.wrap "Constraint" (Dump.fields "Constraint"
      [("underlying", dump underlying), ("predicate", Dump.wrap "Predicate" predicate.name),
        ("correction", Dump.option (correction.map fun fix => Dump.wrap "Correction" fix.name)),
        ("args", dumpArgs args)])
  | .dictionary value => Dump.fields "Dictionary" [("value", dump value)]
  | .function => "Function"
  | .intersect intersectees =>
    Dump.fields "Intersect" [("intersectees", Dump.list (dumpAll intersectees))]
  | .literal value => Dump.fields "Literal" [("value", value.dump)]
  | .number => "Number"
  | .partialRecord fields => Dump.fields "Partial" [("fields", Dump.map (dumpFields fields))]
  | .record fields => Dump.fields "Record" [("fields", Dump.map (dumpFields fields))]
  | .string => "String"
  | .tuple components => Dump.fields "Tuple" [("components", Dump.list (dumpAll components))]
  | .union alternatives =>
    Dump.fields "Union" [("alternatives", Dump.list (dumpAll alternatives))]
  | .void => "Void"
  | .extension name payload guard =>
    Dump.wrap "Extension" (Dump.fields "Extension"
      [("name", dumpQuote name), ("payload", payload.dump),
        ("guard", Dump.wrap "Predicate" guard.name)])

def dumpArgs : Option (Args Descriptor) → String
  | none => "None"
  | some ⟨tag, params, types⟩ =>
    Dump.wrap "Some" (Dump.fields "Args"
      [("tag", dumpQuote tag), ("params", Dump.map (Json.dumpMembers params)),
        ("types", Dump.map (dumpFields types))])

def dumpAll : List Descriptor → List String
  | [] => []
  | t :: rest => dump t :: dumpAll rest

def dumpFields : List (String × Descriptor) → List (String × String)
  | [] => []
  | (name, t) :: rest => (name, dump t) :: dumpFields rest

end

end Descriptor

end Specimen
