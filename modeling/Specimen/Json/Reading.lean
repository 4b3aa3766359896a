import Specimen.Json.Basic

/-!
# Readings

What reading a JSON text yields before anything is made of it: a tree in which a repeated member
still occurs twice, and in which a text that breaks off leaves the fault at the place where reading
stopped. A decoder that walks a reading in order therefore answers the first thing that goes wrong,
be it in the text or in what the text says.

`Reading.settle` makes the JSON value of a reading that has no fault; `Json.reading` goes back.
-/

namespace Specimen

/-- Why a text is not a JSON value. -/
inductive Fault
  /-- The text is not JSON, or holds a number beyond the range of numbers. -/
  | malformed
  /-- Containers are nested more than 127 deep. -/
  | tooDeep
deriving DecidableEq

/-- A JSON text as far as it could be read. -/
inductive Reading
  | null
  | bool (b : Bool)
  | number (n : Numeral)
  | string (s : String)
  /-- The items in order; a fault can stand at the last place only. -/
  | array (items : List Reading)
  /-- The members in order, and the fault at the place of the next name, if reading stopped there. -/
  | object (members : List (String × Reading)) (stop : Option Fault)
  | broken (fault : Fault)
deriving Inhabited

namespace Reading

mutual

/-- The JSON value of a reading: of a repeated member, the first place and the last value. A fault
anywhere is a fault of the whole, the first one met. -/
def settle : Reading → Except Fault Json
  | .null => .ok .null
  | .bool b => .ok (.bool b)
  | .number n => .ok (.number n)
  | .string s => .ok (.string s)
  | .array items =>
    match settleItems items with
    | .ok items => .ok (.array items)
    | .error fault => .error fault
  | .object members stop =>
    match settleMembers members with
    | .error fault => .error fault
    | .ok members =>
      match stop with
      | some fault => .error fault
      | none => .ok (.object (Fields.ofPairs members))
  | .broken fault => .error fault

/-- The values of items, in order. -/
def settleItems : List Reading → Except Fault (List Json)
  | [] => .ok []
  | item :: rest =>
    match settle item with
    | .error fault => .error fault
    | .ok item =>
      match settleItems rest with
      | .error fault => .error fault
      | .ok rest => .ok (item :: rest)

/-- The values of members, in order, repeated ones included. -/
def settleMembers : List (String × Reading) → Except Fault (List (String × Json))
  | [] => .ok []
  | (name, member) :: rest =>
    match settle member with
    | .error fault => .error fault
    | .ok member =>
      match settleMembers rest with
      | .error fault => .error fault
      | .ok rest => .ok ((name, member) :: rest)

end

/-- The first fault in a reading, if it has one. -/
def fault? (r : Reading) : Option Fault :=
  match r.settle with
  | .error fault => some fault
  | .ok _ => none

end Reading

namespace Json

mutual

/-- A JSON value as the reading of a text that says it. -/
def reading : Json → Reading
  | .null => .null
  | .bool b => .bool b
  | .number n => .number n
  | .string s => .string s
  | .array items => .array (readingItems items)
  | .object members => .object (readingMembers members) none

def readingItems : List Json → List Reading
  | [] => []
  | item :: rest => reading item :: readingItems rest

def readingMembers : List (String × Json) → List (String × Reading)
  | [] => []
  | (name, member) :: rest => (name, reading member) :: readingMembers rest

end

end Json

end Specimen
