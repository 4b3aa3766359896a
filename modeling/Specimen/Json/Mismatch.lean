import Specimen.Json.Reading
import Specimen.Number.Layout
import Specimen.Text.Quoted

/-!
# Mismatches

How a JSON text can fail to say what a format wants of it, each cause a constructor, with the
wording in `Mismatch.message`. A `Complaint` is a mismatch at a place, or a fault of the text itself.
-/

namespace Specimen

/-- What was found where something else was wanted. -/
inductive Found
  | null
  | bool (b : Bool)
  | integer (i : Int)
  | float (x : Number)
  | string (s : String)
  | sequence
  | map

namespace Found

def text : Found → String
  | null => "null"
  | bool b => "boolean \x60" ++ (if b then "true" else "false") ++ "\x60"
  | integer i => "integer \x60" ++ toString i ++ "\x60"
  | float x => "floating point \x60" ++ String.ofList (x.text .json) ++ "\x60"
  | string s => "string " ++ dumpQuote s
  | sequence => "sequence"
  | map => "map"

def ofNumeral : Numeral → Found
  | .integer i _ => .integer i
  | .float x _ => .float x

end Found

/-- Why a value does not fit the place where it stands. -/
inductive Mismatch
  | wrongType (found : Found) (wanted : String)
  | wrongValue (found : Found) (wanted : String)
  | wrongLength (found : Nat) (wanted : String)
  | unknownVariant (name : String) (known : List String)
  | unknownField (name : String) (known : List String)
  | missingField (name : String)
  | duplicateField (name : String)

namespace Mismatch

private def ticked (name : String) : String := "\x60" ++ name ++ "\x60"

/-- The alternatives that would have been accepted. -/
def choices : List String → String
  | [] => ""
  | [a] => ticked a
  | [a, b] => ticked a ++ " or " ++ ticked b
  | many => "one of " ++ String.intercalate ", " (many.map ticked)

def message : Mismatch → String
  | wrongType found wanted => "invalid type: " ++ found.text ++ ", expected " ++ wanted
  | wrongValue found wanted => "invalid value: " ++ found.text ++ ", expected " ++ wanted
  | wrongLength found wanted => "invalid length " ++ toString found ++ ", expected " ++ wanted
  | unknownVariant name known =>
    "unknown variant " ++ ticked name ++ ", expected " ++ choices known
  | unknownField name known => "unknown field " ++ ticked name ++ ", expected " ++ choices known
  | missingField name => "missing field " ++ ticked name
  | duplicateField name => "duplicate field " ++ ticked name

end Mismatch

/-- One step on the way to a place in a JSON value. -/
inductive Place
  | member (name : String)
  | item (index : Nat)

namespace Place

/-- The text of a way: steps into members after points, items in brackets, and a lone point for the
whole. -/
def path : List Place → String
  | [] => "."
  | first :: rest =>
    let head :=
      match first with
      | member name => name
      | item index => "[" ++ toString index ++ "]"
    head ++ String.join (rest.map fun
      | member name => "." ++ name
      | item index => "[" ++ toString index ++ "]")

end Place

/-- What is wrong with a text that should say something. -/
inductive Complaint
  | fault (fault : Fault)
  | mismatch (place : List Place) (cause : Mismatch)

namespace Complaint

/-- The complaint as seen from the place one step further out. -/
def within (step : Place) : Complaint → Complaint
  | fault f => fault f
  | mismatch place cause => mismatch (step :: place) cause

end Complaint

namespace Reading

/-- The complaint about a reading that stands where something else was wanted. -/
def reject (r : Reading) (wanted : String) : Complaint :=
  match r with
  | .null => .mismatch [] (.wrongType .null wanted)
  | .bool b => .mismatch [] (.wrongType (.bool b) wanted)
  | .number n => .mismatch [] (.wrongType (.ofNumeral n) wanted)
  | .string s => .mismatch [] (.wrongType (.string s) wanted)
  | .array _ => .mismatch [] (.wrongType .sequence wanted)
  | .object _ _ => .mismatch [] (.wrongType .map wanted)
  | .broken fault => .fault fault

end Reading

end Specimen
