import Specimen.Unicode.Age
import Specimen.Unicode.Break
import Specimen.Unicode.Property
import Specimen.Unicode.Script

/-!
# Sets of characters by name

Names are read loosely: case, blanks, hyphens and low lines do not count, nor does a leading `is`. A name
alone means a property, a category or a script; a name with a value means the characters of which the
named property has that value.
-/

namespace Specimen

namespace Unicode

/-- Whether a text starts with `is`, in any case. -/
def startsWithIs : List Char → Bool
  | i :: s :: _ => (i == 'i' || i == 'I') && (s == 's' || s == 'S')
  | _ => false

/-- A name without all that does not count. Of `is` and the letter `c` nothing can be left out, for
that is a name of its own. -/
def looseName (name : String) : String :=
  let cs := name.toList
  let named := if startsWithIs cs then cs.drop 2 else cs
  let loose := (named.filter fun c => c.toNat < 128 && c != ' ' && c != '_' && c != '-').map
    Char.toLower
  if startsWithIs cs && loose == ['c'] then "isc" else String.ofList loose

/-- The characters of a property, a category or a script. -/
def named? (name : String) : Option CharSet :=
  let name := looseName name
  match Property.find? name with
  | some set => some set
  | none =>
    match Category.find? name with
    | some set => some set
    | none => Script.find? name

/-- The characters of which a property has a value. -/
def valued? (property value : String) : Option CharSet :=
  let value := looseName value
  match looseName property with
  | "generalcategory" | "gc" => Category.find? value
  | "script" | "sc" => Script.find? value
  | "scriptextensions" | "scx" => Script.extended? value
  | "age" => Age.find? value
  | "graphemeclusterbreak" | "gcb" => Break.grapheme? value
  | "wordbreak" | "wb" => Break.word? value
  | "sentencebreak" | "sb" => Break.sentence? value
  | _ => none

end Unicode

end Specimen
