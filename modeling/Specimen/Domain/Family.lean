import Specimen.Compiler.Contains
import Specimen.Domain.Space
import Specimen.Generator.Repair

/-!
# Families

Records of families whose members have roles. A family is consistent when it has a spouse among its
members exactly when it is espoused. Consistency is brought about in two ways: a correction repairs
the members of any family, and a family made for a count of spouses asks the array of its members to
contain them.
-/

namespace Specimen

namespace Family

/-- A union of literals and nothing at all. -/
def optionalWords (texts : List String) : Fresh Descriptor := do
  let words ← Descriptor.words texts
  let void ← Descriptor.make .void
  Descriptor.make (.union (words ++ [void]))

def stringOrVoid : Fresh Descriptor := do
  let string ← Descriptor.make .string
  string.or (← Descriptor.make .void)

/-- The names of a person, each of which may be missing. -/
def fio : Fresh Descriptor := do
  Descriptor.partialRecord
    [("firstname", ← stringOrVoid), ("lastname", ← stringOrVoid), ("middlename", ← stringOrVoid)]

/-- A family member whose role is of a type. -/
def memberWithRole (role : Descriptor) : Fresh Descriptor := do
  let person ← Descriptor.record [("role", role), ("fio", ← fio)]
  let flag ← Descriptor.make .boolean
  let dependant ← flag.or (← Descriptor.make .void)
  person.and (← Descriptor.partialRecord [("dependant", dependant)])

def spouse : Fresh Descriptor := do memberWithRole (← Descriptor.word "spouse")

def notSpouse : Fresh Descriptor := do
  memberWithRole (← optionalWords ["sibling", "child", "parent"])

/-! ## Consistent families -/

/-- Whether a member's role is spouse. -/
def isSpouse (member : Value) : Bool := (member.member "role").equal (.string "spouse")

/-- How many spouses a family has. -/
def spouseCount (family : Value) : Nat :=
  match (family.member "members").asArray? with
  | some members => members.countP isSpouse
  | none => 0

def isEspoused (family : Value) : Bool := (family.member "type").equal (.string "espoused")

/-- How many spouses a family should have. -/
def wantedSpouses (family : Value) : Nat := if isEspoused family then 1 else 0

/-- Whether a family has as many spouses as its type asks for. -/
def isConsistent (family : Value) : Bool := spouseCount family == wantedSpouses family

/-- A spouse without names. -/
def newSpouse : Value := .object [("role", .string "spouse"), ("fio", .object [])]

/-- Members of whom `wanted` are spouses: the first stay, others leave, and a missing one is put in
front. -/
def repairMembers (wanted : Nat) (members : List Value) : List Value :=
  let kept := keepFirst isSpouse wanted members
  if members.countP isSpouse < wanted then newSpouse :: kept else kept

/-- A family with its members repaired. -/
def repair (family : Value) : Value :=
  match family with
  | .object fields =>
    match Fields.get? fields "members" with
    | some (.array members) =>
      .object (Fields.put fields "members" (.array (repairMembers (wantedSpouses family) members)))
    | _ => family
  | _ => family

def consistent : Predicate := ⟨"spouse count matches type", isConsistent⟩

def keepSpouse : Correction := ⟨"keep at most the first spouse", repair⟩

/-- Families made consistent by repair. -/
def consistentFamily : Fresh Descriptor := do
  let type ← optionalWords ["espoused", "single", "common_law_marriage"]
  let role ← optionalWords ["sibling", "child", "parent", "spouse"]
  let member ← memberWithRole role
  let family ← Descriptor.record
    [("type", type), ("members", ← Descriptor.make (.array member))]
  family.withCorrection consistent keepSpouse

/-! ## Families with spouses -/

/-- Families of a type with so many spouses. -/
def withSpouses (type : Descriptor) (spouses : Nat) : Fresh Descriptor := do
  let married ← spouse
  let member ← married.or (← notSpouse)
  let members ← Descriptor.make (.array member)
  Descriptor.record
    [("type", type), ("members", ← Contains.arrayWith members (← spouse) spouses)]

def familyObject : Fresh Descriptor := do
  let unmarried ← optionalWords ["single", "common_law_marriage"]
  let couple ← withSpouses (← Descriptor.word "espoused") 1
  couple.or (← withSpouses unmarried 0)

/-! ## Declarations -/

/-- The members of a union of literals and nothing at all. -/
private def optionalTexts (texts : List String) : Node :=
  .union (texts.map Node.text ++ [.void])

private def flagged (role : Node) : Node :=
  .intersect
    [.record [("role", role), ("fio", .reference "Fio")],
      .partialRecord [("dependant", .union [.boolean, .void])]]

/-- Counts the spouses of a family as `$n`. -/
private def countSpouses : String :=
  "([.members[] | select(.role == \"spouse\")] | length) as $n | "

/-- The types as declarations. -/
def document : Document :=
  [("FamilyType", optionalTexts ["espoused", "single", "common_law_marriage"]),
    ("Role", optionalTexts ["sibling", "child", "parent", "spouse"]),
    ("StringOrVoid", .union [.string, .void]),
    ("Fio", .partialRecord
      [("firstname", .reference "StringOrVoid"), ("lastname", .reference "StringOrVoid"),
        ("middlename", .reference "StringOrVoid")]),
    ("Member", flagged (.reference "Role")),
    ("FamilyObject", .record
      [("type", .reference "FamilyType"), ("members", .array (.reference "Member"))]),
    ("ConsistentFamily", .constraint (.reference "FamilyObject")
      (countSpouses ++ "if .type == \"espoused\" then $n == 1 else $n == 0 end")
      (some (countSpouses ++ "if .type == \"espoused\" and $n == 0 then " ++
        ".members = [\x7b\"role\": \"spouse\", \"fio\": \x7b\x7d\x7d] + .members " ++
        "elif .type != \"espoused\" then .members |= map(select(.role != \"spouse\")) " ++
        "elif $n > 1 then .members = ([.members[] | select(.role == \"spouse\")][0:1] + " ++
        "[.members[] | select(.role != \"spouse\")]) else . end"))
      none),
    ("Spouse", flagged (.text "spouse")),
    ("MembersWithSpouse", .constraint (.array (.reference "Member"))
      "[.[] | select(.role == \"spouse\")] | length == 1" none
      (some (((Args.new "contains").withParam "count" (Json.ofInt 1)).withType "item"
        (.reference "Spouse"))))]

end Family

end Specimen
