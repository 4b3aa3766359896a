import Specimen.Descriptor.Basic

/-!
# Guards

Which values belong to a type. A guard looks at shapes alone: neither identities nor arguments of
constraints take part.
-/

namespace Specimen

namespace Descriptor

mutual

/-- Whether a value belongs to a type. -/
def guard : Descriptor → Value → Bool
  | .node _ shape, v => shapeGuard shape v

/-- Whether a value belongs to the types of a shape. -/
def shapeGuard : Shape → Value → Bool
  | .always, _ => true
  | .array element, .array items => items.all fun item => guard element item
  | .boolean, .bool _ => true
  | .constraint underlying predicate _ _, v => guard underlying v && predicate.test v
  | .dictionary value, .object members => members.all fun member => guard value member.2
  | .function, .callable _ => true
  | .intersect intersectees, v => guardAll intersectees v
  | .literal value, v => v.equal value
  | .number, .number _ => true
  | .partialRecord fields, .object members => guardOptional fields members
  | .record fields, .object members => guardRequired fields members
  | .string, .string _ => true
  | .tuple components, .array items => guardEach components items
  | .union alternatives, v => guardAny alternatives v
  | .void, .undefined => true
  | .void, .null => true
  | .extension _ _ guard, v => guard.test v
  | _, _ => false

def guardAll : List Descriptor → Value → Bool
  | [], _ => true
  | t :: rest, v => guard t v && guardAll rest v

def guardAny : List Descriptor → Value → Bool
  | [], _ => false
  | t :: rest, v => guard t v || guardAny rest v

/-- One component for each item, position by position. -/
def guardEach : List Descriptor → List Value → Bool
  | [], [] => true
  | t :: rest, v :: vs => guard t v && guardEach rest vs
  | _, _ => false

/-- Every field's member belongs to the field's type; a missing one counts as undefined. -/
def guardRequired : List (String × Descriptor) → List (String × Value) → Bool
  | [], _ => true
  | (name, t) :: rest, members =>
    guard t ((Fields.get? members name).getD .undefined) && guardRequired rest members

/-- Every field's member is missing, undefined, or belongs to the field's type. -/
def guardOptional : List (String × Descriptor) → List (String × Value) → Bool
  | [], _ => true
  | (name, t) :: rest, members =>
    (match Fields.get? members name with
      | none => true
      | some .undefined => true
      | some v => guard t v) && guardOptional rest members

end

end Descriptor

end Specimen
