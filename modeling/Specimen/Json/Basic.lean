import Specimen.Fields
import Specimen.Number.Nearest

/-!
# JSON values

The values a JSON text can denote. Whole numbers that fit sixty-four bits stay whole; every other
number is a finite binary64 datum, so `1` and `1.0` are different values here. Members of objects
stand in the order of their first appearance.
-/

namespace Specimen

/-- A number as JSON carries it. -/
inductive Numeral
  /-- A whole number of at most sixty-four bits, signed or unsigned. -/
  | integer (i : Int) (fits : -0x8000000000000000 ≤ i ∧ i < 0x10000000000000000)
  /-- Any other number; infinities and not-a-numbers have no JSON form. -/
  | float (x : Number) (finite : x.isFinite = true)
deriving DecidableEq

namespace Numeral

/-- The nearest number. -/
def number : Numeral → Number
  | integer i _ => Number.ofInt i
  | float x _ => x

def ofInt? (i : Int) : Option Numeral :=
  if fits : -0x8000000000000000 ≤ i ∧ i < 0x10000000000000000 then some (integer i fits) else none

def ofNumber? (x : Number) : Option Numeral :=
  if finite : x.isFinite = true then some (float x finite) else none

/-- Equality of numerals as documents compare them: whole numbers with whole numbers, the rest as
numbers. -/
def equal : Numeral → Numeral → Bool
  | integer i _, integer j _ => i == j
  | float x _, float y _ => x.equal y
  | _, _ => false

end Numeral

/-- A JSON value. -/
inductive Json
  | null
  | bool (b : Bool)
  | number (n : Numeral)
  | string (s : String)
  | array (items : List Json)
  | object (members : List (String × Json))
deriving Inhabited

namespace Json

/-- A whole number, or null when it needs more than sixty-four bits. -/
def ofInt (i : Int) : Json := ((Numeral.ofInt? i).map number).getD .null

/-- A number, or null when it has no JSON form. -/
def ofNumber (x : Number) : Json := ((Numeral.ofNumber? x).map number).getD .null

def asArray? : Json → Option (List Json)
  | .array items => some items
  | _ => none

def asObject? : Json → Option (List (String × Json))
  | .object members => some members
  | _ => none

/-! ## Equality of documents -/

mutual

/-- Equality up to the order of members. -/
def equal : Json → Json → Bool
  | .null, .null => true
  | .bool a, .bool b => a == b
  | .number a, .number b => a.equal b
  | .string a, .string b => a == b
  | .array as, .array bs => equalItems as bs
  | .object as, .object bs => as.length == bs.length && equalMembers as bs
  | _, _ => false

/-- Item by item. -/
def equalItems : List Json → List Json → Bool
  | [], [] => true
  | a :: as, b :: bs => equal a b && equalItems as bs
  | _, _ => false

/-- Each member on the left has an equal one of its name on the right. -/
def equalMembers : List (String × Json) → List (String × Json) → Bool
  | [], _ => true
  | (k, a) :: as, bs =>
    (match Fields.get? bs k with
      | some b => equal a b
      | none => false) && equalMembers as bs

end

end Json

end Specimen
