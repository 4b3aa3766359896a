import Specimen.Json.Basic

/-!
# Values

What generators produce and guards inspect: JSON values, and the two things JSON cannot say, an
explicit absent marker and opaque callables. Every number is a binary64 datum here.
-/

namespace Specimen

/-- An opaque function. Its seed settles what it answers to every list of arguments. -/
structure Callable where
  seed : UInt64
deriving DecidableEq, Inhabited

/-- A value. -/
inductive Value
  | undefined
  | null
  | bool (b : Bool)
  | number (x : Number)
  | string (s : String)
  | array (items : List Value)
  | object (members : List (String × Value))
  | callable (c : Callable)
deriving Inhabited

/-- The eight kinds of value. -/
inductive Kind
  | undefined | null | boolean | number | string | array | object | function
deriving DecidableEq

namespace Kind

def name : Kind → String
  | undefined => "undefined"
  | null => "null"
  | boolean => "boolean"
  | number => "number"
  | string => "string"
  | array => "array"
  | object => "object"
  | function => "function"

end Kind

namespace Value

def kind : Value → Kind
  | undefined => .undefined
  | null => .null
  | bool _ => .boolean
  | number _ => .number
  | string _ => .string
  | array _ => .array
  | object _ => .object
  | callable _ => .function

def isUndefined : Value → Bool
  | undefined => true
  | _ => false

def asArray? : Value → Option (List Value)
  | array items => some items
  | _ => none

def asObject? : Value → Option (List (String × Value))
  | object members => some members
  | _ => none

/-- The member under a name; a missing one reads as undefined, and so does any member of a value
that is no object. -/
def member (v : Value) (name : String) : Value :=
  match v with
  | object members => (Fields.get? members name).getD undefined
  | _ => undefined

/-! ## Equality -/

mutual

/-- Equality of values: numbers as numbers, arrays item by item, objects up to the order of their
members. An undefined member is a member. -/
def equal : Value → Value → Bool
  | .undefined, .undefined => true
  | .null, .null => true
  | .bool a, .bool b => a == b
  | .number a, .number b => a.equal b
  | .string a, .string b => a == b
  | .array as, .array bs => equalItems as bs
  | .object as, .object bs => as.length == bs.length && equalMembers as bs
  | .callable a, .callable b => a.seed == b.seed
  | _, _ => false

/-- Item by item. -/
def equalItems : List Value → List Value → Bool
  | [], [] => true
  | a :: as, b :: bs => equal a b && equalItems as bs
  | _, _ => false

/-- Each member on the left has an equal one of its name on the right. -/
def equalMembers : List (String × Value) → List (String × Value) → Bool
  | [], _ => true
  | (k, a) :: as, bs =>
    (match Fields.get? bs k with
      | some b => equal a b
      | none => false) && equalMembers as bs

end

end Value

end Specimen
