import Specimen.Json.Reader
import Specimen.Json.Writer
import Specimen.Number.Text

/-!
# Data of filter programs

What filter programs compute on: JSON values whose numbers are machine integers or binary64 numbers.
A number that was written with a point or a power of ten, or that fits no machine integer, stays the
text it was written as until it is computed with.

All data are ordered: null, false, true, numbers, texts, arrays, objects.
-/

namespace Specimen

inductive Data
  | null
  | bool (b : Bool)
  | integer (i : Int)
  | float (x : Number)
  /-- A number as it was written. -/
  | numeral (text : String)
  | string (s : String)
  | array (items : List Data)
  | object (members : List (String × Data))
deriving Inhabited

namespace Data

/-- The least and the greatest machine integer. -/
def least : Int := -0x8000000000000000

def greatest : Int := 0x8000000000000000 - 1

/-- Null and false count as false, everything else as true. -/
def truthy : Data → Bool
  | null => false
  | bool b => b
  | _ => true

/-- A number as binary64, if the data is one. -/
def number? : Data → Option Number
  | integer i => some (Number.ofInt i)
  | float x => some x
  | numeral text => Number.ofText? text
  | _ => none

/-- A datum as it is computed with: of a written number, the number itself; null for a text that writes
no number, which neither a program nor JSON holds. -/
def computed (d : Data) : Data :=
  match d with
  | numeral text => ((Number.ofText? text).map float).getD null
  | d => d

/-- A number as it is written in a program or in JSON text. -/
def ofNumeralText (text : String) : Data :=
  match text.toInt? with
  | some i => if least ≤ i ∧ i ≤ greatest then integer i else numeral text
  | none => numeral text

/-- The name of a datum's type. -/
def typeName : Data → String
  | null => "null"
  | bool _ => "boolean"
  | integer _ | float _ | numeral _ => "number"
  | string _ => "string"
  | array _ => "array"
  | object _ => "object"

/-! ## Text -/

/-- One character inside a written text. -/
def escape (c : Char) : List Char :=
  if c = '"' then ['\\', '"']
  else if c = '\\' then ['\\', '\\']
  else if 32 ≤ c.toNat then [c]
  else if c = '\n' then ['\\', 'n']
  else if c = '\r' then ['\\', 'r']
  else if c = '\t' then ['\\', 't']
  else '\\' :: 'u' :: paddedHex 4 c.toNat

def quoted (s : String) : List Char := '"' :: s.toList.flatMap escape ++ ['"']

mutual

/-- The text of a datum, in front of the text that follows it. -/
def write : Data → List Char → List Char
  | .null, after => "null".toList ++ after
  | .bool true, after => "true".toList ++ after
  | .bool false, after => "false".toList ++ after
  | .integer i, after => (toString i).toList ++ after
  | .float x, after => (if x.isFinite then x.text .dump else "null".toList) ++ after
  | .numeral text, after => text.toList ++ after
  | .string s, after => quoted s ++ after
  | .array [], after => '[' :: ']' :: after
  | .array (x :: xs), after => '[' :: write x (writeItems xs (']' :: after))
  | .object [], after => '\x7b' :: '\x7d' :: after
  | .object ((k, x) :: rest), after =>
    '\x7b' :: (quoted k ++ ':' :: write x (writeMembers rest ('\x7d' :: after)))

def writeItems : List Data → List Char → List Char
  | [], after => after
  | x :: xs, after => ',' :: write x (writeItems xs after)

def writeMembers : List (String × Data) → List Char → List Char
  | [], after => after
  | (k, x) :: rest, after => ',' :: (quoted k ++ ':' :: write x (writeMembers rest after))

end

/-- The JSON text of a datum; numbers that JSON cannot say become null. -/
def text (d : Data) : String := String.ofList (d.write [])

/-- A datum as text: a text is itself. -/
def shown (d : Data) : String :=
  match d with
  | .string s => s
  | d => d.text

/-! ## JSON -/

mutual

/-- The datum of a JSON value. -/
def ofJson : Json → Data
  | .null => .null
  | .bool b => .bool b
  | .number n => ofNumeralText (String.ofList n.chars)
  | .string s => .string s
  | .array items => .array (ofItems items)
  | .object members => .object (ofMembers members)

def ofItems : List Json → List Data
  | [] => []
  | item :: rest => ofJson item :: ofItems rest

def ofMembers : List (String × Json) → List (String × Data)
  | [] => []
  | (name, member) :: rest => (name, ofJson member) :: ofMembers rest

end

/-- The JSON value of a datum, read back from its text. -/
def json (d : Data) : Except Fault Json := Json.parse d.text

/-! ## Order -/

/-- Members in the order of their names. -/
def byName (members : List (String × Data)) : List (String × Data) :=
  members.mergeSort fun a b => !decide (b.1 < a.1)

mutual

/-- The same datum with the members of its objects in the order of their names. -/
def sorted : Data → Data
  | .array items => .array (sortedItems items)
  | .object members => .object (byName (sortedMembers members))
  | d => d

def sortedItems : List Data → List Data
  | [] => []
  | item :: rest => sorted item :: sortedItems rest

def sortedMembers : List (String × Data) → List (String × Data)
  | [] => []
  | (name, member) :: rest => (name, sorted member) :: sortedMembers rest

end

/-- The order of numbers: the zeros are equal, and a not-a-number is below everything, itself
included. -/
def compareNumbers (x y : Number) : Ordering :=
  if x.isNaN then .lt
  else if y.isNaN then .gt
  else compare x.key y.key

/-- The place of a type in the order of all data. -/
def rank : Data → Nat
  | null => 0
  | bool false => 1
  | bool true => 2
  | integer _ | float _ | numeral _ => 3
  | string _ => 4
  | array _ => 5
  | object _ => 6

def compareTexts (a b : String) : Ordering :=
  if a < b then .lt else if a = b then .eq else .gt

mutual

/-- The order of data whose objects are sorted. -/
def compareSorted : Data → Data → Ordering
  | .integer i, .integer j => compare i j
  | .string a, .string b => compareTexts a b
  | .array as, .array bs => compareItems as bs
  | .object as, .object bs =>
    (compareNames (as.map Prod.fst) (bs.map Prod.fst)).then (compareMembers as bs)
  | a, b =>
    match a.number?, b.number? with
    | some x, some y => compareNumbers x y
    | _, _ => compare a.rank b.rank

/-- Item by item; a list is below its extensions. -/
def compareItems : List Data → List Data → Ordering
  | [], [] => .eq
  | [], _ :: _ => .lt
  | _ :: _, [] => .gt
  | a :: as, b :: bs => (compareSorted a b).then (compareItems as bs)

/-- Names in order; a list is below its extensions. -/
def compareNames : List String → List String → Ordering
  | [], [] => .eq
  | [], _ :: _ => .lt
  | _ :: _, [] => .gt
  | a :: as, b :: bs => (compareTexts a b).then (compareNames as bs)

/-- Values of members whose names agree. -/
def compareMembers : List (String × Data) → List (String × Data) → Ordering
  | (_, a) :: as, (_, b) :: bs => (compareSorted a b).then (compareMembers as bs)
  | _, _ => .eq

end

/-- The order of data: by type first, so data of different types are not gone through. Objects are
ordered by their sorted names, then by the values under them. -/
def order (a b : Data) : Ordering :=
  (compare a.rank b.rank).then (compareSorted a.sorted b.sorted)

def equal (a b : Data) : Bool := order a b == .eq

end Data

end Specimen
