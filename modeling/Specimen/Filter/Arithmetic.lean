import Specimen.Filter.Data

/-!
# Arithmetic of filter programs

Sums, differences, products and remainders of machine integers are machine integers and wrap;
quotients, and whatever involves a binary64 number, are binary64 numbers, rounded by the machine. The
same operators join texts, arrays and objects, split texts, and repeat them.

An operation fails with a datum, the message under which a program may catch it.
-/

namespace Specimen

/-- The arithmetic operators. -/
inductive MathOp
  | add | sub | mul | div | rem
deriving DecidableEq

/-- The comparisons. -/
inductive CompareOp
  | lt | le | gt | ge | eq | ne
deriving DecidableEq

namespace MathOp

def sign : MathOp → String
  | add => "+"
  | sub => "-"
  | mul => "*"
  | div => "/"
  | rem => "%"

end MathOp

namespace Number

def toFloat (x : Number) : Float := Float.ofBits x.bits

def ofFloat (f : Float) : Number := ⟨f.toBits⟩

def plus (x y : Number) : Number := ofFloat (x.toFloat + y.toFloat)

def minus (x y : Number) : Number := ofFloat (x.toFloat - y.toFloat)

def times (x y : Number) : Number := ofFloat (x.toFloat * y.toFloat)

def quotient (x y : Number) : Number := ofFloat (x.toFloat / y.toFloat)

/-- The remainder of a division toward zero, with the sign of the dividend; it is always exact. -/
def modulo (x y : Number) : Number :=
  if x.isNaN || y.isNaN || x.isInfinite || y.isZero then nan
  else if y.isInfinite then x
  else
    let (a, b) := x.ratio
    let (c, d) := y.ratio
    ofRatio x.isNegative (a * d % (c * b)) (b * d)

/-- The part of a number before its point, as a machine integer; beyond their range the nearest, and
nought for a not-a-number. -/
def toMachine (x : Number) : Int :=
  if x.isNaN then 0
  else if x.isInfinite then (if x.isNegative then Data.least else Data.greatest)
  else
    let (a, b) := x.ratio
    let size : Int := (a / b : Nat)
    max Data.least (min Data.greatest (if x.isNegative then -size else size))

end Number

namespace Data

/-- An integer brought into the range of machine integers by wrapping. -/
def wrap (i : Int) : Data := integer (Int.bmod i (0x10000000000000000))

/-! ## Failures -/

def cannotUse (d : Data) (as : String) : Data :=
  string ("cannot use " ++ d.text ++ " as " ++ as)

def cannotCalculate (op : MathOp) (l r : Data) : Data :=
  string ("cannot calculate " ++ l.text ++ " " ++ op.sign ++ " " ++ r.text)

def cannotIndex (d index : Data) : Data :=
  string ("cannot index " ++ d.text ++ " with " ++ index.text)

/-! ## Operators on texts, arrays and objects -/

/-- Whether a text starts with another. -/
def startsWith : List Char → List Char → Bool
  | [], _ => true
  | _ :: _, [] => false
  | p :: ps, c :: cs => p == c && startsWith ps cs

/-- The parts of a text between the places where a nonempty separator stands. -/
def splitOn (separator : List Char) : Nat → List Char → List Char → List (List Char)
  | 0, _, part => [part.reverse]
  | _ + 1, [], part => [part.reverse]
  | left + 1, c :: cs, part =>
    if startsWith separator (c :: cs) then
      part.reverse :: splitOn separator left ((c :: cs).drop separator.length) []
    else splitOn separator left cs (c :: part)

/-- A text as the parts between separators; the empty text has none, and an empty separator stands
between all characters. -/
def split (s separator : String) : Data :=
  if s.isEmpty then array []
  else if separator.isEmpty then array (s.toList.map fun c => string (String.ofList [c]))
  else
    let cs := s.toList
    array ((splitOn separator.toList (cs.length + 1) cs []).map fun part =>
      string (String.ofList part))

mutual

/-- The right member merged over the left one, objects within objects too. -/
def mergeOver : Option Data → Data → Data
  | some (.object left), .object right => .object (mergeMembers left right)
  | _, right => right

/-- Members of the right merged one by one into the left. -/
def mergeMembers : List (String × Data) → List (String × Data) → List (String × Data)
  | left, [] => left
  | left, (name, member) :: rest =>
    mergeMembers (Fields.put left name (mergeOver (Fields.get? left name) member)) rest

end

/-- A text `n` times over; null when `n` is not positive. -/
def repeated (s : String) (n : Int) : Data :=
  if n ≤ 0 then null
  else if s.isEmpty then string s
  else string (String.join (List.replicate n.toNat s))

/-! ## Operators -/

/-- An operator on two numbers, not both integers. -/
def mathNumbers : MathOp → Number → Number → Number
  | .add => Number.plus
  | .sub => Number.minus
  | .mul => Number.times
  | .div => Number.quotient
  | .rem => Number.modulo

/-- An operator on two data of which neither is a written number. -/
def mathComputed (op : MathOp) (l r : Data) : Except Data Data :=
  match op, l, r with
  | .add, null, r => .ok r
  | .add, l, null => .ok l
  | .add, integer i, integer j => .ok (wrap (i + j))
  | .sub, integer i, integer j => .ok (wrap (i - j))
  | .mul, integer i, integer j => .ok (wrap (i * j))
  | .div, integer i, integer j => .ok (float (Number.quotient (Number.ofInt i) (Number.ofInt j)))
  | .rem, integer i, integer j =>
    if j = 0 then .error (cannotCalculate op l r) else .ok (wrap (Int.tmod i j))
  | .add, string a, string b => .ok (string (a ++ b))
  | .add, array as, array bs => .ok (array (as ++ bs))
  | .add, object as, object bs =>
    .ok (object (bs.foldl (fun members (name, member) => Fields.put members name member) as))
  | .sub, array as, array bs => .ok (array (as.filter fun a => !bs.any (equal a)))
  | .mul, string s, integer n => .ok (repeated s n)
  | .mul, integer n, string s => .ok (repeated s n)
  | .mul, object as, object bs => .ok (object (mergeMembers as bs))
  | .div, string a, string b => .ok (split a b)
  | op, l, r =>
    match l.number?, r.number? with
    | some x, some y => .ok (float (mathNumbers op x y))
    | _, _ => .error (cannotCalculate op l r)

/-- An operator on two data. What null is added to stays as it was written. -/
def math (op : MathOp) (l r : Data) : Except Data Data :=
  match op, l, r with
  | .add, null, r => .ok r
  | .add, l, null => .ok l
  | op, l, r => mathComputed op l.computed r.computed

/-- Whether no machine has an answer to an operator: to a repetition that is longer than any text, and
to the remainder of a division whose quotient is no machine integer. -/
def isBeyond (op : MathOp) (l r : Data) : Bool :=
  match op, l, r with
  | .mul, string s, integer n => decide (greatest < s.utf8ByteSize * n)
  | .mul, integer n, string s => decide (greatest < s.utf8ByteSize * n)
  | .rem, integer i, integer j => i == least && j == -1
  | _, _, _ => false

/-- The opposite number. -/
def negated (d : Data) : Except Data Data :=
  match d.computed with
  | integer i => .ok (wrap (-i))
  | float x => .ok (float x.negate)
  | d => .error (cannotUse d "number")

/-- The answer of a comparison. -/
def compareBy : CompareOp → Data → Data → Bool
  | .lt, l, r => order l r == .lt
  | .le, l, r => order l r != .gt
  | .gt, l, r => order l r == .gt
  | .ge, l, r => order l r != .lt
  | .eq, l, r => equal l r
  | .ne, l, r => !equal l r

/-! ## Access -/

/-- The position that an index means in a list of a length; from the end when negative. -/
def position? (i : Int) (length : Nat) : Option Nat :=
  let i := if i < 0 then i + length else i
  if 0 ≤ i ∧ i < length then some i.toNat else none

/-- The value under an index: of an array at a position, of an object under a name. What is not there
is null. -/
def index (d i : Data) : Except Data Data :=
  match d, i with
  | array items, integer i => .ok ((position? i items.length).bind (items[·]?) |>.getD null)
  | object members, string name => .ok ((Fields.get? members name).getD null)
  | array _, i => .error (cannotIndex d i)
  | object _, i => .error (cannotIndex d i)
  | d, _ => .error (cannotUse d "iterable (array or object)")

/-- The values in an array or object. -/
def values (d : Data) : Except Data (List Data) :=
  match d with
  | array items => .ok items
  | object members => .ok (members.map Prod.snd)
  | d => .error (cannotUse d "iterable (array or object)")

/-- A bound of a slice: an integer, or absent. -/
def sliceBound : Option Data → Except Data (Option Int)
  | none => .ok none
  | some (integer i) => .ok (some i)
  | some d => .error (cannotUse d "integer")

/-- A bound as a position in a list of a length. -/
def boundPosition (bound : Option Int) (length default : Nat) : Nat :=
  match bound with
  | none => default
  | some i => min length (if i < 0 then (i + length).toNat else i.toNat)

/-- How many items a slice skips, and how many it takes. -/
def sliceSpan (start stop : Option Int) (length : Nat) : Nat × Nat :=
  let skip := boundPosition start length 0
  (skip, boundPosition stop length length - skip)

/-- A stretch of an array or a text. -/
def slice (d : Data) (start stop : Option Data) : Except Data Data := do
  match d with
  | array items =>
    let (skip, take) := sliceSpan (← sliceBound start) (← sliceBound stop) items.length
    return array ((items.drop skip).take take)
  | string s =>
    let cs := s.toList
    let (skip, take) := sliceSpan (← sliceBound start) (← sliceBound stop) cs.length
    return string (String.ofList ((cs.drop skip).take take))
  | d => .error (cannotUse d "rangeable (array or string)")

mutual

/-- A datum and all data within it, each before what is within it. -/
def descendants : Data → List Data
  | .array items => .array items :: descendItems items
  | .object members => .object members :: descendMembers members
  | d => [d]

def descendItems : List Data → List Data
  | [] => []
  | item :: rest => descendants item ++ descendItems rest

def descendMembers : List (String × Data) → List Data
  | [] => []
  | (_, member) :: rest => descendants member ++ descendMembers rest

end

mutual

/-- The paths to a datum and to all data within it. -/
def paths : Data → List (List Data)
  | .array items => [] :: pathsItems items 0
  | .object members => [] :: pathsMembers members
  | _ => [[]]

def pathsItems : List Data → Nat → List (List Data)
  | [], _ => []
  | item :: rest, i => (paths item).map (.integer i :: ·) ++ pathsItems rest (i + 1)

def pathsMembers : List (String × Data) → List (List Data)
  | [] => []
  | (name, member) :: rest => (paths member).map (.string name :: ·) ++ pathsMembers rest

end

end Data

end Specimen
