import Specimen.Filter.Arithmetic
import Specimen.Filter.Reading

/-!
# Built-in operations

The functions of filter programs that are not written as programs themselves. A `Native` takes the
input and data; those that take terms are listed by name only (`Native.higher`), and are evaluated
where terms are.
-/

namespace Specimen

/-- A function of the input and of data. -/
structure Native where
  name : String
  /-- How many data it takes. -/
  arity : Nat
  run : Data → List Data → Except Data Data

namespace Native

open Data

private def needText (d : Data) : Except Data String :=
  match d with
  | string s => .ok s
  | d => .error (cannotUse d "string")

private def needItems (d : Data) : Except Data (List Data) :=
  match d with
  | array items => .ok items
  | d => .error (cannotUse d "array")

/-- The size of a datum: of a number, its distance from nought. -/
def length (d : Data) : Except Data Data :=
  match d.computed with
  | null => .ok (integer 0)
  | .bool _ => .error (string (d.text ++ " has no length"))
  | integer i => .ok (wrap i.natAbs)
  | float x => .ok (float (if x.isNegative then x.negate else x))
  | numeral _ => .ok (integer 0)
  | string s => .ok (integer s.length)
  | array items => .ok (integer items.length)
  | object members => .ok (integer members.length)

/-- The names of an object in their order, or the positions of an array. -/
def keysUnsorted (d : Data) : Except Data Data :=
  match d with
  | array items => .ok (array ((List.range items.length).map fun i : Nat => integer i))
  | object members => .ok (array (members.map fun member => string member.1))
  | d => .error (cannotUse d "iterable (array or object)")

def has (d key : Data) : Except Data Data :=
  match d, key with
  | array items, integer i =>
    if 0 ≤ i then .ok (.bool (decide (i < items.length))) else .error (cannotIndex d key)
  | object members, string name => .ok (.bool (Fields.has members name))
  | d, key => .error (cannotIndex d key)

/-- Whether a text occurs in another. -/
def occursIn (part : List Char) : List Char → Bool
  | [] => part.isEmpty
  | c :: cs => startsWith part (c :: cs) || occursIn part cs

mutual

/-- Whether data hold other data: texts their parts, arrays an item that holds each item, objects a
member that holds each member; all else holds its equals. -/
def holds : Data → Data → Bool
  | .string a, .string b => occursIn b.toList a.toList
  | .array as, .array bs => holdsItems as bs
  | .object as, .object bs => holdsMembers as bs
  | a, b => equal a b

/-- For each item on the right, an item on the left holds it. -/
def holdsItems (as : List Data) : List Data → Bool
  | [] => true
  | b :: bs => as.any (fun a => holds a b) && holdsItems as bs

/-- For each member on the right, the member of that name on the left holds it. -/
def holdsMembers (as : List (String × Data)) : List (String × Data) → Bool
  | [] => true
  | (name, b) :: bs =>
    (match Fields.get? as name with
      | some a => holds a b
      | none => false) && holdsMembers as bs

end

/-- The positions where a list stands in another. -/
def positionsOf {α : Type} (same : α → α → Bool) (part : List α) : List α → Nat → List Nat
  | [], _ => []
  | x :: xs, i =>
    let window := (x :: xs).take part.length
    let here := window.length == part.length && (window.zip part).all fun (a, b) => same a b
    if here then i :: positionsOf same part xs (i + 1) else positionsOf same part xs (i + 1)

/-- The positions of a part in a text or array, or of an item in an array. -/
def indices (d part : Data) : Except Data Data :=
  let answer (found : List Nat) : Except Data Data :=
    .ok (array (found.map fun i : Nat => integer i))
  match d, part with
  | string s, string p =>
    if p.isEmpty then answer [] else answer (positionsOf (· == ·) p.toList s.toList 0)
  | array items, array part =>
    if part.isEmpty then answer [] else answer (positionsOf equal part items 0)
  | array items, item => answer (positionsOf equal [item] items 0)
  | d, part => .error (cannotIndex d part)

/-- A number brought to a whole one by a rounding, as a machine integer. -/
def rounded (f : Float → Float) (d : Data) : Except Data Data :=
  match d with
  | integer i => .ok (integer i)
  | d =>
    match d.number? with
    | some x => .ok (integer (Number.ofFloat (f x.toFloat)).toMachine)
    | none => .error (cannotUse d "floating-point number")

def sqrt (d : Data) : Except Data Data :=
  match d.number? with
  | some x => .ok (float (.ofFloat x.toFloat.sqrt))
  | none => .error (cannotUse d "floating-point number")

/-- What a text says as JSON. -/
def fromJson (d : Data) : Except Data Data := do
  let s ← needText d
  match Reading.read s with
  | .ok d => return d
  | .error e => .error (string ("cannot parse " ++ s ++ " as JSON: " ++ e.message))

def explode (d : Data) : Except Data Data := do
  let s ← needText d
  return array (s.toList.map fun c => integer c.toNat)

/-- The character of a number. -/
def character (d : Data) : Except Data Char :=
  match d with
  | integer i =>
    if i < 0 then .error (string "number too small to fit in target type")
    else if 0xFFFFFFFF < i then .error (string "number too large to fit in target type")
    else if h : i.toNat.isValidChar then .ok (Char.ofNatAux i.toNat h)
    else .error (cannotUse d "character")
  | d => .error (cannotUse d "integer")

def implode (d : Data) : Except Data Data := do
  return string (String.ofList (← (← needItems d).mapM character))

private def mapText (f : Char → Char) (d : Data) : Except Data Data := do
  return string (String.ofList ((← needText d).toList.map f))

def lowerAscii (c : Char) : Char := if 'A' ≤ c ∧ c ≤ 'Z' then Char.ofNat (c.toNat + 32) else c

def upperAscii (c : Char) : Char := if 'a' ≤ c ∧ c ≤ 'z' then Char.ofNat (c.toNat - 32) else c

def reverse (d : Data) : Except Data Data := do return array (← needItems d).reverse

/-- An item put among items that are in descending order, in front of those that are not above it. -/
def insert {α : Type} (below : α → α → Bool) (x : α) : List α → List α
  | [] => [x]
  | y :: ys => if below x y then y :: insert below x ys else x :: y :: ys

/-- So many items are sorted by insertion, and more by merging. -/
def insertionLimit : Nat := 20

/-- Items in ascending order, those of which neither is below the other in the order they were in. How
they are sorted makes no difference unless items are below themselves, as a not-a-number is. -/
def inOrder {α : Type} (below : α → α → Bool) (items : List α) : List α :=
  if items.length ≤ insertionLimit then
    (items.foldl (fun sorted x => insert below x sorted) []).reverse
  else items.mergeSort fun a b => !below b a

def sortItems (items : List Data) : List Data := inOrder (fun a b => order a b == .lt) items

def sort (d : Data) : Except Data Data := do return array (sortItems (← needItems d))

private def textArgs (d : Data) (args : List Data) (f : List Char → List Char → Data) :
    Except Data Data :=
  match args with
  | [arg] => do
    let s ← needText d
    let part ← needText arg
    return f s.toList part.toList
  | _ => .error null

private def unary (f : Data → Except Data Data) : Data → List Data → Except Data Data :=
  fun d _ => f d

private def binary (f : Data → Data → Except Data Data) : Data → List Data → Except Data Data :=
  fun d args =>
    match args with
    | [arg] => f d arg
    | _ => .error null

/-- Blanks at the ends of a text. -/
private def isBlank (c : Char) : Bool := c.isWhitespace || c.toNat = 0x0B || c.toNat = 0x0C

private def trimmed (start stop : Bool) (d : Data) : Except Data Data := do
  let cs := (← needText d).toList
  let cs := if start then cs.dropWhile isBlank else cs
  let cs := if stop then (cs.reverse.dropWhile isBlank).reverse else cs
  return string (String.ofList cs)

/-- All functions of the input and of data. -/
def all : List Native :=
  [⟨"length", 0, unary length⟩,
    ⟨"keys_unsorted", 0, unary keysUnsorted⟩,
    ⟨"type", 0, unary fun d => .ok (string d.typeName)⟩,
    ⟨"tojson", 0, unary fun d => .ok (string d.text)⟩,
    ⟨"fromjson", 0, unary fromJson⟩,
    ⟨"floor", 0, unary (rounded Float.floor)⟩,
    ⟨"ceil", 0, unary (rounded Float.ceil)⟩,
    ⟨"round", 0, unary (rounded Float.round)⟩,
    ⟨"sqrt", 0, unary sqrt⟩,
    ⟨"explode", 0, unary explode⟩,
    ⟨"implode", 0, unary implode⟩,
    ⟨"ascii_downcase", 0, unary (mapText lowerAscii)⟩,
    ⟨"ascii_upcase", 0, unary (mapText upperAscii)⟩,
    ⟨"trim", 0, unary (trimmed true true)⟩,
    ⟨"ltrim", 0, unary (trimmed true false)⟩,
    ⟨"rtrim", 0, unary (trimmed false true)⟩,
    ⟨"utf8bytelength", 0, unary fun d => do return integer (← needText d).utf8ByteSize⟩,
    ⟨"reverse", 0, unary reverse⟩,
    ⟨"sort", 0, unary sort⟩,
    ⟨"has", 1, binary has⟩,
    ⟨"contains", 1, binary fun a b => .ok (.bool (holds a b))⟩,
    ⟨"indices", 1, binary indices⟩,
    ⟨"startswith", 1, fun d args => textArgs d args fun s part => .bool (startsWith part s)⟩,
    ⟨"endswith", 1, fun d args =>
      textArgs d args fun s part => .bool (startsWith part.reverse s.reverse)⟩,
    ⟨"ltrimstr", 1, fun d args => textArgs d args fun s part =>
      string (String.ofList (if startsWith part s then s.drop part.length else s))⟩,
    ⟨"rtrimstr", 1, fun d args => textArgs d args fun s part =>
      string (String.ofList
        (if startsWith part.reverse s.reverse then s.take (s.length - part.length) else s))⟩]

def find? (name : String) (arity : Nat) : Option Native :=
  all.find? fun native => native.name == name && native.arity == arity

/-- The functions that take terms, or yield other than one output, with how many arguments they
take. -/
def higher : List (String × Nat) :=
  [("first", 1), ("last", 1), ("limit", 2), ("range", 3), ("sort_by", 1), ("group_by", 1),
    ("min_by", 1), ("max_by", 1), ("error", 1), ("path_values", 0), ("input", 0), ("inputs", 0)]

/-- The arguments that such a function takes as data. -/
def dataTerms {α : Type} (name : String) (args : List α) : List α :=
  if name = "limit" then args.take 1 else if name = "range" then args else []

/-! ## Ordering by keys -/

/-- Items in the order of their keys. -/
def sortKeyed (items : List (Data × Data)) : List (Data × Data) :=
  inOrder (fun a b => order a.1 b.1 == .lt) items

/-- The runs that go on from a run under a key, whose items are at hand backwards. -/
def runsFrom (key : Data) (run : List Data) : List (Data × Data) → List (List Data)
  | [] => [run.reverse]
  | (other, item) :: rest =>
    if equal key other then runsFrom key (item :: run) rest
    else run.reverse :: runsFrom other [item] rest

/-- Runs of items whose keys equal the first one's. -/
def runs : List (Data × Data) → List (List Data)
  | [] => []
  | (key, item) :: rest => runsFrom key [item] rest

/-- The first item with the least key. -/
def least? : List (Data × Data) → Option Data
  | [] => none
  | first :: rest =>
    some (rest.foldl (fun best next => if order next.1 best.1 == .lt then next else best) first).2

/-- The last item with the greatest key. -/
def greatest? : List (Data × Data) → Option Data
  | [] => none
  | first :: rest =>
    some (rest.foldl (fun best next => if order next.1 best.1 == .lt then best else next) first).2

end Native

end Specimen
