import Specimen.Error
import Specimen.Generator.Basic
import Specimen.Generator.Choices
import Specimen.Generator.Repair

/-!
# Drawing

What a generator draws from a stream of choices. A draw threads a `Run` through: the position
reached in the stream, the rejections spent so far, the label of the filter that rejected last, and
how far each tape has moved.

A filter draws from its source until a value is kept. Each rejection spends one unit of a budget that
all filters and all draws of a run share; a rejection that finds the budget spent starves the draw.
Since every rejection spends, a filter that starts with `spent` units gone rejects at most
`budget + 1 - spent` times, and that number bounds its loop.
-/

namespace Specimen

/-- What a run draws from. -/
structure Source where
  choices : Choices
  /-- Rejections tolerated over the whole run. -/
  budget : Nat

/-- The state of a run. -/
structure Run where
  /-- Words of the stream used so far. -/
  position : Nat
  /-- Rejections so far. -/
  spent : Nat
  /-- The label of the filter that rejected last during the current draw. -/
  blamed : Option String
  /-- How many values have been drawn from each tape. -/
  tapes : List (Nat × Nat)

namespace Run

def start : Run := ⟨0, 0, none, []⟩

/-- A run that starts where a filter has been blamed before. -/
def startBlaming (blamed : Option String) : Run := { start with blamed := blamed }

instance : Inhabited Run := ⟨start⟩

/-- How many values have been drawn from a tape. -/
def drawnFrom (run : Run) (tape : Nat) : Nat := (run.tapes.lookup tape).getD 0

end Run

/-- A draw in progress; it fails when it is starved. -/
abbrev Draw := ReaderT Source (EStateM Unit Run)

namespace Draw

/-- The next word of the stream. -/
def word : Draw UInt64 := fun source run =>
  .ok (source.choices run.position) { run with position := run.position + 1 }

/-- A natural made of so many words, the least significant one first. -/
def natural : Nat → Draw Nat
  | 0 => return 0
  | words + 1 => do
    let low ← word
    return low.toNat + UInt64.size * (← natural words)

/-- A natural below `n`, each as likely as any other as far as words go: of one word, unless `n` is
more than words can tell apart. -/
def below (n : Nat) : Draw Nat := do return (← natural (n / UInt64.size + 1)) % n

/-- The next value of a tape. -/
def fromTape (id : Nat) (values : List Value) : Draw Value := fun _ run =>
  let drawn := run.drawnFrom id
  let tapes := (id, drawn + 1) :: run.tapes.filter fun entry => entry.1 != id
  .ok (values[drawn % values.length]?.getD .undefined) { run with tapes := tapes }

/-- `count` draws. -/
def times {α : Type} (one : Draw α) : Nat → Draw (List α)
  | 0 => return []
  | count + 1 => do
    let first ← one
    return first :: (← times one count)

/-! ## Rejection -/

/-- Notes a rejection, and spends one unit of the budget on it or starves. -/
def reject (label : Option String) : Draw Unit := fun source run =>
  let run := { run with blamed := label.or run.blamed }
  if source.budget ≤ run.spent then .error () run
  else .ok () { run with spent := run.spent + 1 }

/-- Tries again after each rejection, at most `left` times. -/
def attempts (label : Option String) (attempt : Draw (Option Value)) : Nat → Draw Value
  | 0 => fun _ run => .error () run
  | left + 1 => do
    match ← attempt with
    | some v => return v
    | none => do
      reject label
      attempts label attempt left

/-- Tries until an attempt succeeds, or starves. -/
def untilKept (label : Option String) (attempt : Draw (Option Value)) : Draw Value :=
  fun source run => attempts label attempt (source.budget + 1 - run.spent) source run

/-! ## Leaves -/

/-- A finite number: five in seven normal, the rest subnormal or zero, of either sign. -/
def number : Draw Number := do
  let kind ← below 7
  let word ← word
  let negative := decide (0x8000000000000000 ≤ word.toNat)
  let fraction := word.toNat % Number.fractionSpan
  match kind with
  | 0 => return .ofMagnitude negative 0
  | 1 => return .ofMagnitude negative (max fraction 1)
  | _ =>
    let exponent ← below 2046
    return .ofMagnitude negative ((exponent + 1) * Number.fractionSpan + fraction)

/-- Ranges of characters that texts are made of; the common ones are listed more than once. -/
def alphabet : List (Nat × Nat) :=
  [(32, 95), (32, 95), (48, 10), (65, 26), (97, 26), (0xC0, 64), (0x3B1, 25), (0x430, 32),
    (0x4E00, 20000), (0x1F600, 80)]

def character : Draw Char := do
  let range ← below alphabet.length
  let (first, span) := (alphabet[range]?).getD (32, 95)
  return Char.ofNat (first + (← below span))

/-- A text of at most 32 characters. -/
def text : Draw String := do
  let length ← below 33
  return String.ofList (← times character length)

def leaf : Draw Value := do
  match ← below 4 with
  | 0 => return .null
  | 1 => return .bool ((← below 2) == 1)
  | 2 => return .number (← number)
  | _ => return .string (← text)

/-- A JSON-like value; while depth is left, four in five are containers of at most seven. -/
def json : Nat → Draw Value
  | 0 => leaf
  | depth + 1 => do
    match ← below 5 with
    | 0 => leaf
    | 1 | 2 => do
      let size ← below 8
      return .array (← times (json depth) size)
    | _ => do
      let size ← below 8
      let pairs ← times (do return (← text, ← json depth)) size
      return .object (Fields.ofPairs pairs)

end Draw

/-- The first value kept in cyclic order from a start, if any is. -/
def firstKept (keep : Value → Bool) (drawn : List Value) (start : Nat) : Option Value :=
  let offset := start % drawn.length
  (drawn.drop offset ++ drawn.take offset).find? keep

namespace Generator

mutual

/-- One draw. -/
def draw : Generator → Draw Value
  | .constant v => return v
  | .boolean => do return .bool ((← Draw.below 2) == 1)
  | .number => do return .number (← Draw.number)
  | .text => do return .string (← Draw.text)
  | .void => do return if (← Draw.below 2) == 0 then .undefined else .null
  | .callable => do return .callable ⟨← Draw.word⟩
  | .json depth => Draw.json depth
  | .tape id values => Draw.fromTape id values
  | .array element most => do
    let size ← Draw.below (most + 1)
    return .array (← Draw.times (draw element) size)
  | .dictionary value most => do
    let size ← Draw.below (most + 1)
    let pairs ← Draw.times (do return (← Draw.text, ← draw value)) size
    return .object (Fields.ofPairs pairs)
  | .oneOf first others => do
    match ← Draw.below (others.length + 1) with
    | 0 => draw first
    | index + 1 => drawAt others index
  | .tupleOf components => do return .array (← drawAll components)
  | .recordOf fields => do return .object (Fields.ofPairs (← drawFields fields))
  | .mapped source f => do return f (← draw source)
  | .filtered source label keep =>
    Draw.untilKept label do
      let v ← draw source
      return if keep v then some v else none
  | .rotated candidates label keep =>
    Draw.untilKept (some label) do
      let drawn ← drawAll candidates
      return firstKept keep drawn (← Draw.below drawn.length)
  | .mended base extra count accepts => do
    let v ← draw base
    let extras ← Draw.times (draw extra) count
    let slots ← Draw.times Draw.word count
    return v.repair accepts count extras (slots.map UInt64.toNat)

/-- One draw from each, in order. -/
def drawAll : List Generator → Draw (List Value)
  | [] => return []
  | g :: rest => do
    let first ← draw g
    return first :: (← drawAll rest)

/-- One draw from the option of an index. -/
def drawAt : List Generator → Nat → Draw Value
  | [], _ => return .undefined
  | g :: _, 0 => draw g
  | _ :: rest, index + 1 => drawAt rest index

/-- One draw from each, in order, under its name. -/
def drawFields : List (String × Generator) → Draw (List (String × Value))
  | [] => return []
  | (name, g) :: rest => do
    let first ← draw g
    return (name, first) :: (← drawFields rest)

end

/-! ## Runs of draws -/

/-- The generic part of the reason of a starved draw. -/
def starvedText : String := "Too many local rejects"

/-- The reason of a starved draw, from the filter that rejected last. -/
def starvedReason : Option String → String
  | some label => label ++ " (" ++ starvedText ++ ")"
  | none => starvedText

/-- One draw of a run: its value or why there is none, and the run after it. Blame starts anew with
each draw. -/
def next (g : Generator) (source : Source) (run : Run) : Except GenError Value × Run :=
  match g.draw source { run with blamed := none } with
  | .ok v run => (.ok v, run)
  | .error () run => (.error (.retryBudgetExceeded (starvedReason run.blamed)), run)

/-- `n` draws of a run, or why one of them failed. -/
def sample (g : Generator) (source : Source) : Nat → Run → Except GenError (List Value) × Run
  | 0, run => (.ok [], run)
  | n + 1, run =>
    match g.next source run with
    | (.error e, run) => (.error e, run)
    | (.ok v, run) =>
      match g.sample source n run with
      | (.error e, run) => (.error e, run)
      | (.ok vs, run) => (.ok (v :: vs), run)

end Generator

end Specimen
