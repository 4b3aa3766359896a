import Specimen.Compiler.Compile

/-!
# Arrays that contain a type

The constraint that an array holds exactly so many items of a type, and its strategy. The strategy
does not wait for the count to come up by chance but brings it about: too few matches get drawn items
spliced in at drawn places, of too many the first are kept.
-/

namespace Specimen

namespace Contains

def tag : String := "contains"

/-- How far beyond the size bound of collections a count may go. -/
def headroom : Nat := 16

/-- The greatest count of sixty-four bits. -/
def countLimit : Nat := 0x10000000000000000 - 1

/-- How many items of a type an array holds. -/
def countMatching (v : Value) (item : Descriptor) : Option Nat :=
  v.asArray?.map fun items => items.countP item.guard

/-- Exactly `count` items of a type. -/
def predicate (item : Descriptor) (count : Nat) : Predicate :=
  ⟨"contains exactly " ++ toString count, fun v => countMatching v item == some count⟩

/-- The values of `array` that hold exactly `count` items of a type. -/
def arrayWith (array item : Descriptor) (count : Nat) : Fresh Descriptor :=
  array.custom (predicate item count)
    (((Args.new tag).withParam "count" (Json.ofInt count)).withType "item" item)

private def invalid {α : Type} (reason : String) : Plan α := Plan.fail (.invalidArgs tag reason)

/-- The count that arguments ask for; one if they ask for none. -/
def countOf (args : Args Descriptor) : Plan Nat :=
  match Fields.get? args.params "count" with
  | none => return 1
  | some (.number (.integer i _)) =>
    if 0 ≤ i then return i.toNat else invalid "`count` must be a non-negative integer"
  | some _ => invalid "`count` must be a non-negative integer"

/-- The greatest count allowed under a size bound. -/
def limit (maxSize : Nat) : Nat := min (max maxSize 1 * headroom) countLimit

/-- The strategy of the constraint. -/
def strategy : ConstraintStrategy := fun maxSize node => do
  let item ←
    match Fields.get? node.args.types "item" with
    | some item => pure item
    | none => invalid "no `item` type"
  let count ← countOf node.args
  if limit maxSize < count then
    invalid ("`count` " ++ toString count ++ " exceeds the limit of " ++
      toString (limit maxSize) ++ " for collection size " ++ toString maxSize)
  let base ← Plan.generatorOf node.underlying
  let extra ← Plan.generatorOf item
  return .filtered (.mended base extra count item.guard) (some "contains repair missed")
    fun v => node.underlying.guard v && node.predicate.test v

/-- Registers the strategy. -/
def register (c : Compiler) : Compiler := c.registerCustomConstraint tag strategy

end Contains

end Specimen
