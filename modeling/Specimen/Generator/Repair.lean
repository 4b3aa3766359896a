import Specimen.Value.Basic

/-!
# Repairing a count

Bringing the number of items that a test accepts to a wanted count, at the least cost: of too few,
the missing ones are spliced in from a supply at given slots; of too many, the first are kept and
the others dropped. Items that the test rejects all stay, in order.
-/

namespace Specimen

variable {α : Type}

/-- A list with an item put in before position `at`, or at the end. -/
def insertAt (items : List α) (place : Nat) (item : α) : List α :=
  items.take place ++ item :: items.drop place

/-- Puts extras in one after the other, each at its slot counted round the list as it then is. -/
def spliceAll : List α → List (α × Nat) → List α
  | items, [] => items
  | items, (extra, slot) :: rest =>
    spliceAll (insertAt items (slot % (items.length + 1)) extra) rest

/-- Keeps every rejected item, and the first `count` accepted ones. -/
def keepFirst (accepts : α → Bool) : Nat → List α → List α
  | _, [] => []
  | count, x :: xs =>
    if accepts x then
      match count with
      | 0 => keepFirst accepts 0 xs
      | count + 1 => x :: keepFirst accepts count xs
    else x :: keepFirst accepts count xs

/-- Items of which `count` are accepted, given a supply of accepted extras and their slots. -/
def repairItems (accepts : α → Bool) (count : Nat) (items extras : List α) (slots : List Nat) :
    List α :=
  let found := items.countP accepts
  if found < count then spliceAll items ((extras.zip slots).take (count - found))
  else if count < found then keepFirst accepts count items
  else items

/-- The repair of a value: an array is repaired, anything else stays. -/
def Value.repair (accepts : Value → Bool) (count : Nat) (v : Value) (extras : List Value)
    (slots : List Nat) : Value :=
  match v with
  | .array items => .array (repairItems accepts count items extras slots)
  | v => v

end Specimen
