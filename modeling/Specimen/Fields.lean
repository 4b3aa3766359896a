/-!
# Fields

Members of an object, fields of a record, named parameters: pairs of a name and a thing, where the
order in which the names were first given is part of the meaning and a name occurs once. They are
held as association lists, because the order is content and the lists are short.

`put` is the one way in: a new name goes to the end, a known name keeps its place and takes the new
thing.
-/

namespace Specimen

namespace Fields

variable {α β : Type}

/-- The thing under a name. -/
def get? : List (String × α) → String → Option α
  | [], _ => none
  | (k, a) :: rest, name => if k = name then some a else get? rest name

def has (fields : List (String × α)) (name : String) : Bool := (get? fields name).isSome

def keys (fields : List (String × α)) : List String := fields.map Prod.fst

/-- A new name goes to the end; a known one keeps its place and takes the new thing. -/
def put : List (String × α) → String → α → List (String × α)
  | [], name, a => [(name, a)]
  | (k, old) :: rest, name, a =>
    if k = name then (k, a) :: rest else (k, old) :: put rest name a

/-- Pairs put one after the other: a repeated name keeps its first place and its last thing. -/
def ofPairs (pairs : List (String × α)) : List (String × α) :=
  pairs.foldl (fun fields (k, a) => put fields k a) []

/-- Another thing under each name. -/
def mapValues (f : α → β) (fields : List (String × α)) : List (String × β) :=
  fields.map fun (k, a) => (k, f a)

end Fields

end Specimen
