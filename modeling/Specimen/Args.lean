import Specimen.Json.Basic

/-!
# Constraint arguments

What marks a constraint for a strategy of its own: the tag that names the strategy, JSON parameters
for it, and types it may build on. Documents and descriptors carry the same arguments over their own
types.
-/

namespace Specimen

structure Args (α : Type) where
  tag : String
  params : List (String × Json)
  types : List (String × α)

namespace Args

variable {α : Type}

def new (tag : String) : Args α := ⟨tag, [], []⟩

def withParam (args : Args α) (name : String) (value : Json) : Args α :=
  { args with params := Fields.put args.params name value }

def withType (args : Args α) (name : String) (type : α) : Args α :=
  { args with types := Fields.put args.types name type }

end Args

end Specimen
