import Specimen.Descriptor.Basic
import Specimen.Error
import Specimen.Generator.Basic

/-!
# Plans

How a strategy reaches its generator: it has types compiled, one after the other, going on with each
generator or error it is told, and in the end answers. A plan only names the types. What they
compile to is for whoever runs it to say, so a plan is a value of its own that says the same however
deep compilations may nest.

A plan is never told that a compilation was abandoned: then nobody goes on.
-/

namespace Specimen

/-- Why there is no generator. -/
inductive Failure
  | error (error : GenError)
  /-- A strategy broke off without an answer, or compilations nested without end. -/
  | abandoned

namespace Failure

def message : Failure → String
  | error e => e.message
  | abandoned => "compilation was abandoned"

end Failure

abbrev Compiled := Except Failure Generator

/-- A computation that has types compiled on its way. -/
inductive Plan (α : Type)
  | answer (result : Except Failure α)
  /-- Has a type compiled, and goes on with its generator or with the error. -/
  | compile (t : Descriptor) (next : Except GenError Generator → Plan α)

namespace Plan

variable {α β : Type}

instance : Inhabited (Plan α) := ⟨.answer (.error .abandoned)⟩

/-- One plan after another. -/
def bind : Plan α → (α → Plan β) → Plan β
  | .answer (.ok a), f => f a
  | .answer (.error failure), _ => .answer (.error failure)
  | .compile t next, f => .compile t fun result => bind (next result) f

instance : Monad Plan where
  pure a := .answer (.ok a)
  bind := bind

def fail (e : GenError) : Plan α := .answer (.error (.error e))

/-- The generator of a type, or the error for want of one. -/
def generatorOf (t : Descriptor) : Plan Generator :=
  .compile t fun result => .answer (result.mapError .error)

/-- What a plan comes to, given what types compile to. -/
def run (compile : Descriptor → Compiled) : Plan α → Except Failure α
  | .answer result => result
  | .compile t next =>
    match compile t with
    | .ok g => (next (.ok g)).run compile
    | .error (.error e) => (next (.error e)).run compile
    | .error .abandoned => .error .abandoned

end Plan

end Specimen
