import Specimen.Check.Config
import Specimen.Compiler.Compile
import Specimen.Generator.Draw

/-!
# Checks

A check compiles a descriptor once, draws a value per trial, and stops at the first value that the
descriptor's own guard rejects, or at the first draw that starves.
-/

namespace Specimen

/-- A passed check. -/
structure Report where
  cases : Nat
  seed : UInt64
deriving DecidableEq

namespace Check

/-- The trials of a check, `left` of them from the one numbered `trial`. -/
def trials (accepts : Value → Bool) (seed : UInt64) (g : Generator) (source : Source) :
    Nat → Nat → Run → Except GenError Unit × Run
  | 0, _, run => (.ok (), run)
  | left + 1, trial, run =>
    match g.next source run with
    | (.error e, run) => (.error e, run)
    | (.ok v, run) =>
      if accepts v then trials accepts seed g source left (trial + 1) run
      else (.error (.counterexampleFound trial seed v), run)

end Check

namespace Compiler

/-- The compiler under the size bound of a configuration. -/
def configured (c : Compiler) (config : RunConfig) : Compiler :=
  match config.maxSize with
  | some maxSize => c.withMaxSize maxSize
  | none => c

/-- A check whose run starts from a given state, and the state after it. -/
def checkFrom (c : Compiler) (t : Descriptor) (config : RunConfig) (seed : UInt64) (run : Run) :
    Except Failure Report × Run :=
  match (c.configured config).compile t with
  | .error failure => (.error failure, run)
  | .ok g =>
    match Check.trials t.guard seed g ⟨.seeded seed, config.maxRejects⟩ config.cases 1 run with
    | (.error e, run) => (.error (.error e), run)
    | (.ok (), run) => (.ok ⟨config.cases, seed⟩, run)

/-- Checks that a type only generates values it accepts. -/
def check (c : Compiler) (t : Descriptor) (config : RunConfig) (seed : UInt64) :
    Except Failure Report :=
  (c.checkFrom t config seed .start).1

end Compiler

end Specimen
