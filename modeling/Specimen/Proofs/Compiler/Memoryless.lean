import Specimen.Proofs.Compiler.Origin
import Specimen.Proofs.Generator.Support

/-!
# Compilers that make no tapes

A tape comes into a generator only through a registered strategy: if none of these answers with one,
nothing compiled holds one (`isTapeless_of_compiles`), and what can be drawn is settled part by part.
-/

namespace Specimen

namespace Compiler

variable {c : Compiler} {compile : Descriptor → Compiled} {g : Generator}

/-- What registered strategies make draws from the random choices alone. -/
def Memoryless (c : Compiler) : Prop :=
  ∀ plan g, c.Handles plan → c.Makes plan g → g.isTapeless = true

/-- Where nothing is registered, there is nothing to ask. -/
theorem memoryless_new : Compiler.new.Memoryless := by
  intro plan g handles
  cases handles with
  | extension node registered => cases registered
  | constraint node registered => cases registered
  | rule types registered => cases registered
  | intersection types registered => cases registered

theorem areTapeless_of_forall₂ {types : List Descriptor} {gs : List Generator}
    (compiled : ∀ t g, compile t = .ok g → g.isTapeless = true)
    (each : List.Forall₂ (fun t g => compile t = .ok g) types gs) :
    Generator.areTapeless gs = true := by
  refine Generator.areTapeless_eq_true.mpr fun g mem => ?_
  obtain ⟨t, _, made⟩ := each.exists_of_mem_right mem
  exact compiled t g made

/-- By induction on the depth: a tape in a generator comes from a type that was compiled on the way,
or from a strategy, and neither has one. -/
private theorem isTapeless_of_compileWithin (memoryless : c.Memoryless) :
    ∀ {depth : Nat} {t : Descriptor} {g : Generator}, c.compileWithin depth t = .ok g →
      g.isTapeless = true
  | 0, _, _, made => by cases made
  | depth + 1, t, g, made => by
    refine Generator.isTapeless_iff.mpr fun h mem => ?_
    cases Origin.of_step made mem with
    | told compiled mem =>
      exact Generator.isTapeless_iff.mp (isTapeless_of_compileWithin memoryless compiled) h mem
    | answered handles ran mem =>
      exact Generator.isTapeless_iff.mp (memoryless _ _ handles ⟨depth, ran⟩) h mem
    | plain plain =>
      cases h with
      | tape id values => cases plain
      | _ => rfl
    | _ => rfl

theorem isTapeless_of_compiles (memoryless : c.Memoryless) {t : Descriptor}
    (compiles : c.Compiles t g) : g.isTapeless = true := by
  obtain ⟨depth, made⟩ := compiles
  exact isTapeless_of_compileWithin memoryless made

end Compiler

end Specimen
