import Specimen.Proofs.Compiler.Depth
import Specimen.Proofs.Generator.Idle
import Specimen.Proofs.Generator.Support
import Specimen.Proofs.Intersection.Rules

/-!
# Outcomes of types

What a type can come to: the values that its generator can draw. An outcome of an intersection is
one of the rule that serves it, accepted by all intersectees (`outcome_intersect`); where the rule
draws nothing else, the guard behind it may be left out of account (`alike_guarded`).
-/

namespace Specimen

namespace Compiler

variable {c : Compiler} {t : Descriptor} {g : Generator} {v : Value}

/-- A value that the generator of a type can draw. -/
def Outcome (c : Compiler) (t : Descriptor) (v : Value) : Prop := ∃ g, c.Compiles t g ∧ g.Draws v

theorem Compiles.draws_iff (compiles : c.Compiles t g) : g.Draws v ↔ c.Outcome t v := by
  refine ⟨fun drawn => ⟨g, compiles, drawn⟩, ?_⟩
  rintro ⟨h, compiles', drawn⟩
  rwa [compiles.unique compiles']

/-- The identity of a node has no part in what it is compiled to. -/
theorem outcome_node (id other : Nat) (shape : Shape) :
    c.Outcome (.node id shape) v ↔ c.Outcome (.node other shape) v := by
  simp only [Outcome, compiles_iff, eventually_eq]
  rfl

end Compiler

namespace Intersection

variable {c : Compiler} {intersectees : List Descriptor} {id : Nat} {g inner : Generator} {v : Value}
  {types : List Descriptor}

theorem compiles_intersect (two : 2 ≤ (flatten intersectees).length) :
    c.Compiles (.node id (.intersect intersectees)) g ↔
      ∃ inner, c.Makes (candidate c (flatten intersectees)) inner ∧
        g = guarded inner "intersection guard" (flatten intersectees) := by
  have step : c.step (.node id (.intersect intersectees)) = resolve c intersectees := rfl
  simp only [Compiler.compiles_iff, Compiler.makes_iff, Compiler.eventually_eq, step,
    resolve_of_several two, Plan.run_bind_eq_ok, Plan.run_pure, Except.ok.injEq]
  exact exists_congr fun inner => and_congr_right fun _ => eq_comm

theorem compiles_intersect_only {only : Descriptor} (one : flatten intersectees = [only]) :
    c.Compiles (.node id (.intersect intersectees)) g ↔
      ∃ source, c.Compiles only source ∧ g = guarded source "intersection guard" [only] := by
  have step : c.step (.node id (.intersect intersectees)) = do
      return guarded (← Plan.generatorOf only) "intersection guard" [only] := by
    change resolve c intersectees = _
    rw [resolve, one]
  simp only [Compiler.compiles_iff, Compiler.eventually_eq c (.node _ _), step,
    Plan.run_bind_eq_ok, Plan.run_generatorOf, Plan.run_pure, Except.ok.injEq]
  exact exists_congr fun source => and_congr_right fun _ => eq_comm

/-- An outcome of an intersection is one of its rule that all intersectees accept. -/
theorem outcome_intersect (two : 2 ≤ (flatten intersectees).length) :
    c.Outcome (.node id (.intersect intersectees)) v ↔
      ∃ inner, c.Makes (candidate c (flatten intersectees)) inner ∧ inner.Draws v ∧
        Descriptor.guardAll (flatten intersectees) v = true := by
  simp only [Compiler.Outcome, compiles_intersect two]
  constructor
  · rintro ⟨_, ⟨inner, made, rfl⟩, drawn⟩
    exact ⟨inner, made, Generator.draws_filtered.mp drawn⟩
  · rintro ⟨inner, made, drawn⟩
    exact ⟨_, ⟨inner, made, rfl⟩, Generator.draws_filtered.mpr drawn⟩

/-- A guard behind what all types accept anyway rejects nothing. -/
theorem alike_guarded {label : String}
    (accepted : ∀ v, inner.Draws v → Descriptor.guardAll types v = true) :
    (guarded inner label types).draw.Alike inner.draw :=
  Generator.alike_filtered_of_kept accepted

end Intersection

end Specimen
