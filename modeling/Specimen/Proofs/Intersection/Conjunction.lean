import Specimen.Proofs.Compiler.Plan
import Specimen.Proofs.Descriptor.Guard
import Specimen.Proofs.Generator.Draws
import Specimen.Compiler.Compile

/-!
# Intersections draw what all intersectees accept

Whatever is registered, and whatever registered strategies yield, a value drawn for an intersection
satisfies the guard of each intersectee (`intersection_draws_satisfy_all`). Nothing is asked of the
compiler or of the intersectees: the last thing that happens to a draw is the filter by the guards of
what is left when nested intersections dissolve, and these say together what the guards of the listed
intersectees say.
-/

namespace Specimen

namespace Intersection

variable {c : Compiler} {intersectees : List Descriptor} {compile : Descriptor → Compiled}
  {g : Generator} {v : Value}

theorem guardAll_of_guarded {source : Generator} {label : String} {types : List Descriptor}
    (drawn : (guarded source label types).Draws v) : Descriptor.guardAll types v = true :=
  (Generator.Draws.of_filtered drawn).2

/-- Each way out of the resolver: with nothing to intersect no guard is left, and the others end in
the filter. -/
theorem guardAll_of_resolve (resolved : (resolve c intersectees).run compile = .ok g)
    (drawn : g.Draws v) : Descriptor.guardAll intersectees v = true := by
  rw [← Descriptor.guardAll_flatten]
  unfold resolve at resolved
  split at resolved
  case h_1 nothing => rw [nothing]; rfl
  case h_2 only =>
    obtain ⟨source, _, made⟩ := Plan.run_bind_eq_ok.mp resolved
    cases made
    rw [only]
    exact guardAll_of_guarded drawn
  case h_3 =>
    obtain ⟨source, _, made⟩ := Plan.run_bind_eq_ok.mp resolved
    cases made
    exact guardAll_of_guarded drawn

/-- A value drawn for an intersection satisfies the guard of each intersectee, whatever way the
resolver takes, whatever the types on the way compile to and whatever is registered; and so it
satisfies the guard of the intersection. -/
theorem intersection_draws_satisfy_all (c : Compiler) (intersectees : List Descriptor) :
    (∀ compile g v, (resolve c intersectees).run compile = .ok g → g.Draws v →
      ∀ t ∈ intersectees, t.guard v = true) ∧
    (∀ id g v, c.compile (.node id (.intersect intersectees)) = .ok g → g.Draws v →
      (∀ t ∈ intersectees, t.guard v = true) ∧
        (Descriptor.node id (.intersect intersectees)).guard v = true) := by
  refine ⟨fun compile g v resolved drawn => ?_, fun id g v compiled drawn => ?_⟩
  · exact Descriptor.guardAll_eq_true.mp (guardAll_of_resolve resolved drawn)
  · have all : Descriptor.guardAll intersectees v = true := guardAll_of_resolve compiled drawn
    exact ⟨Descriptor.guardAll_eq_true.mp all, all⟩

/-- A strategy that may well yield what no boolean type accepts. -/
def lyingStrategy : IntersectStrategy := fun _ _ =>
  pure (.oneOf (.constant (.string "true")) [.boolean])

/-- A compiler whose rule for booleans and literals lies. -/
def lyingCompiler : Compiler :=
  Compiler.new.registerIntersectionRule "liar" [.boolean, .literal] lyingStrategy

/-- A boolean that is true, with one intersection within another. -/
def truth : List Descriptor :=
  [.node 1 .boolean, .node 2 (.intersect [.node 3 (.literal (.bool true))])]

/-- The lying rule is the one that applies, and what passes is what both types accept. -/
theorem lying_rule_is_filtered :
    ∃ g, lyingCompiler.compile (.node 0 (.intersect truth)) = .ok g ∧ g.Draws (.bool true) ∧
      (∀ t ∈ truth, t.guard (.bool true) = true) ∧
        (Descriptor.node 0 (.intersect truth)).guard (.bool true) = true := by
  have compiled : lyingCompiler.compile (.node 0 (.intersect truth)) =
      .ok (guarded (.oneOf (.constant (.string "true")) [.boolean]) "intersection guard"
        [.node 1 .boolean, .node 3 (.literal (.bool true))]) := rfl
  have drawn : (guarded (.oneOf (.constant (.string "true")) [.boolean]) "intersection guard"
      [.node 1 .boolean, .node 3 (.literal (.bool true))]).Draws (.bool true) :=
    ⟨⟨fun _ => 1, 0⟩, .start, _, rfl⟩
  exact ⟨_, compiled, drawn,
    (intersection_draws_satisfy_all lyingCompiler truth).2 0 _ _ compiled drawn⟩

end Intersection

end Specimen
