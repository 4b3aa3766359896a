import Specimen.Compiler.Compile
import Specimen.Proofs.Compiler.Plan

/-!
# How deep compilations nest

The bound on the nesting of compilations only cuts off: what is compiled within a bound is compiled,
and the same, within any greater one (`compileWithin_of_le`). So a type has at most one generator, at
whatever bound it is found (`Compiles`), and `Compiler.compile` finds that one or abandons.

What compilations come to without any bound is a way of compiling like another (`eventually`), and it
answers itself: a type comes to what its step comes to where the types below it come to what they
eventually do (`eventually_eq`). Laws of steps are used on it to see past the bounds.
-/

namespace Specimen

namespace Compiler

/-- One more level of nesting changes nothing about what has been settled, be it a generator or an
error. -/
theorem compileWithin_extends (c : Compiler) (depth : Nat) :
    Extends (c.compileWithin depth) (c.compileWithin (depth + 1)) := by
  induction depth with
  | zero => exact fun t settled => absurd rfl settled
  | succ depth ih => exact fun t settled => Plan.run_extends ih (c.step t) settled

/-- Nor do any number of levels more. -/
theorem extends_of_le (c : Compiler) {depth deeper : Nat} (le : depth ≤ deeper) :
    Extends (c.compileWithin depth) (c.compileWithin deeper) := by
  induction le with
  | refl => exact fun t _ => rfl
  | @step deeper _ ih =>
    intro t settled
    have same := ih t settled
    rw [c.compileWithin_extends deeper t (same ▸ settled), same]

/-- In particular a generator that was found is the one found within every greater bound. -/
theorem compileWithin_of_le (c : Compiler) {t : Descriptor} {depth deeper : Nat} {g : Generator}
    (le : depth ≤ deeper) (compiled : c.compileWithin depth t = .ok g) :
    c.compileWithin deeper t = .ok g :=
  (c.extends_of_le le t (by simp [compiled])).trans compiled

/-- What a plan makes, however deep the compilations on its way nest. -/
def Makes (c : Compiler) {α : Type} (plan : Plan α) (a : α) : Prop :=
  ∃ depth, plan.run (c.compileWithin depth) = .ok a

/-- The generator of a type, however deep its compilation nests. -/
def Compiles (c : Compiler) (t : Descriptor) (g : Generator) : Prop :=
  ∃ depth, c.compileWithin depth t = .ok g

/-- A type compiles to one generator at most. -/
theorem Compiles.unique {c : Compiler} {t : Descriptor} {g h : Generator} :
    c.Compiles t g → c.Compiles t h → g = h := by
  rintro ⟨m, hg⟩ ⟨n, hh⟩
  have hg := c.compileWithin_of_le (Nat.le_max_left m n) hg
  have hh := c.compileWithin_of_le (Nat.le_max_right m n) hh
  exact Except.ok.inj (hg.symm.trans hh)

/-! ## Without a bound -/

open Classical in
/-- What a type is compiled to within any bound that suffices. -/
noncomputable def eventually (c : Compiler) (t : Descriptor) : Compiled :=
  if settled : ∃ depth, c.compileWithin depth t ≠ .error .abandoned then
    c.compileWithin settled.choose t
  else .error .abandoned

/-- What is settled within some bound is what compilation eventually comes to. -/
theorem extends_eventually (c : Compiler) (depth : Nat) :
    Extends (c.compileWithin depth) c.eventually := by
  intro t settled
  have some : ∃ depth, c.compileWithin depth t ≠ .error .abandoned := ⟨depth, settled⟩
  rw [eventually, dif_pos some]
  have here := c.extends_of_le (Nat.le_max_left depth some.choose) t settled
  have there := c.extends_of_le (Nat.le_max_right depth some.choose) t some.choose_spec
  exact there.symm.trans here

/-- And what it eventually comes to is settled within some bound, unless it is never settled. -/
theorem exists_depth_of_eventually (c : Compiler) {t : Descriptor}
    (settled : c.eventually t ≠ .error .abandoned) :
    ∃ depth, c.compileWithin depth t = c.eventually t := by
  by_cases some : ∃ depth, c.compileWithin depth t ≠ .error .abandoned
  · exact ⟨some.choose, by rw [eventually, dif_pos some]⟩
  · rw [eventually, dif_neg some] at settled
    exact absurd rfl settled

/-- A plan asks for finitely many types, so some bound suffices for all of them. -/
theorem exists_depth_of_run (c : Compiler) {α : Type} (plan : Plan α)
    (settled : plan.run c.eventually ≠ .error .abandoned) :
    ∃ depth, plan.run (c.compileWithin depth) = plan.run c.eventually := by
  induction plan with
  | answer result => exact ⟨0, rfl⟩
  | compile t next ih =>
    have asked : c.eventually t ≠ .error .abandoned := by
      intro abandoned
      simp [Plan.run, abandoned] at settled
    obtain ⟨first, hfirst⟩ := c.exists_depth_of_eventually asked
    -- the bounds of the type and of the rest of the plan are joined by taking the greater
    have goesOn : ∀ answer, (next answer).run c.eventually ≠ .error .abandoned →
        ∃ depth, first ≤ depth ∧
          (next answer).run (c.compileWithin depth) = (next answer).run c.eventually := by
      intro answer settled
      obtain ⟨rest, hrest⟩ := ih answer settled
      refine ⟨max first rest, Nat.le_max_left _ _, ?_⟩
      rw [← hrest]
      exact Plan.run_extends (c.extends_of_le (Nat.le_max_right first rest)) _ (hrest ▸ settled)
    have deeper : ∀ depth, first ≤ depth → c.compileWithin depth t = c.eventually t := by
      intro depth le
      rw [← hfirst]
      exact c.extends_of_le le t (hfirst ▸ asked)
    simp only [Plan.run] at settled ⊢
    cases answer : c.eventually t with
    | ok g =>
      rw [answer] at settled
      obtain ⟨depth, le, same⟩ := goesOn (.ok g) settled
      exact ⟨depth, by rw [deeper depth le, answer]; exact same⟩
    | error failure =>
      cases failure with
      | error e =>
        rw [answer] at settled
        obtain ⟨depth, le, same⟩ := goesOn (.error e) settled
        exact ⟨depth, by rw [deeper depth le, answer]; exact same⟩
      | abandoned => exact absurd answer asked

/-- What a type eventually comes to is what its step does. -/
theorem eventually_eq (c : Compiler) (t : Descriptor) :
    c.eventually t = (c.step t).run c.eventually := by
  by_cases settled : (c.step t).run c.eventually = .error .abandoned
  · by_contra other
    rw [settled] at other
    obtain ⟨depth, same⟩ := c.exists_depth_of_eventually other
    cases depth with
    | zero => exact other same.symm
    | succ depth =>
      have ran : (c.step t).run (c.compileWithin depth) ≠ .error .abandoned := by
        intro abandoned
        exact other (same.symm.trans abandoned)
      exact ran ((Plan.run_extends (c.extends_eventually depth) _ ran).symm.trans settled)
  · obtain ⟨depth, same⟩ := c.exists_depth_of_run (c.step t) settled
    have compiled : c.compileWithin (depth + 1) t = (c.step t).run c.eventually := same
    rw [← compiled] at settled ⊢
    exact c.extends_eventually (depth + 1) t settled

theorem makes_iff {c : Compiler} {α : Type} {plan : Plan α} {a : α} :
    c.Makes plan a ↔ plan.run c.eventually = .ok a := by
  constructor
  · rintro ⟨depth, ran⟩
    exact (Plan.run_extends (c.extends_eventually depth) plan (by simp [ran])).trans ran
  · intro ran
    obtain ⟨depth, same⟩ := c.exists_depth_of_run plan (by simp [ran])
    exact ⟨depth, same.trans ran⟩

theorem compiles_iff {c : Compiler} {t : Descriptor} {g : Generator} :
    c.Compiles t g ↔ c.eventually t = .ok g := by
  rw [← Plan.run_generatorOf c.eventually t, ← makes_iff]
  simp only [Makes, Plan.run_generatorOf, Compiles]

end Compiler

end Specimen
