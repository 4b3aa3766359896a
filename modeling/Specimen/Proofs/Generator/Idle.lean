import Mathlib.Tactic.Common
import Specimen.Proofs.Generator.Budget
import Specimen.Proofs.Generator.Draws

/-!
# Filters that reject nothing

A filter all of whose source's values are kept costs nothing: its draw is that of its source, with
the same value, the same rejections and, where the source starves, the same blame
(`alike_filtered_of_kept`). This is said of runs within their budget, which every run of a sample
is: one that has overdrawn it finds no attempt left in a filter, and some in the source perhaps.

Two computations are alike if they come to the same wherever the budget is not overdrawn, and
sequences of alike computations are alike (`Alike.bind`). For the second part of a sequence to start
within the budget, the first must leave it so (`Within`), which draws do as they are metered.
-/

namespace Specimen

namespace Draw

variable {α β : Type} {d d' : Draw α} {f f' : α → Draw β}

/-! ## Computations within the budget -/

/-- Where the budget is not overdrawn, a computation that comes to something does not overdraw it.
-/
def Within (d : Draw α) : Prop :=
  ∀ ⦃source run a after⦄, run.spent ≤ source.budget → d source run = .ok a after →
    after.spent ≤ source.budget

/-- What is metered stays within the budget: where it would go beyond it starves and comes to
nothing. -/
theorem Metered.within {patient : Nat → Draw α} (metered : Metered d patient) : d.Within :=
  fun _ _ _ _ within ran => (metered.succeeds within ran).1

namespace Within

theorem pure (a : α) : Within (pure a : Draw α) := (Metered.pure a).within

/-- One after the other, both stay within: the second starts where the first has left off. -/
theorem bind (first : d.Within) (rest : ∀ a, (f a).Within) : (d >>= f).Within := by
  intro source run b after here ran
  obtain ⟨a, between, ran, ran'⟩ := bind_eq_ok ran
  exact rest a (first here ran) ran'

end Within

/-- What both come to wherever the budget is not overdrawn is the same. -/
def Alike (d d' : Draw α) : Prop :=
  ∀ ⦃source run⦄, run.spent ≤ source.budget → d source run = d' source run

namespace Alike

theorem refl (d : Draw α) : Alike d d := fun _ _ _ => rfl

/-- Being alike is passed on, as it is asked of the same runs. -/
theorem trans {d'' : Draw α} (one : Alike d d') (other : Alike d' d'') : Alike d d'' :=
  fun _ _ within => (one within).trans (other within)

theorem bind (within : d.Within) (first : Alike d d') (rest : ∀ a, Alike (f a) (f' a)) :
    Alike (d >>= f) (d' >>= f') := by
  intro source run here
  have same := first here
  cases ran : d source run with
  | ok a between =>
    have there := within here ran
    rw [bind_of_ok ran, bind_of_ok (same.symm.trans ran), rest a there]
  | error _ between => rw [bind_of_error ran, bind_of_error (same.symm.trans ran)]

end Alike

end Draw

/-! ## Idle filters -/

namespace Generator

variable {g : Generator} {source : Source} {run : Run}

/-- No draw overdraws the budget, so the next one starts within it. -/
theorem within_draw (g : Generator) : g.draw.Within := by
  rw [← drawBy_untilKept]
  exact (metered_drawBy g).within

/-- Nor does a record, drawn field by field. -/
theorem within_drawFields (fields : List (String × Generator)) : (drawFields fields).Within := by
  rw [← drawFieldsBy_untilKept]
  exact (metered_drawFieldsBy fields).within

/-- A filter that keeps whatever its source draws is as good as none. -/
theorem alike_filtered_of_kept {label : Option String} {keep : Value → Bool}
    (kept : ∀ v, g.Draws v → keep v = true) : (filtered g label keep).draw.Alike g.draw := by
  intro source run here
  -- there is an attempt, since the budget is not overdrawn, and it is the last
  have left : source.budget + 1 - run.spent = source.budget - run.spent + 1 := by omega
  rw [draw, Draw.untilKept, left]
  cases ran : g.draw source run with
  | ok v after =>
    refine Draw.attempts_of_some ((Draw.bind_of_ok ran).trans ?_)
    rw [if_pos (kept v ⟨source, run, after, ran⟩)]
    rfl
  | error _ after => exact Draw.attempts_of_error (Draw.bind_of_error ran)

/-! ## Alike parts -/

/-- A change of what is drawn rejects nothing, so it does not matter to the budget. -/
theorem alike_mapped {h : Generator} (f : Value → Value) (alike : g.draw.Alike h.draw) :
    (mapped g f).draw.Alike (mapped h f).draw :=
  .bind (within_draw g) alike fun _ => .refl _

/-- Nor does leaving values out now and then. -/
theorem alike_optional {h : Generator} (alike : g.draw.Alike h.draw) :
    (optional g).draw.Alike (optional h).draw := by
  refine .bind (Draw.closed_metered.below _).within (.refl _) fun index => ?_
  cases index with
  | zero => exact alike
  | succ index => exact .refl _

/-- Fields of the same names, drawn alike, make alike records. -/
theorem alike_recordOf {fields others : List (String × Generator)}
    (each : List.Forall₂ (fun field other => field.1 = other.1 ∧ field.2.draw.Alike other.2.draw)
      fields others) : (recordOf fields).draw.Alike (recordOf others).draw := by
  suffices alike : (drawFields fields).Alike (drawFields others) from
    .bind (within_drawFields fields) alike fun _ => .refl _
  induction each with
  | nil => exact .refl _
  | @cons field other rest rest' head _ ih =>
    obtain ⟨name, h⟩ := other
    obtain ⟨rfl, same⟩ := head
    exact .bind (within_draw field.2) same fun _ =>
      .bind (within_drawFields rest) ih fun _ => .refl _

end Generator

end Specimen
