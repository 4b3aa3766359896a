import Specimen.Proofs.Generator.Idle
import Specimen.Proofs.Generator.Induction

/-!
# Who rejects, and whether anyone does

A draw that starves names the search that rejected last, by its label. It never names a label under
which nothing is rejected: where all filters of some labels keep whatever their sources draw
(`IdleUnder`), none of these labels is ever blamed (`not_names_of_next`). The same is said of a
whole run, as blame starts anew with each draw.

A computation that never rejects anything, and so never fails, is `Steady`. That is a property like
any other that passes on to sequences, but a search has it only where its attempts always succeed.
-/

namespace Specimen

/-- A failure for want of budget that names a label. -/
def GenError.Names (e : GenError) (label : String) : Prop :=
  e = .retryBudgetExceeded (Generator.starvedReason (some label))

/-- None of these labels has been blamed. -/
def Run.Spares (run : Run) (labels : String → Prop) : Prop :=
  ∀ label ∈ run.blamed, ¬ labels label

namespace Draw

variable {α β : Type} {d d' : Draw α} {labels : String → Prop}

/-! ## Blame -/

/-- Wherever the budget is not overdrawn and none of these labels has been blamed, it is so after a
computation as well. -/
structure Spares (labels : String → Prop) (d : Draw α) : Prop where
  within : d.Within
  spares : ∀ ⦃source run⦄, run.spent ≤ source.budget → run.Spares labels →
    (lastRun (d source run)).Spares labels

theorem closed_spares (labels : String → Prop) : Closed fun _ => Spares labels where
  pure a := ⟨.pure a, fun _ _ _ spared => spared⟩
  word := ⟨Metered.word.within, fun _ _ _ spared => spared⟩
  bind {α β d f} first rest := by
    refine ⟨first.within.bind fun a => (rest a).within, fun source run here spared => ?_⟩
    have between := first.spares here spared
    cases ran : d source run with
    | ok a after =>
      rw [bind_of_ok ran]
      rw [ran] at between
      exact (rest a).spares (first.within here ran) between
    | error _ after =>
      rw [bind_of_error ran]
      rwa [ran] at between

theorem spares_fromTape (id : Nat) (values : List Value) : Spares labels (fromTape id values) :=
  ⟨(Metered.fromTape id values).within, fun _ _ _ spared => spared⟩

/-- A rejection blames the label it is noted under, or leaves the blame where it was. -/
private theorem spares_or {label : Option String} (other : ∀ name ∈ label, ¬ labels name)
    {run : Run} (spared : run.Spares labels) : ∀ name ∈ label.or run.blamed, ¬ labels name := by
  cases label with
  | none => exact spared
  | some name => exact other

/-- By induction on the attempts that are left. -/
private theorem spares_attempts {label : Option String} {attempt : Draw (Option Value)}
    (other : ∀ name ∈ label, ¬ labels name) (each : Spares labels attempt) :
    ∀ (left : Nat) {source : Source} {run : Run}, run.spent ≤ source.budget →
      run.Spares labels → (lastRun (attempts label attempt left source run)).Spares labels
  | 0, _, _, _, spared => spared
  | left + 1, source, run, here, spared => by
    have between := each.spares here spared
    cases ran : attempt source run with
    | ok result after =>
      rw [ran] at between
      cases result with
      | some v =>
        rw [attempts_of_some ran]
        exact between
      | none =>
        by_cases more : after.spent < source.budget
        · rw [attempts_of_none ran more]
          have next : (tallied after label).spent ≤ source.budget := more
          exact spares_attempts other each left next (spares_or other between)
        · rw [attempts_of_spent ran (Nat.not_lt.mp more)]
          exact spares_or other between
    | error _ after =>
      rw [attempts_of_error ran]
      rwa [ran] at between

/-! ## Steadiness -/

/-- Wherever the budget is not overdrawn, a computation comes to something and rejects nothing. -/
def Steady (d : Draw α) : Prop :=
  ∀ ⦃source run⦄, run.spent ≤ source.budget →
    ∃ a after, d source run = .ok a after ∧ after.spent = run.spent

theorem closed_steady : Closed fun _ => Steady where
  pure a := fun _ run _ => ⟨a, run, rfl, rfl⟩
  word := fun _ _ _ => ⟨_, _, rfl, rfl⟩
  bind first rest := by
    intro source run here
    obtain ⟨a, between, ran, same⟩ := first here
    obtain ⟨b, after, ran', same'⟩ := rest a (same ▸ here)
    exact ⟨b, after, (bind_of_ok ran).trans ran', same'.trans same⟩

theorem Steady.of_alike (steady : d'.Steady) (alike : d.Alike d') : d.Steady := by
  intro source run here
  rw [alike here]
  exact steady here

end Draw

namespace Generator

variable {g : Generator} {source : Source} {run after : Run} {e : GenError}
  {labels : String → Prop} {label : String}

/-! ## Idle searches -/

/-- A filter under one of these labels keeps whatever its source draws, and another search is under
none of them. -/
def IsIdle (labels : String → Prop) : Generator → Prop
  | .filtered source label keep =>
    (∃ name, label = some name ∧ labels name) → ∀ v, source.Draws v → keep v = true
  | .rotated _ label _ => ¬ labels label
  | _ => True

/-- No search under one of these labels rejects anything. -/
def IdleUnder (labels : String → Prop) (g : Generator) : Prop :=
  ∀ h ∈ g.nodes, h.IsIdle labels

/-- A leaf searches for nothing. -/
theorem isIdle_of_plain (plain : g.isPlain = true) : g.IsIdle labels := by
  cases g with
  | tape id values => cases plain
  | filtered source label keep => cases plain
  | rotated candidates label keep => cases plain
  | _ => trivial

private theorem admits_spares (idle : g.IsIdle labels) :
    Closed.Admits (fun _ => Draw.Spares labels) g := by
  have closed := Draw.closed_spares labels
  cases g with
  | tape id values => exact Draw.spares_fromTape id values
  | filtered source label keep =>
    intro inner
    refine ⟨within_draw _, fun choices run here spared => ?_⟩
    by_cases named : ∃ name, label = some name ∧ labels name
    · rw [alike_filtered_of_kept (idle named) here]
      exact inner.spares here spared
    · have other : ∀ name ∈ label, ¬ labels name := fun name mem bad => named ⟨name, mem, bad⟩
      have each := closed.bind inner fun v => closed.pure (if keep v then some v else none)
      exact Draw.spares_attempts other each _ here spared
  | rotated candidates label keep =>
    intro inner
    refine ⟨within_draw _, fun choices run here spared => ?_⟩
    have other : ∀ name ∈ some label, ¬ labels name := fun name mem => Option.some.inj mem ▸ idle
    have each := closed.bind inner fun drawn =>
      closed.bind (closed.below drawn.length) fun start => closed.pure (firstKept keep drawn start)
    exact Draw.spares_attempts other each _ here spared
  | _ => trivial

/-- No draw rejects under a label under which every filter is idle. -/
theorem spares_draw (idle : g.IdleUnder labels) : g.draw.Spares labels :=
  (Draw.closed_spares labels).draw g fun h mem => admits_spares (idle h mem)

/-- A filter under one of these labels is as good as none. -/
theorem IdleUnder.alike (idle : g.IdleUnder labels) {inner : Generator} {keep : Value → Bool}
    (mem : .filtered inner (some label) keep ∈ g.nodes) (named : labels label) :
    (∀ v, inner.Draws v → keep v = true) ∧
      (filtered inner (some label) keep).draw.Alike inner.draw :=
  have kept : ∀ v, inner.Draws v → keep v = true := idle _ mem ⟨label, rfl, named⟩
  ⟨kept, alike_filtered_of_kept kept⟩

/-! ## What starved draws name -/

private theorem starvedReason_none_ne (label : String) :
    starvedReason none ≠ starvedReason (some label) := by
  intro same
  have lengths := congrArg (fun text => text.toList.length) same
  have closing : ")".toList.length = 1 := rfl
  simp only [starvedReason, String.toList_append, List.length_append] at lengths
  omega

/-- The reason of a starved draw tells which search is blamed. -/
theorem starvedReason_injective : Function.Injective starvedReason := by
  intro one other same
  cases one with
  | none =>
    cases other with
    | none => rfl
    | some label => exact absurd same (starvedReason_none_ne label)
  | some label =>
    cases other with
    | none => exact absurd same.symm (starvedReason_none_ne label)
    | some label' =>
      have chars := congrArg String.toList same
      simp only [starvedReason, String.toList_append, List.append_cancel_right_eq] at chars
      exact congrArg some (String.toList_injective chars)

/-- A draw that starves names no label under which nothing is rejected. -/
theorem not_names_of_next (idle : g.IdleUnder labels) (within : run.spent ≤ source.budget)
    (failed : g.next source run = (.error e, after)) (bad : labels label) : ¬ e.Names label := by
  rw [next_eq, told_eq_error] at failed
  obtain ⟨starved, rfl⟩ := failed
  intro names
  have within' : { run with blamed := none : Run }.spent ≤ source.budget := within
  have spared := (spares_draw idle).spares within' nofun
  rw [starved] at spared
  exact spared label (starvedReason_injective (GenError.retryBudgetExceeded.inj names)) bad

/-- So no sample fails in the name of such a label, wherever its run begins. -/
theorem not_names_of_sample (idle : g.IdleUnder labels) (bad : labels label) :
    ∀ {n : Nat} {run : Run}, run.spent ≤ source.budget →
      g.sample source n run = (.error e, after) → ¬ e.Names label
  | 0, _, _, failed => by cases failed
  | n + 1, run, within, failed => by
    rcases sample_succ_eq_error.mp failed with first | ⟨v, between, drawn, rest⟩
    · exact not_names_of_next idle within first bad
    · exact not_names_of_sample idle bad (next_of_le within drawn).1 rest

/-! ## Steady generators -/

/-- A generator without tapes and searches rejects nothing. -/
theorem steady_of_plain (plain : ∀ h ∈ g.nodes, h.isPlain = true) : g.draw.Steady := by
  refine Draw.closed_steady.draw g fun h mem => ?_
  have here := plain h mem
  cases h with
  | tape id values => cases here
  | filtered source label keep => cases here
  | rotated candidates label keep => cases here
  | _ => trivial

/-- A steady generator gives a value whenever the budget is not overdrawn. -/
theorem next_of_steady (steady : g.draw.Steady) (within : run.spent ≤ source.budget) :
    ∃ v after, g.next source run = (.ok v, after) ∧ after.spent ≤ source.budget := by
  have within' : { run with blamed := none : Run }.spent ≤ source.budget := within
  obtain ⟨v, after, drawn, same⟩ := steady within'
  refine ⟨v, after, ?_, same.trans_le within⟩
  rw [next_eq, told_eq_ok]
  exact drawn

end Generator

end Specimen
