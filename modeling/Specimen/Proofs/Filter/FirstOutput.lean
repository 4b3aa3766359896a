import Mathlib.Tactic.Common
import Specimen.Filter.Program
import Specimen.Proofs.Document.Reading

/-!
# The first output, and what comes after it

As a predicate or a correction a program is asked for its first output, but it is run to its end
before that is looked at. So the first output decides exactly where nothing that comes after it
fails; a failure anywhere undoes it, and the program accepts and corrects nothing
(`first_output_decides_unless_undone`). No beginning of a sequence settles how a run ends
(`collect_after`): of a program that yields without end nothing is ever known. Sequences are finite
here, because evaluations are bounded in length and in depth (`fuelLimit`, `roomLimit`). A program
without end therefore runs into a bound and is counted among those that fail, where a machine would
go on and give no answer.

What a run is made of is said once, by the list of its items (`Outputs.items`, `collect_eq`).
-/

namespace Specimen

namespace Outputs

variable {α : Type}

/-- The items of a sequence, in order. -/
def items : Outputs α → List (Except Halt α)
  | done => []
  | one i => [i]
  | more i rest => i :: items (rest ())
  | later rest => items (rest ())

theorem items_append (s : Outputs α) (next : Unit → Outputs α) :
    (append s next).items = s.items ++ (next ()).items := by
  induction s with
  | done => rfl
  | one i => rfl
  | more i rest ih => exact congrArg (i :: ·) (ih ())
  | later rest ih => exact ih ()

theorem items_ofList (answers : List α) : (ofList answers).items = answers.map .ok := by
  induction answers with
  | nil => rfl
  | cons first rest ih =>
    cases rest with
    | nil => rfl
    | cons second rest => exact congrArg (_ :: ·) ih

end Outputs

namespace Program

/-- What a program yields for a value, item by item: outputs as JSON, or what went wrong. -/
def yields (p : Program) (v : Value) : List (Except RunError Json) :=
  (p.outputs v.json).items.map outcome

/-! ## Runs -/

/-- A run takes the items one after the other, up to the first failure. -/
theorem collect_eq (s : Outputs Data) : ∀ collected : List Json,
    collect s collected = (s.items.mapM outcome).map (collected.reverse ++ ·) := by
  induction s with
  | done => exact fun collected => congrArg Except.ok (List.append_nil _).symm
  | one i =>
    intro collected
    rw [collect, Outputs.items, List.mapM_cons]
    cases outcome i with
    | ok j => exact congrArg Except.ok List.reverse_cons
    | error e => rfl
  | more i rest ih =>
    intro collected
    rw [collect, Outputs.items, List.mapM_cons]
    cases outcome i with
    | error e => rfl
    | ok j =>
      refine (ih () (j :: collected)).trans ?_
      cases ran : (rest ()).items.mapM outcome with
      | error e => rfl
      | ok js =>
        have moved : (j :: collected).reverse ++ js = collected.reverse ++ j :: js := by simp
        exact congrArg Except.ok moved
  | later rest ih => exact ih ()

private theorem mapM_eq_ok {items : List (Except Halt Data)} : ∀ {js : List Json},
    items.mapM outcome = .ok js ↔ items.map outcome = js.map .ok := by
  induction items with
  | nil =>
    intro js
    cases js with
    | nil => exact iff_of_true rfl rfl
    | cons j js => exact iff_of_false nofun nofun
  | cons item items ih =>
    intro js
    rw [List.mapM_cons, List.map_cons, Except.bind_eq_ok]
    cases js with
    | nil =>
      refine iff_of_false ?_ nofun
      rintro ⟨j, _, rest⟩
      obtain ⟨_, _, made⟩ := Except.bind_eq_ok.mp rest
      cases made
    | cons j js =>
      rw [List.map_cons, List.cons_eq_cons, ← ih]
      constructor
      · rintro ⟨_, first, rest⟩
        obtain ⟨_, others, made⟩ := Except.bind_eq_ok.mp rest
        cases made
        exact ⟨first, others⟩
      · rintro ⟨first, others⟩
        exact ⟨j, first, Except.bind_eq_ok.mpr ⟨js, others, rfl⟩⟩

/-- A run succeeds with outputs exactly if the program yields these and nothing else. -/
theorem run_eq_ok {p : Program} {v : Value} {js : List Json} :
    p.run v.json = .ok js ↔ p.yields v = js.map .ok := by
  rw [run, collect_eq, Except.map_eq_ok]
  refine Iff.trans ⟨?_, fun same => ⟨js, same, rfl⟩⟩ mapM_eq_ok
  rintro ⟨_, ran, rfl⟩
  exact ran

/-- Items none of which is a failure are outputs. -/
theorem exists_outputs_of_no_error {items : List (Except RunError Json)}
    (fine : ∀ e, .error e ∉ items) : ∃ js : List Json, items = js.map .ok := by
  induction items with
  | nil => exact ⟨[], rfl⟩
  | cons item items ih =>
    obtain ⟨js, rfl⟩ := ih fun e undone => fine e (List.mem_cons_of_mem _ undone)
    cases item with
    | ok j => exact ⟨j :: js, rfl⟩
    | error e => exact absurd List.mem_cons_self (fine e)

/-- Whatever outputs come first, the run succeeds or fails with what comes after them. -/
theorem collect_after {outputs : List Data} {js : List Json}
    (readable : outputs.map (fun d => outcome (.ok d)) = js.map .ok) (s : Outputs Data) :
    collect (.append (.ofList outputs) fun _ => s) [] = (collect s []).map (js ++ ·) := by
  have first : (outputs.map Except.ok).mapM outcome = .ok js :=
    mapM_eq_ok.mpr (List.map_map.trans readable)
  rw [collect_eq, collect_eq, Outputs.items_append, Outputs.items_ofList, List.mapM_append, first]
  cases s.items.mapM outcome with
  | ok rest => rfl
  | error e => rfl

/-! ## Predicates and corrections -/

variable {p : Program} {v : Value}

theorem isTrue_iff {j : Json} : isTrue j = true ↔ j ≠ .null ∧ j ≠ .bool false := by
  cases j with
  | bool b => cases b <;> simp [isTrue]
  | _ => simp [isTrue]

theorem answer_of_run {first : Json} {rest : List Json} (ran : p.run v.json = .ok (first :: rest)) :
    p.test v = isTrue first ∧ p.correct v = first.value := by
  rw [test, correct, ran]
  exact ⟨rfl, rfl⟩

theorem answer_of_no_run (failed : ∀ first rest, p.run v.json ≠ .ok (first :: rest)) :
    p.test v = false ∧ p.correct v = v := by
  rw [test, correct]
  split
  case h_1 first rest ran => exact absurd ran (failed first rest)
  case h_2 => exact ⟨rfl, rfl⟩

/-- The first output decides if nothing that the program yields after it is a failure: the value is
accepted exactly if the output is neither null nor false, and corrected to the output. A failure
after it undoes it: then the value is neither accepted nor corrected, as it is not where nothing is
yielded or a failure comes first. And however many outputs come first, it is what comes after them
that the run succeeds or fails with.

Being cut off at a bound (`RunError.exhausted`) is one of the failures meant. So of a program that
ends before that this says what happens; of one that never ends, that it is rejected here says only
that it is no accepting program, since in truth no test of it ever comes back. -/
theorem first_output_decides_unless_undone (p : Program) (v : Value) :
    (∀ first rest, p.yields v = .ok first :: rest →
      ((∀ e, .error e ∉ rest) →
        (p.test v = true ↔ first ≠ .null ∧ first ≠ .bool false) ∧ p.correct v = first.value) ∧
      ∀ e, .error e ∈ rest → p.test v = false ∧ p.correct v = v) ∧
    ((∀ first rest, p.yields v ≠ .ok first :: rest) → p.test v = false ∧ p.correct v = v) ∧
    ∀ (outputs : List Data) (js : List Json) (s : Outputs Data),
      outputs.map (fun d => outcome (.ok d)) = js.map .ok →
        collect (.append (.ofList outputs) fun _ => s) [] = (collect s []).map (js ++ ·) := by
  refine ⟨fun first rest yielded => ⟨fun fine => ?_, fun e undone => ?_⟩, fun none => ?_,
    fun outputs js s readable => collect_after readable s⟩
  · obtain ⟨js, rfl⟩ := exists_outputs_of_no_error fine
    obtain ⟨tested, corrected⟩ := answer_of_run (run_eq_ok.mpr yielded)
    rw [tested, corrected]
    exact ⟨isTrue_iff, rfl⟩
  · refine answer_of_no_run fun other others ran => ?_
    have same := yielded.symm.trans (run_eq_ok.mp ran)
    rw [List.map_cons, List.cons_eq_cons] at same
    rw [same.2] at undone
    obtain ⟨_, _, impossible⟩ := List.mem_map.mp undone
    cases impossible
  · exact answer_of_no_run fun first rest ran => none _ _ (run_eq_ok.mp ran)

/-- A program that yields an empty array, and then asks for a member of what may have none. -/
def lateFailure : Program :=
  ⟨"[],.a", .binary .comma (.array none) (.path .identity [.index (.chars "a") false])⟩

/-- The first output of this program for true counts as true, and yet true is neither accepted nor
corrected to it. -/
theorem late_failure_undoes :
    compile lateFailure.source = .ok lateFailure ∧
      (∃ e, lateFailure.yields (.bool true) = [.ok (.array []), .error (.raised e)]) ∧
      lateFailure.test (.bool true) = false ∧ lateFailure.correct (.bool true) = .bool true := by
  refine ⟨?_, ⟨(Data.bool true).cannotUse "iterable (array or object)", ?_⟩, ?_, ?_⟩
  all_goals with_unfolding_all rfl

end Program

end Specimen
