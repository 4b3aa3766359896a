import Specimen.Proofs.Check.Trials

/-!
# Samples and checks

A sample and a check each draw values, one after the other, and each of them tells only a part: a
sample tells nothing of the values that it drew before a draw that failed, and a check tells at most
of the last. Here both are said in terms of the draws themselves, which are the values up to a draw
that fails, and why it does (`Generator.drawn`): a sample keeps them all (`sample_eq_drawn`), and a
check puts them to the test up to the first that is rejected (`recordedTrials_fst`,
`mapError_trials`).

The induction is on the number of draws. After it there are only lists to compare.
-/

namespace Specimen

namespace Generator

variable {g : Generator} {source : Source} {e : GenError}

/-- The values of so many draws, up to a draw that fails, and why that one does. -/
def drawn (g : Generator) (source : Source) : Nat → Run → List Value × Option GenError
  | 0, _ => ([], none)
  | n + 1, run =>
    match g.next source run with
    | (.error e, _) => ([], some e)
    | (.ok v, run) => (v :: (g.drawn source n run).1, (g.drawn source n run).2)

/-- A sample is all the values, or the failure. -/
theorem sample_eq_drawn : ∀ (n : Nat) (run : Run),
    (g.sample source n run).1 =
      match g.drawn source n run with
      | (vs, none) => .ok vs
      | (_, some e) => .error e
  | 0, _ => rfl
  | n + 1, run => by
    rw [sample, drawn]
    rcases g.next source run with ⟨e | v, between⟩
    · rfl
    · have others := sample_eq_drawn n between
      dsimp only
      rcases drew : g.drawn source n between with ⟨vs, _ | e⟩
      · rw [drew] at others
        rcases sampled : g.sample source n between with ⟨_ | ws, last⟩
        · rw [sampled] at others
          cases others
        · rw [sampled] at others
          cases others
          rfl
      · rw [drew] at others
        rcases sampled : g.sample source n between with ⟨_ | ws, last⟩
        · rw [sampled] at others
          cases others
          rfl
        · rw [sampled] at others
          cases others

theorem length_drawn : ∀ {n : Nat} {run : Run}, (g.drawn source n run).2 = none →
    (g.drawn source n run).1.length = n
  | 0, _, _ => rfl
  | n + 1, run, whole => by
    rw [drawn] at whole ⊢
    rcases came : g.next source run with ⟨e | v, between⟩
    · rw [came] at whole
      cases whole
    · rw [came] at whole
      exact congrArg Nat.succ (length_drawn whole)

/-- More draws begin with the same values. -/
theorem drawn_begins : ∀ {m n : Nat} {run : Run}, m ≤ n →
    (g.drawn source m run).1 <+: (g.drawn source n run).1
  | 0, _, _, _ => List.nil_prefix
  | m + 1, n + 1, run, le => by
    rw [drawn, drawn]
    rcases g.next source run with ⟨e | v, between⟩
    · exact List.prefix_refl _
    · exact List.prefix_cons_inj v |>.mpr (drawn_begins (Nat.le_of_succ_le_succ le))

/-- What fails a draw is the budget. -/
theorem failure_of_drawn : ∀ {n : Nat} {run : Run}, (g.drawn source n run).2 = some e →
    ∃ reason, e = .retryBudgetExceeded reason
  | n + 1, run, failed => by
    rw [drawn] at failed
    rcases came : g.next source run with ⟨e | v, between⟩
    · rw [came] at failed
      cases failed
      exact next_error came
    · rw [came] at failed
      exact failure_of_drawn failed

end Generator

namespace Check

variable {accepts : Value → Bool} {seed : UInt64} {g : Generator} {source : Source}

/-! ## What is examined -/

/-- The values up to the first that is rejected, and that one. -/
def upToRejected (accepts : Value → Bool) (vs : List Value) : List Value :=
  vs.takeWhile accepts ++ (vs.dropWhile accepts).take 1

theorem upToRejected_of_accepted {v : Value} {vs : List Value} (accepted : accepts v = true) :
    upToRejected accepts (v :: vs) = v :: upToRejected accepts vs := by
  simp [upToRejected, accepted]

theorem upToRejected_of_rejected {v : Value} {vs : List Value} (rejected : accepts v = false) :
    upToRejected accepts (v :: vs) = [v] := by
  simp [upToRejected, rejected]

/-- Trials, along with a record of the values that they put to the test. -/
def recordedTrials (accepts : Value → Bool) (seed : UInt64) (g : Generator) (source : Source) :
    Nat → Nat → Run → List Value × Except GenError Unit × Run
  | 0, _, run => ([], .ok (), run)
  | left + 1, trial, run =>
    match g.next source run with
    | (.error e, run) => ([], .error e, run)
    | (.ok v, run) =>
      if accepts v then
        let recorded := recordedTrials accepts seed g source left (trial + 1) run
        (v :: recorded.1, recorded.2)
      else ([v], .error (.counterexampleFound trial seed v), run)

/-- The record is no part of the trials. -/
theorem recordedTrials_snd : ∀ (left trial : Nat) (run : Run),
    (recordedTrials accepts seed g source left trial run).2 =
      trials accepts seed g source left trial run
  | 0, _, _ => rfl
  | left + 1, trial, run => by
    rw [recordedTrials, trials]
    rcases g.next source run with ⟨e | v, between⟩
    · rfl
    · dsimp only
      by_cases accepted : accepts v
      · rw [if_pos accepted, if_pos accepted]
        exact recordedTrials_snd left (trial + 1) between
      · rw [if_neg accepted, if_neg accepted]

theorem recordedTrials_fst : ∀ (left trial : Nat) (run : Run),
    (recordedTrials accepts seed g source left trial run).1 =
      upToRejected accepts (g.drawn source left run).1
  | 0, _, _ => rfl
  | left + 1, trial, run => by
    rw [recordedTrials, Generator.drawn]
    rcases g.next source run with ⟨e | v, between⟩
    · rfl
    · dsimp only
      by_cases accepted : accepts v
      · rw [if_pos accepted, upToRejected_of_accepted accepted,
          recordedTrials_fst left (trial + 1) between]
      · rw [if_neg accepted, upToRejected_of_rejected (Bool.eq_false_of_not_eq_true accepted)]

/-! ## What comes of it -/

/-- What comes of values that are put to the test in turn, the first of them in a given trial, before
something fails. -/
def settled (accepts : Value → Bool) (seed : UInt64) :
    Nat → List Value → Option Failure → Except Failure Unit
  | _, [], none => .ok ()
  | _, [], some failure => .error failure
  | trial, v :: vs, failure =>
    if accepts v then settled accepts seed (trial + 1) vs failure
    else .error (.error (.counterexampleFound trial seed v))

theorem mapError_trials : ∀ (left trial : Nat) (run : Run),
    (trials accepts seed g source left trial run).1.mapError .error =
      settled accepts seed trial (g.drawn source left run).1
        ((g.drawn source left run).2.map .error)
  | 0, _, _ => rfl
  | left + 1, trial, run => by
    rw [trials, Generator.drawn]
    rcases g.next source run with ⟨e | v, between⟩
    · rfl
    · dsimp only
      rw [settled]
      cases accepts v with
      | true => exact mapError_trials left (trial + 1) between
      | false => rfl

variable {vs : List Value} {failure : Option Failure} {trial : Nat}

theorem settled_eq_ok : ∀ {vs : List Value} {trial : Nat},
    settled accepts seed trial vs failure = .ok () ↔
      failure = none ∧ ∀ v ∈ vs, accepts v = true
  | [], trial => by cases failure <;> simp [settled]
  | v :: vs, trial => by
    rw [settled, List.forall_mem_cons]
    cases accepted : accepts v with
    | true => simp [settled_eq_ok]
    | false => simp

/-- Where all is accepted, there is only the failure to tell of. -/
theorem settled_of_accepted : ∀ {vs : List Value} {trial : Nat}, (∀ v ∈ vs, accepts v = true) →
    settled accepts seed trial vs failure = failure.elim (.ok ()) .error
  | [], trial, _ => by cases failure <;> rfl
  | v :: vs, trial, each => by
    obtain ⟨here, rest⟩ := List.forall_mem_cons.mp each
    rw [settled, if_pos here, settled_of_accepted rest]

/-- Otherwise there is a counterexample, which is the value of its trial. -/
theorem settled_of_rejected : ∀ {vs : List Value} {trial : Nat}, ¬ (∀ v ∈ vs, accepts v = true) →
    ∃ i v, vs[i]? = some v ∧ accepts v = false ∧
      settled accepts seed trial vs failure =
        .error (.error (.counterexampleFound (trial + i) seed v))
  | [], _, bad => absurd nofun bad
  | v :: vs, trial, bad => by
    rw [settled]
    cases accepted : accepts v with
    | false => exact ⟨0, v, rfl, accepted, rfl⟩
    | true =>
      have rest : ¬ ∀ w ∈ vs, accepts w = true := fun each =>
        bad (List.forall_mem_cons.mpr ⟨accepted, each⟩)
      obtain ⟨i, w, there, rejected, comes⟩ := settled_of_rejected rest
      refine ⟨i + 1, w, there, rejected, ?_⟩
      rw [if_pos rfl, comes, Nat.add_assoc, Nat.add_comm 1 i]

end Check

/-! ## Of a type -/

namespace Compiler

open Check

variable {c : Compiler} {accepts : Value → Bool} {t : Descriptor} {config : RunConfig}
  {seed : UInt64}

/-- The values of so many draws of a type, up to a draw that fails, and why that one does; or why
there is nothing to draw from. -/
def drawn (c : Compiler) (t : Descriptor) (config : RunConfig) (seed : UInt64) (n : Nat) :
    List Value × Option Failure :=
  match (c.configured config).compile t with
  | .error failure => ([], some failure)
  | .ok g =>
    let drawn := g.drawn ⟨.seeded seed, config.maxRejects⟩ n .start
    (drawn.1, drawn.2.map .error)

/-- A check by a given test, along with a record of the values that it puts to the test. -/
def recordedCheck (c : Compiler) (accepts : Value → Bool) (t : Descriptor) (config : RunConfig)
    (seed : UInt64) : List Value × Except Failure Report :=
  match (c.configured config).compile t with
  | .error failure => ([], .error failure)
  | .ok g =>
    let source : Source := ⟨.seeded seed, config.maxRejects⟩
    let recorded := recordedTrials accepts seed g source config.cases 1 .start
    (recorded.1, (recorded.2.1.mapError .error).map fun () => ⟨config.cases, seed⟩)

/-- The check of a type tests by its guard. -/
theorem recordedCheck_guard : (c.recordedCheck t.guard t config seed).2 = c.check t config seed := by
  unfold check
  cases compiled : (c.configured config).compile t with
  | error failure => rw [recordedCheck, checkFrom, compiled]
  | ok g =>
    rw [verdict_of_compiles config compiled, recordedCheck, compiled]
    dsimp only
    rw [recordedTrials_snd]
    rcases trials t.guard seed g ⟨.seeded seed, config.maxRejects⟩ config.cases 1 .start with
      ⟨_ | _, _⟩
    · rfl
    · rfl

theorem recordedCheck_eq (n : Nat) :
    c.recordedCheck accepts t (config.withCases n) seed =
      (upToRejected accepts (c.drawn t config seed n).1,
        (settled accepts seed 1 (c.drawn t config seed n).1 (c.drawn t config seed n).2).map
          fun () => ⟨n, seed⟩) := by
  have same : c.configured (config.withCases n) = c.configured config := rfl
  unfold recordedCheck drawn
  rw [same]
  cases (c.configured config).compile t with
  | error failure => rfl
  | ok g =>
    dsimp only [RunConfig.withCases]
    rw [recordedTrials_fst, recordedTrials_snd, mapError_trials]

/-- A check passes if all draws come to values, and all values are accepted. -/
theorem check_eq_ok {n : Nat} {report : Report} :
    c.check t (config.withCases n) seed = .ok report ↔
      report = ⟨n, seed⟩ ∧ (c.drawn t config seed n).2 = none ∧
        ∀ v ∈ (c.drawn t config seed n).1, t.guard v = true := by
  rw [← recordedCheck_guard, recordedCheck_eq]
  obtain ⟨vs, failure⟩ := c.drawn t config seed n
  have settles : settled t.guard seed 1 vs failure = .ok () ↔ _ := settled_eq_ok
  dsimp only
  rw [← settles]
  cases settled t.guard seed 1 vs failure with
  | error failure => simp [Except.map]
  | ok _ => simp [Except.map, eq_comm]

/-- A check that accepts everything tells of the failure. -/
theorem recordedCheck_everything (n : Nat) :
    (c.recordedCheck (fun _ => true) t (config.withCases n) seed).2 =
      (c.drawn t config seed n).2.elim (.ok ⟨n, seed⟩) .error := by
  rw [recordedCheck_eq, settled_of_accepted fun _ _ => rfl]
  cases (c.drawn t config seed n).2 with
  | none => rfl
  | some failure => rfl

/-- A check comes to what it would come to if it accepted everything, or else to a counterexample,
which is the value of its trial. -/
theorem check_eq_or_counterexample (n : Nat) :
    c.check t (config.withCases n) seed =
        (c.recordedCheck (fun _ => true) t (config.withCases n) seed).2 ∨
      ∃ i v, (c.drawn t config seed n).1[i]? = some v ∧ t.guard v = false ∧
        c.check t (config.withCases n) seed =
          .error (.error (.counterexampleFound (i + 1) seed v)) := by
  rw [← recordedCheck_guard, recordedCheck_eq, recordedCheck_eq]
  dsimp only
  by_cases each : ∀ v ∈ (c.drawn t config seed n).1, t.guard v = true
  · rw [settled_of_accepted each, settled_of_accepted fun _ _ => rfl]
    exact .inl rfl
  · obtain ⟨i, v, there, rejected, comes⟩ := settled_of_rejected each
    rw [comes, Nat.add_comm 1 i]
    exact .inr ⟨i, v, there, rejected, rfl⟩

theorem length_drawn {n : Nat} (whole : (c.drawn t config seed n).2 = none) :
    (c.drawn t config seed n).1.length = n := by
  unfold drawn at whole ⊢
  cases compiled : (c.configured config).compile t with
  | error failure =>
    rw [compiled] at whole
    cases whole
  | ok g =>
    rw [compiled] at whole
    exact Generator.length_drawn (Option.map_eq_none_iff.mp whole)

/-- More draws begin with the same values. -/
theorem drawn_begins {m n : Nat} (le : m ≤ n) :
    (c.drawn t config seed m).1 <+: (c.drawn t config seed n).1 := by
  unfold drawn
  cases (c.configured config).compile t with
  | error failure => exact List.prefix_refl _
  | ok g => exact Generator.drawn_begins le

/-- There is nothing to draw from, or else the budget fails a draw. -/
theorem failure_of_drawn {n : Nat} {failure : Failure}
    (failed : (c.drawn t config seed n).2 = some failure) :
    (c.configured config).compile t = .error failure ∨
      ∃ reason, failure = .error (.retryBudgetExceeded reason) := by
  unfold drawn at failed
  cases compiled : (c.configured config).compile t with
  | error failure =>
    rw [compiled] at failed
    cases failed
    exact .inl rfl
  | ok g =>
    rw [compiled] at failed
    obtain ⟨e, spent, rfl⟩ := Option.map_eq_some_iff.mp failed
    obtain ⟨reason, rfl⟩ := Generator.failure_of_drawn spent
    exact .inr ⟨reason, rfl⟩

/-- A counterexample is the value of its trial among all draws that are long enough, and do not
fail. -/
theorem exists_drawn_of_counterexample {n m trial : Nat} {s : UInt64} {v : Value}
    (found : c.check t (config.withCases n) seed =
      .error (.error (.counterexampleFound trial s v)))
    (le : trial ≤ m) (whole : (c.drawn t config seed m).2 = none) :
    ∃ i, trial = i + 1 ∧ s = seed ∧ (c.drawn t config seed m).1[i]? = some v := by
  rcases check_eq_or_counterexample n with same | ⟨i, w, there, _, comes⟩
  · -- a failure that is no rejection is none of a counterexample
    rw [found, recordedCheck_everything] at same
    cases failed : (c.drawn t config seed n).2 with
    | none =>
      rw [failed] at same
      cases same
    | some failure =>
      rw [failed] at same
      cases same
      rcases failure_of_drawn failed with uncompiled | ⟨reason, spent⟩
      · rw [drawn, uncompiled] at whole
        cases whole
      · cases spent
  · cases found.symm.trans comes
    refine ⟨i, rfl, rfl, ?_⟩
    rcases Nat.le_total n m with longer | shorter
    · obtain ⟨lt, here⟩ := List.getElem?_eq_some_iff.mp there
      rw [List.prefix_iff_getElem?.mp (drawn_begins longer) i lt, here]
    · have within : i < (c.drawn t config seed m).1.length := by
        rw [length_drawn whole]
        exact le
      have kept := List.prefix_iff_getElem?.mp (drawn_begins shorter) i within
      rw [List.getElem?_eq_getElem within, ← kept, there]

end Compiler

end Specimen
