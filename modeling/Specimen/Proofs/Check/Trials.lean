import Specimen.Check.Verdict
import Specimen.Proofs.Generator.Budget
import Specimen.Proofs.Generator.Draws

/-!
# The verdict of a check

A check is decided by its first bad trial, the first draw that starves or comes to a value that is
not accepted (`IsFirstBad`). What comes of each draw does not depend on how many trials there are, so
neither does the verdict, but for passing where the trials end before the bad one
(`verdict_is_first_bad_trial`). A counterexample does not depend on the budget either, as long as it
is enough.

The induction is on the trials, of a run that begins with the next of them (`outcome`, `runAfter`).
-/

namespace Specimen

namespace Generator

variable {g : Generator} {source : Source} {run : Run} {choices : Choices} {budget : Nat} {i : Nat}

/-- The state after so many draws, whatever has come of them. -/
def runAfter (g : Generator) (source : Source) : Nat → Run → Run
  | 0, run => run
  | n + 1, run => runAfter g source n (g.next source run).2

/-- What comes of the draw after so many others. -/
def outcome (g : Generator) (source : Source) (n : Nat) (run : Run) : Except GenError Value :=
  (g.next source (g.runAfter source n run)).1

/-- As long as the draws come to values, a larger budget changes neither the state they lead to nor
the next value. -/
theorem outcome_of_le : ∀ {i : Nat} {run : Run} {v : Value}, run.spent ≤ budget →
    (∀ j < i, ∃ w, g.outcome ⟨choices, budget⟩ j run = .ok w) →
      g.outcome ⟨choices, budget⟩ i run = .ok v → ∀ more, budget ≤ more →
        g.outcome ⟨choices, more⟩ i run = .ok v ∧
          g.runAfter ⟨choices, more⟩ (i + 1) run = g.runAfter ⟨choices, budget⟩ (i + 1) run
  | 0, run, v, within, _, drawn, more, le => by
    have same := (next_of_le within (Prod.ext drawn rfl)).2 more le
    exact ⟨congrArg Prod.fst same, (congrArg Prod.snd same :)⟩
  | i + 1, run, v, within, before, drawn, more, le => by
    obtain ⟨w, first⟩ := before 0 (Nat.succ_pos i)
    obtain ⟨still, same⟩ := next_of_le within (Prod.ext first rfl)
    have rest := outcome_of_le still (fun j lt => before (j + 1) (Nat.succ_lt_succ lt)) drawn more le
    have begun := congrArg Prod.snd (same more le)
    unfold outcome runAfter
    rw [begun]
    exact rest

end Generator

namespace Check

variable {accepts : Value → Bool} {g : Generator} {source : Source} {seed : UInt64}

/-- A draw that comes to an accepted value. -/
def Passes (accepts : Value → Bool) (drawn : Except GenError Value) : Prop :=
  ∃ v, drawn = .ok v ∧ accepts v = true

/-- The draw after the first `i` is bad, and those passed. -/
structure IsFirstBad (accepts : Value → Bool) (g : Generator) (source : Source) (run : Run)
    (i : Nat) : Prop where
  before : ∀ j < i, Passes accepts (g.outcome source j run)
  bad : ¬ Passes accepts (g.outcome source i run)

/-- What a check complains of at a bad trial: the value it drew, or why there is none. -/
def complaint (trial : Nat) (seed : UInt64) : Except GenError Value → GenError
  | .ok v => .counterexampleFound trial seed v
  | .error e => e

/-! ## One trial -/

section Step

variable {left trial : Nat} {run : Run}

theorem trials_of_good (good : Passes accepts (g.next source run).1) :
    trials accepts seed g source (left + 1) trial run =
      trials accepts seed g source left (trial + 1) (g.next source run).2 := by
  obtain ⟨v, drawn, accepted⟩ := good
  rw [trials]
  rcases came : g.next source run with ⟨e | w, between⟩
  · rw [came] at drawn
    cases drawn
  · rw [came] at drawn
    cases drawn
    simp only [if_pos accepted]

theorem trials_of_bad (bad : ¬ Passes accepts (g.next source run).1) :
    trials accepts seed g source (left + 1) trial run =
      (.error (complaint trial seed (g.next source run).1), (g.next source run).2) := by
  rw [trials]
  rcases drawn : g.next source run with ⟨e | v, between⟩
  · rfl
  · rw [drawn] at bad
    have rejected : accepts v ≠ true := fun accepted => bad ⟨v, rfl, accepted⟩
    simp only [if_neg rejected, complaint]

end Step

/-! ## All trials -/

theorem trials_of_passes : ∀ {left trial : Nat} {run : Run},
    (∀ j < left, Passes accepts (g.outcome source j run)) →
      trials accepts seed g source left trial run = (.ok (), g.runAfter source left run)
  | 0, _, _, _ => rfl
  | left + 1, trial, run, each => by
    have good : Passes accepts (g.next source run).1 := each 0 (Nat.succ_pos left)
    rw [trials_of_good good]
    exact trials_of_passes fun j lt => each (j + 1) (Nat.succ_lt_succ lt)

/-- Trials end at the first bad one, of which they complain. -/
theorem IsFirstBad.trials_eq : ∀ {i left trial : Nat} {run : Run},
    IsFirstBad accepts g source run i → i < left →
      trials accepts seed g source left trial run =
        (.error (complaint (trial + i) seed (g.outcome source i run)),
          g.runAfter source (i + 1) run)
  | 0, left + 1, trial, run, first, _ => trials_of_bad first.bad
  | i + 1, left + 1, trial, run, first, lt => by
    have good : Passes accepts (g.next source run).1 := first.before 0 (Nat.succ_pos i)
    rw [trials_of_good good]
    have rest : IsFirstBad accepts g source (g.next source run).2 i :=
      ⟨fun j lt => first.before (j + 1) (Nat.succ_lt_succ lt), first.bad⟩
    rw [rest.trials_eq (Nat.lt_of_succ_lt_succ lt), Nat.add_right_comm, Nat.add_assoc]
    rfl

/-- Among trials that do not all pass there is a first bad one. -/
theorem exists_isFirstBad {run : Run} {n : Nat}
    (bad : ¬ ∀ j < n, Passes accepts (g.outcome source j run)) :
    ∃ i < n, IsFirstBad accepts g source run i := by
  classical
  have some : ∃ i, i < n ∧ ¬ Passes accepts (g.outcome source i run) := by
    simpa only [not_forall, exists_prop] using bad
  obtain ⟨lt, fails⟩ := Nat.find_spec some
  refine ⟨Nat.find some, lt, fun j before => ?_, fails⟩
  have least := Nat.find_min some before
  exact not_not.mp fun bad => least ⟨Nat.lt_trans before lt, bad⟩

/-- Before the first bad trial the draws come to values. -/
theorem IsFirstBad.exists_outcome {i : Nat} {run : Run}
    (first : IsFirstBad accepts g source run i) : ∀ j < i, ∃ w, g.outcome source j run = .ok w := by
  intro j lt
  obtain ⟨w, came, _⟩ := first.before j lt
  exact ⟨w, came⟩

/-- A larger budget leaves a counterexample the first bad trial. -/
theorem IsFirstBad.of_le {choices : Choices} {budget more i : Nat} {run : Run} {v : Value}
    (first : IsFirstBad accepts g ⟨choices, budget⟩ run i) (within : run.spent ≤ budget)
    (drawn : g.outcome ⟨choices, budget⟩ i run = .ok v) (le : budget ≤ more) :
    IsFirstBad accepts g ⟨choices, more⟩ run i where
  before j lt := by
    obtain ⟨w, came, accepted⟩ := first.before j lt
    have sooner : ∀ k < j, ∃ u, g.outcome ⟨choices, budget⟩ k run = .ok u :=
      fun k earlier => first.exists_outcome k (Nat.lt_trans earlier lt)
    exact ⟨w, (Generator.outcome_of_le within sooner came more le).1, accepted⟩
  bad := by
    have bad := first.bad
    rw [drawn] at bad
    rwa [(Generator.outcome_of_le within first.exists_outcome drawn more le).1]

end Check

namespace Compiler

open Check

variable {c : Compiler} {t : Descriptor} (config : RunConfig) {seed : UInt64} {g : Generator}

/-- The trials decide a check of what compiles. -/
theorem checkFrom_of_compiles (compiled : (c.configured config).compile t = .ok g) (run : Run) :
    c.checkFrom t config seed run =
      match trials t.guard seed g ⟨.seeded seed, config.maxRejects⟩ config.cases 1 run with
      | (.error e, after) => (.error (.error e), after)
      | (.ok (), after) => (.ok ⟨config.cases, seed⟩, after) := by
  unfold checkFrom
  split
  case h_1 failed => cases failed.symm.trans compiled
  case h_2 made =>
    cases made.symm.trans compiled
    rfl

/-- What the trials come to decides the verdict. -/
theorem verdict_of_compiles (compiled : (c.configured config).compile t = .ok g) (run : Run) :
    (c.checkFrom t config seed run).1 =
      match (trials t.guard seed g ⟨.seeded seed, config.maxRejects⟩ config.cases 1 run).1 with
      | .error e => .error (.error e)
      | .ok () => .ok ⟨config.cases, seed⟩ := by
  rw [checkFrom_of_compiles config compiled]
  rcases trials t.guard seed g ⟨.seeded seed, config.maxRejects⟩ config.cases 1 run with ⟨_ | _, _⟩
  · rfl
  · rfl

theorem checkFrom_of_passes (compiled : (c.configured config).compile t = .ok g) {run : Run}
    (each : ∀ j < config.cases,
      Passes t.guard (g.outcome ⟨.seeded seed, config.maxRejects⟩ j run)) :
    c.checkFrom t config seed run = (.ok ⟨config.cases, seed⟩,
      g.runAfter ⟨.seeded seed, config.maxRejects⟩ config.cases run) := by
  rw [checkFrom_of_compiles config compiled, trials_of_passes each]

theorem checkFrom_of_isFirstBad (compiled : (c.configured config).compile t = .ok g) {run : Run}
    {i : Nat} (first : IsFirstBad t.guard g ⟨.seeded seed, config.maxRejects⟩ run i)
    (lt : i < config.cases) :
    c.checkFrom t config seed run =
      (.error (.error
        (complaint (i + 1) seed (g.outcome ⟨.seeded seed, config.maxRejects⟩ i run))),
        g.runAfter ⟨.seeded seed, config.maxRejects⟩ (i + 1) run) := by
  rw [checkFrom_of_compiles config compiled, first.trials_eq lt, Nat.add_comm 1 i]

/-- The verdict of a check is that of its first bad trial. Where the type does not compile, the
check answers why and draws nothing, however many trials there were to be. Where it does, the check
passes exactly if all trials do, and else answers what its first bad trial comes to and ends there: a
counterexample if that is a value, the spent budget if it starved. So however many trials there are
beyond a bad one, the verdict is the same; and a counterexample is the verdict under every larger
budget as well. -/
theorem verdict_is_first_bad_trial (c : Compiler) (t : Descriptor) (config : RunConfig)
    (seed : UInt64) (run : Run) :
    (∀ failure, (c.configured config).compile t = .error failure → ∀ n,
      c.checkFrom t (config.withCases n) seed run = (.error failure, run)) ∧
    (∀ g, (c.configured config).compile t = .ok g →
      let source : Source := ⟨.seeded seed, config.maxRejects⟩
      (∀ n, (c.checkFrom t (config.withCases n) seed run).1 = .ok ⟨n, seed⟩ ↔
        ∀ j < n, Passes t.guard (g.outcome source j run)) ∧
      (∀ n, (∀ j < n, Passes t.guard (g.outcome source j run)) →
        c.checkFrom t (config.withCases n) seed run =
          (.ok ⟨n, seed⟩, g.runAfter source n run)) ∧
      (∀ n, ¬ (∀ j < n, Passes t.guard (g.outcome source j run)) →
        ∃ i < n, IsFirstBad t.guard g source run i) ∧
      (∀ i, IsFirstBad t.guard g source run i → ∀ n, i < n →
        (∀ v, g.outcome source i run = .ok v →
          c.checkFrom t (config.withCases n) seed run =
            (.error (.error (.counterexampleFound (i + 1) seed v)),
              g.runAfter source (i + 1) run)) ∧
        (∀ e, g.outcome source i run = .error e →
          (∃ reason, e = .retryBudgetExceeded reason) ∧
          c.checkFrom t (config.withCases n) seed run =
            (.error (.error e), g.runAfter source (i + 1) run))) ∧
      (∀ i v, run.spent ≤ config.maxRejects → IsFirstBad t.guard g source run i →
        g.outcome source i run = .ok v → ∀ more, config.maxRejects ≤ more → ∀ n, i < n →
          c.checkFrom t { config.withCases n with maxRejects := more } seed run =
            (.error (.error (.counterexampleFound (i + 1) seed v)),
              g.runAfter source (i + 1) run))) := by
  refine ⟨fun failure failed n => ?_, fun g compiled => ?_⟩
  · rw [checkFrom, show c.configured (config.withCases n) = c.configured config from rfl, failed]
  intro source
  have passes : ∀ n, (∀ j < n, Passes t.guard (g.outcome source j run)) →
      c.checkFrom t (config.withCases n) seed run = (.ok ⟨n, seed⟩, g.runAfter source n run) :=
    fun n each => checkFrom_of_passes (config.withCases n) compiled each
  -- everything below is read off these two: what a run without bad trials answers, and one with a
  -- first
  have fails : ∀ i, IsFirstBad t.guard g source run i → ∀ n, i < n →
      c.checkFrom t (config.withCases n) seed run =
        (.error (.error (complaint (i + 1) seed (g.outcome source i run))),
          g.runAfter source (i + 1) run) :=
    fun i first n lt => checkFrom_of_isFirstBad (config.withCases n) compiled first lt
  refine ⟨fun n => ⟨fun passed => ?_, fun each => by rw [passes n each]⟩, passes,
    fun n bad => exists_isFirstBad bad, fun i first n lt => ⟨fun v drawn => ?_, fun e starved => ?_⟩,
    fun i v within first drawn more le n lt => ?_⟩
  · by_contra bad
    obtain ⟨i, lt, first⟩ := exists_isFirstBad bad
    rw [fails i first n lt] at passed
    cases passed
  · rw [fails i first n lt, drawn, complaint]
  · refine ⟨Generator.next_error (Prod.ext starved rfl), ?_⟩
    rw [fails i first n lt, starved, complaint]
  · have still := first.of_le within drawn le
    obtain ⟨same, after⟩ :=
      Generator.outcome_of_le within first.exists_outcome drawn more le
    rw [checkFrom_of_isFirstBad { config.withCases n with maxRejects := more } compiled still lt,
      after, same, complaint]

/-- A compiler with a strategy for extensions named `flag` that breaks its word every other time. -/
def fickle : Compiler :=
  new.registerStrategy "flag" fun _ _ => pure (.tape 0 [.bool true, .bool false])

/-- An extension named `flag` that only accepts the truth. -/
def flag : Descriptor :=
  .node 0 (.extension "flag" .null ⟨"flag", fun v => v.equal (.bool true)⟩)

/-- Its word is broken at the second trial: a check of one trial passes, one of more finds that
counterexample, whatever rejections are tolerated. Without the strategy there is nothing to try. -/
theorem fickle_breaks_second :
    (∀ n, (new.checkFrom flag (RunConfig.default.withCases n) 7 .start).1 =
      .error (.error (.unsupportedType "flag"))) ∧
    (fickle.checkFrom flag (RunConfig.default.withCases 1) 7 .start).1 = .ok ⟨1, 7⟩ ∧
    ∀ more, RunConfig.defaultMaxRejects ≤ more → ∀ n, 1 < n →
      (fickle.checkFrom flag { RunConfig.default.withCases n with maxRejects := more } 7 .start).1 =
        .error (.error (.counterexampleFound 2 7 (.bool false))) := by
  have compiled : fickle.compile flag = .ok (.tape 0 [.bool true, .bool false]) := rfl
  have unmet := verdict_is_first_bad_trial new flag .default 7 .start
  have broken := (verdict_is_first_bad_trial fickle flag .default 7 .start).2 _ compiled
  obtain ⟨passes, _, _, _, found⟩ := broken
  have first : IsFirstBad flag.guard (.tape 0 [.bool true, .bool false])
      ⟨.seeded 7, RunConfig.default.maxRejects⟩ .start 1 := by
    refine ⟨fun j lt => ?_, ?_⟩
    · obtain rfl := Nat.lt_one_iff.mp lt
      exact ⟨.bool true, rfl, rfl⟩
    · rintro ⟨v, drawn, accepted⟩
      cases drawn
      cases accepted
  refine ⟨fun n => ?_, (passes 1).mpr first.before, fun more le n lt => ?_⟩
  · exact congrArg Prod.fst (unmet.1 _ rfl n)
  · rw [found 1 (.bool false) (Nat.zero_le _) first rfl more le n lt]

end Compiler

end Specimen
