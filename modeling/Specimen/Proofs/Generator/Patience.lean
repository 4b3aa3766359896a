import Mathlib.Tactic.Common
import Specimen.Generator.Draw

/-!
# Drawing without a budget

What a generator would draw if nobody counted: its searches go on for as many rounds as they are
given, and every rejection is tallied but none is held against the draw (`patiently`).

A draw under a budget is then the patient draw cut off (`Metered`): it comes to what the patient one
comes to if that rejected no more than the budget allows, and it starves exactly if some patient one
has rejected more. Whatever is put together from metered computations is metered (`Metered.bind`),
and so is a search of metered attempts (`Metered.untilKept`).
-/

namespace Specimen

namespace Draw

variable {α β : Type}

/-! ## Results -/

/-- The run in which a computation ends, whether it has come to something or not. -/
def lastRun : EStateM.Result Unit Run α → Run
  | .ok _ after => after
  | .error _ after => after

theorem bind_of_ok {d : Draw α} {f : α → Draw β} {source : Source} {run between : Run} {a : α}
    (ran : d source run = .ok a between) : (d >>= f) source run = f a source between := by
  change EStateM.bind (d source) (fun a => f a source) run = _
  unfold EStateM.bind
  rw [ran]

theorem bind_of_error {d : Draw α} {f : α → Draw β} {source : Source} {run between : Run}
    (ran : d source run = .error () between) : (d >>= f) source run = .error () between := by
  change EStateM.bind (d source) (fun a => f a source) run = _
  unfold EStateM.bind
  rw [ran]

/-- One result beside that of a computation which was given more time: it is the same if it is there
already, and no fewer rejections are counted. -/
structure Further (early late : EStateM.Result Unit Run α) : Prop where
  same : ∀ {a after}, early = .ok a after → late = .ok a after
  counted : (lastRun early).spent ≤ (lastRun late).spent

theorem Further.refl (result : EStateM.Result Unit Run α) : Further result result :=
  ⟨id, Nat.le_refl _⟩

/-- Getting further is passed on. -/
theorem Further.trans {first second third : EStateM.Result Unit Run α}
    (one : Further first second) (other : Further second third) : Further first third :=
  ⟨fun ended => other.same (one.same ended), Nat.le_trans one.counted other.counted⟩

/-! ## Searches -/

/-- A way to go on trying until an attempt succeeds. -/
abbrev Search := Option String → Draw (Option Value) → Draw Value

/-- The run after one more rejection. -/
def tallied (run : Run) (label : Option String) : Run :=
  { run with blamed := label.or run.blamed, spent := run.spent + 1 }

/-- Tries for so many rounds, whatever that costs. -/
def patiently : Nat → Search
  | 0, _, _ => fun _ run => .error () run
  | rounds + 1, label, attempt => fun source run =>
    match attempt source run with
    | .ok (some v) after => .ok v after
    | .ok none after => patiently rounds label attempt source (tallied after label)
    | .error () after => .error () after

section Rounds

variable {label : Option String} {attempt : Draw (Option Value)} {source : Source}
  {run between : Run} {v : Value} {rounds : Nat}

theorem patiently_of_some (tried : attempt source run = .ok (some v) between) :
    patiently (rounds + 1) label attempt source run = .ok v between := by
  simp only [patiently, tried]

/-- A round that fails is tallied, and there is one less left. -/
theorem patiently_of_none (tried : attempt source run = .ok none between) :
    patiently (rounds + 1) label attempt source run =
      patiently rounds label attempt source (tallied between label) := by
  simp only [patiently, tried]

theorem patiently_of_error (tried : attempt source run = .error () between) :
    patiently (rounds + 1) label attempt source run = .error () between := by
  simp only [patiently, tried]

theorem attempts_of_some (tried : attempt source run = .ok (some v) between) :
    attempts label attempt (rounds + 1) source run = .ok v between :=
  bind_of_ok tried

theorem attempts_of_error (tried : attempt source run = .error () between) :
    attempts label attempt (rounds + 1) source run = .error () between :=
  bind_of_error tried

/-- A rejection within the budget is tallied. -/
theorem attempts_of_none (tried : attempt source run = .ok none between)
    (within : between.spent < source.budget) :
    attempts label attempt (rounds + 1) source run =
      attempts label attempt rounds source (tallied between label) := by
  refine (bind_of_ok tried).trans (bind_of_ok (a := ()) ?_)
  exact if_neg (Nat.not_le.mpr within)

/-- A rejection that finds the budget spent is not tallied any more. -/
theorem attempts_of_spent (tried : attempt source run = .ok none between)
    (spent : source.budget ≤ between.spent) :
    attempts label attempt (rounds + 1) source run =
      .error () { between with blamed := label.or between.blamed } := by
  refine (bind_of_ok tried).trans (bind_of_error ?_)
  exact if_pos spent

end Rounds

/-! ## Metered computations -/

/-- A computation and what it comes to with patience, by how many rounds each of its searches may
go on. -/
structure Metered (d : Draw α) (patient : Nat → Draw α) : Prop where
  /-- Patience asks for no budget. -/
  unbudgeted : ∀ rounds choices budget other run,
    patient rounds ⟨choices, budget⟩ run = patient rounds ⟨choices, other⟩ run
  /-- Rejections are never taken back. -/
  counted : ∀ rounds source run, run.spent ≤ (lastRun (patient rounds source run)).spent
  /-- More rounds only get further. -/
  further : ∀ rounds source run,
    Further (patient rounds source run) (patient (rounds + 1) source run)
  /-- What succeeds within the budget is what patience comes to. -/
  succeeds : ∀ {source run a after}, run.spent ≤ source.budget → d source run = .ok a after →
    after.spent ≤ source.budget ∧ ∃ rounds, patient rounds source run = .ok a after
  /-- What starves has spent the budget, and would have rejected more than it allows. -/
  starves : ∀ {source run after}, run.spent ≤ source.budget → d source run = .error () after →
    after.spent = source.budget ∧
      ∃ rounds, source.budget < (lastRun (patient rounds source run)).spent

namespace Metered

variable {d : Draw α} {patient : Nat → Draw α}

/-- Of any two amounts of patience, the greater gets at least as far. -/
theorem further_of_le (metered : Metered d patient) {few many : Nat} (le : few ≤ many)
    (source : Source) (run : Run) :
    Further (patient few source run) (patient many source run) := by
  induction le with
  | refl => exact .refl _
  | step _ ih => exact ih.trans (metered.further _ source run)

/-- Patience comes to one thing, however many rounds it takes. -/
theorem unique (metered : Metered d patient) {few many : Nat} {source : Source} {run first last : Run}
    {a b : α} (one : patient few source run = .ok a first)
    (other : patient many source run = .ok b last) : a = b ∧ first = last := by
  have here := (metered.further_of_le (Nat.le_max_left few many) source run).same one
  have there := (metered.further_of_le (Nat.le_max_right few many) source run).same other
  cases here.symm.trans there
  exact ⟨rfl, rfl⟩

/-- Where patience comes to something, no number of rounds rejects more. -/
theorem counted_le (metered : Metered d patient) {few many : Nat} {source : Source} {run after : Run}
    {a : α} (ended : patient few source run = .ok a after) :
    (lastRun (patient many source run)).spent ≤ after.spent := by
  have there := (metered.further_of_le (Nat.le_max_left few many) source run).same ended
  have here := (metered.further_of_le (Nat.le_max_right few many) source run).counted
  rwa [there] at here

/-- The budget is enough exactly if no patience would reject more often than it allows. -/
theorem ends_iff (metered : Metered d patient) {choices : Choices} {budget : Nat} {run : Run}
    (within : run.spent ≤ budget) :
    (∃ a after, d ⟨choices, budget⟩ run = .ok a after) ↔
      ∀ rounds, (lastRun (patient rounds ⟨choices, budget⟩ run)).spent ≤ budget := by
  constructor
  · rintro ⟨a, after, ran⟩ rounds
    obtain ⟨still, few, ended⟩ := metered.succeeds within ran
    exact Nat.le_trans (metered.counted_le ended) still
  · intro enough
    cases ran : d ⟨choices, budget⟩ run with
    | ok a after => exact ⟨a, after, rfl⟩
    | error _ after =>
      obtain ⟨_, rounds, more⟩ := metered.starves within ran
      exact absurd (enough rounds) (Nat.not_le.mpr more)

/-- What succeeds within a budget succeeds within a larger one, and comes to the same. -/
theorem ok_of_le (metered : Metered d patient) {choices : Choices} {budget more : Nat}
    {run after : Run} {a : α} (within : run.spent ≤ budget) (le : budget ≤ more)
    (ran : d ⟨choices, budget⟩ run = .ok a after) : d ⟨choices, more⟩ run = .ok a after := by
  obtain ⟨still, few, ended⟩ := metered.succeeds within ran
  rw [metered.unbudgeted few choices budget more run] at ended
  have enough : ∀ rounds, (lastRun (patient rounds ⟨choices, more⟩ run)).spent ≤ more :=
    fun rounds => Nat.le_trans (metered.counted_le ended) (Nat.le_trans still le)
  obtain ⟨b, later, ran'⟩ := (metered.ends_iff (Nat.le_trans within le)).mpr enough
  obtain ⟨_, many, ended'⟩ := metered.succeeds (Nat.le_trans within le) ran'
  obtain ⟨rfl, rfl⟩ := metered.unique ended ended'
  exact ran'

/-! ### Putting together -/

theorem pure (a : α) : Metered (pure a : Draw α) fun _ => pure a where
  unbudgeted _ _ _ _ _ := rfl
  counted _ _ _ := Nat.le_refl _
  further _ _ _ := .refl _
  succeeds within ran := by
    cases ran
    exact ⟨within, 0, rfl⟩
  starves _ ran := by cases ran

theorem word : Metered word fun _ => word where
  unbudgeted _ _ _ _ _ := rfl
  counted _ _ _ := Nat.le_refl _
  further _ _ _ := .refl _
  succeeds within ran := by
    cases ran
    exact ⟨within, 0, rfl⟩
  starves _ ran := by cases ran

theorem fromTape (id : Nat) (values : List Value) :
    Metered (fromTape id values) fun _ => fromTape id values where
  unbudgeted _ _ _ _ _ := rfl
  counted _ _ _ := Nat.le_refl _
  further _ _ _ := .refl _
  succeeds within ran := by
    cases ran
    exact ⟨within, 0, rfl⟩
  starves _ ran := by cases ran

/-- Two parts one after the other are metered together; the second goes on with the budget that the
first has left. -/
theorem bind {f : α → Draw β} {onward : α → Nat → Draw β} (first : Metered d patient)
    (rest : ∀ a, Metered (f a) (onward a)) :
    Metered (d >>= f) fun rounds => patient rounds >>= fun a => onward a rounds where
  unbudgeted rounds choices budget other run := by
    have same := first.unbudgeted rounds choices budget other run
    cases ran : patient rounds ⟨choices, other⟩ run with
    | ok a between =>
      rw [bind_of_ok (same.trans ran), bind_of_ok ran]
      exact (rest a).unbudgeted rounds choices budget other between
    | error _ between => rw [bind_of_error (same.trans ran), bind_of_error ran]
  counted rounds source run := by
    have before := first.counted rounds source run
    cases ran : patient rounds source run with
    | ok a between =>
      rw [bind_of_ok ran]
      rw [ran] at before
      exact Nat.le_trans before ((rest a).counted rounds source between)
    | error _ between =>
      rw [bind_of_error ran]
      rwa [ran] at before
  further rounds source run := by
    have before := first.further rounds source run
    cases ran : patient rounds source run with
    | ok a between =>
      rw [bind_of_ok ran, bind_of_ok (before.same ran)]
      exact (rest a).further rounds source between
    | error _ between =>
      rw [bind_of_error ran]
      refine ⟨nofun, ?_⟩
      have counted := before.counted
      rw [ran] at counted
      cases more : patient (rounds + 1) source run with
      | ok a later =>
        rw [bind_of_ok more]
        rw [more] at counted
        exact Nat.le_trans counted ((rest a).counted (rounds + 1) source later)
      | error _ later =>
        rw [bind_of_error more]
        rwa [more] at counted
  -- either part has enough with the greater number of rounds
  succeeds {source run b after} within ran := by
    cases begun : d source run with
    | ok a between =>
      obtain ⟨still, few, here⟩ := first.succeeds within begun
      obtain ⟨last, many, there⟩ := (rest a).succeeds still ((bind_of_ok begun).symm.trans ran)
      refine ⟨last, max few many, ?_⟩
      have here := (first.further_of_le (Nat.le_max_left few many) source run).same here
      rw [bind_of_ok here]
      exact ((rest a).further_of_le (Nat.le_max_right few many) source between).same there
    | error _ between => cases (bind_of_error begun).symm.trans ran
  starves {source run after} within ran := by
    cases begun : d source run with
    | ok a between =>
      obtain ⟨still, few, here⟩ := first.succeeds within begun
      obtain ⟨last, many, there⟩ := (rest a).starves still ((bind_of_ok begun).symm.trans ran)
      refine ⟨last, max few many, ?_⟩
      have here := (first.further_of_le (Nat.le_max_left few many) source run).same here
      rw [bind_of_ok here]
      exact Nat.lt_of_lt_of_le there
        ((rest a).further_of_le (Nat.le_max_right few many) source between).counted
    | error _ between =>
      obtain ⟨spent, few, here⟩ := first.starves within begun
      cases (bind_of_error begun).symm.trans ran
      refine ⟨spent, few, ?_⟩
      cases waited : patient few source run with
      | ok a later =>
        rw [bind_of_ok waited]
        rw [waited] at here
        exact Nat.lt_of_lt_of_le here ((rest a).counted few source later)
      | error _ later =>
        rw [bind_of_error waited]
        rwa [waited] at here

/-- So are as many draws as are asked for. -/
theorem times (one : Metered d patient) : ∀ count,
    Metered (times d count) fun rounds => times (patient rounds) count
  | 0 => .pure []
  | count + 1 => one.bind fun _ => (times one count).bind fun _ => .pure _

/-! ### Searching -/

section Searching

variable {attempt : Draw (Option Value)} {tries : Nat → Draw (Option Value)} {label : Option String}

/-- A patient search whose attempts are patient as well; each may go on for a number of rounds. -/
private theorem patiently_unbudgeted (metered : Metered attempt tries) (rounds : Nat)
    (choices : Choices) (budget other : Nat) : ∀ (left : Nat) (run : Run),
      patiently left label (tries rounds) ⟨choices, budget⟩ run =
        patiently left label (tries rounds) ⟨choices, other⟩ run
  | 0, _ => rfl
  | left + 1, run => by
    have same := metered.unbudgeted rounds choices budget other run
    cases tried : tries rounds ⟨choices, other⟩ run with
    | ok result between =>
      cases result with
      | some v => rw [patiently_of_some (same.trans tried), patiently_of_some tried]
      | none =>
        rw [patiently_of_none (same.trans tried), patiently_of_none tried]
        exact patiently_unbudgeted metered rounds choices budget other left _
    | error _ between => rw [patiently_of_error (same.trans tried), patiently_of_error tried]

/-- A patient search takes no rejection back, in however many rounds. -/
private theorem patiently_counted (metered : Metered attempt tries) (rounds : Nat)
    (source : Source) : ∀ (left : Nat) (run : Run),
      run.spent ≤ (lastRun (patiently left label (tries rounds) source run)).spent
  | 0, _ => Nat.le_refl _
  | left + 1, run => by
    have before := metered.counted rounds source run
    cases tried : tries rounds source run with
    | ok result between =>
      rw [tried] at before
      cases result with
      | some v =>
        rw [patiently_of_some tried]
        exact before
      | none =>
        rw [patiently_of_none tried]
        have after := patiently_counted metered rounds source left (tallied between label)
        exact Nat.le_trans before (Nat.le_trans (Nat.le_succ _) after)
    | error _ between =>
      rw [patiently_of_error tried]
      rwa [tried] at before

/-- The induction is on the rounds of the shorter search; each of its attempts is one of the
longer. -/
private theorem patiently_further (metered : Metered attempt tries) {few many : Nat}
    (le : few ≤ many) (source : Source) : ∀ {left more : Nat}, left ≤ more → ∀ run : Run,
      Further (patiently left label (tries few) source run)
        (patiently more label (tries many) source run)
  | 0, more, _, run => ⟨nofun, patiently_counted metered many source more run⟩
  | left + 1, more + 1, longer, run => by
    have before := metered.further_of_le le source run
    cases tried : tries few source run with
    | ok result between =>
      have retried := before.same tried
      cases result with
      | some v =>
        rw [patiently_of_some tried, patiently_of_some retried]
        exact .refl _
      | none =>
        rw [patiently_of_none tried, patiently_of_none retried]
        exact patiently_further metered le source (Nat.le_of_succ_le_succ longer) _
    | error _ between =>
      rw [patiently_of_error tried]
      refine ⟨nofun, ?_⟩
      have counted := before.counted
      rw [tried] at counted
      cases retried : tries many source run with
      | ok result later =>
        rw [retried] at counted
        cases result with
        | some v =>
          rw [patiently_of_some retried]
          exact counted
        | none =>
          rw [patiently_of_none retried]
          refine Nat.le_trans counted (Nat.le_trans (Nat.le_succ _) ?_)
          change (tallied later label).spent ≤ _
          exact patiently_counted metered many source more _
      | error _ later =>
        rw [patiently_of_error retried]
        rwa [retried] at counted

/-- A search that succeeds within its budget did so after some number of rounds, and with as much
patience it succeeds without a budget. By induction on the attempts left. -/
private theorem attempts_succeeds (metered : Metered attempt tries) {source : Source} :
    ∀ {left : Nat} {run after : Run} {v : Value}, run.spent ≤ source.budget →
      attempts label attempt left source run = .ok v after →
        after.spent ≤ source.budget ∧
          ∃ rounds, patiently rounds label (tries rounds) source run = .ok v after
  | 0, _, _, _, _, ran => by cases ran
  | left + 1, run, after, v, within, ran => by
    cases tried : attempt source run with
    | ok result between =>
      obtain ⟨still, few, here⟩ := metered.succeeds within tried
      cases result with
      | some w =>
        rw [attempts_of_some tried] at ran
        cases ran
        refine ⟨still, few + 1, patiently_of_some ?_⟩
        exact (metered.further few source run).same here
      | none =>
        by_cases spare : between.spent < source.budget
        · rw [attempts_of_none tried spare] at ran
          obtain ⟨last, many, there⟩ :=
            attempts_succeeds metered (Nat.succ_le_of_lt spare) ran
          refine ⟨last, max few many + 1, ?_⟩
          have here := (metered.further_of_le
            (Nat.le_succ_of_le (Nat.le_max_left few many)) source run).same here
          rw [patiently_of_none here]
          refine (patiently_further metered ?_ source (Nat.le_max_right few many) _).same there
          exact Nat.le_succ_of_le (Nat.le_max_right few many)
        · rw [attempts_of_spent tried (Nat.not_lt.mp spare)] at ran
          cases ran
    | error _ between =>
      rw [attempts_of_error tried] at ran
      cases ran

/-- The rounds that the budget leaves are enough to spend it, so a search does not end before. -/
private theorem attempts_starves (metered : Metered attempt tries) {source : Source} :
    ∀ {left : Nat} {run after : Run}, run.spent ≤ source.budget →
      source.budget + 1 - run.spent ≤ left →
      attempts label attempt left source run = .error () after →
        after.spent = source.budget ∧ ∃ rounds, source.budget <
          (lastRun (patiently rounds label (tries rounds) source run)).spent
  | 0, run, _, within, room, _ => by omega
  | left + 1, run, after, within, room, ran => by
    cases tried : attempt source run with
    | ok result between =>
      obtain ⟨still, few, here⟩ := metered.succeeds within tried
      cases result with
      | some w =>
        rw [attempts_of_some tried] at ran
        cases ran
      | none =>
        have grown := metered.counted few source run
        rw [here] at grown
        -- either the budget allows this rejection too, and the search goes on, or it is the one too
        -- many
        by_cases spare : between.spent < source.budget
        · rw [attempts_of_none tried spare] at ran
          have room' : source.budget + 1 - (tallied between label).spent ≤ left := by
            change run.spent ≤ between.spent at grown
            change source.budget + 1 - (between.spent + 1) ≤ left
            omega
          obtain ⟨last, many, there⟩ :=
            attempts_starves metered (Nat.succ_le_of_lt spare) room' ran
          -- one more round than both the attempt and the rest of the search need
          refine ⟨last, max few many + 1, ?_⟩
          have here := (metered.further_of_le
            (Nat.le_succ_of_le (Nat.le_max_left few many)) source run).same here
          rw [patiently_of_none here]
          refine Nat.lt_of_lt_of_le there (patiently_further metered ?_ source
            (Nat.le_max_right few many) _).counted
          exact Nat.le_succ_of_le (Nat.le_max_right few many)
        · rw [attempts_of_spent tried (Nat.not_lt.mp spare)] at ran
          cases ran
          refine ⟨Nat.le_antisymm still (Nat.not_lt.mp spare), few + 1, ?_⟩
          rw [patiently_of_none ((metered.further few source run).same here)]
          refine Nat.lt_of_lt_of_le ?_ (patiently_counted metered _ source few _)
          exact Nat.lt_succ_of_le (Nat.not_lt.mp spare)
    | error _ between =>
      obtain ⟨spent, few, here⟩ := metered.starves within tried
      rw [attempts_of_error tried] at ran
      cases ran
      refine ⟨spent, few + 1, ?_⟩
      have more := (metered.further few source run).counted
      cases retried : tries (few + 1) source run with
      | ok result later =>
        rw [retried] at more
        cases result with
        | some v =>
          rw [patiently_of_some retried]
          exact Nat.lt_of_lt_of_le here more
        | none =>
          rw [patiently_of_none retried]
          refine Nat.lt_of_lt_of_le here (Nat.le_trans more (Nat.le_trans (Nat.le_succ _) ?_))
          change (tallied later label).spent ≤ _
          exact patiently_counted metered (few + 1) source few _
      | error _ later =>
        rw [patiently_of_error retried]
        rw [retried] at more
        exact Nat.lt_of_lt_of_le here more

/-- A search under a budget is a patient search cut off at the first rejection that the budget does
not allow. -/
theorem untilKept (metered : Metered attempt tries) :
    Metered (untilKept label attempt) fun rounds => patiently rounds label (tries rounds) where
  unbudgeted rounds choices budget other run :=
    patiently_unbudgeted metered rounds choices budget other rounds run
  counted rounds source run := patiently_counted metered rounds source rounds run
  further rounds source run :=
    patiently_further metered (Nat.le_succ rounds) source (Nat.le_succ rounds) run
  succeeds within ran := attempts_succeeds metered within ran
  starves within ran := attempts_starves metered within (Nat.le_refl _) ran

end Searching

end Metered

end Draw

end Specimen
