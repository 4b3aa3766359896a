import Specimen.Proofs.CommandLine.Samples
import Specimen.Proofs.Files.Disk
import Specimen.Proofs.Json.Visible

/-!
# A sample is made whole or not at all

A sample may fail at every stage, up to the last of its draws (`SampleFails`). Whichever it is, the
command tells of it, prints nothing and leaves all files and directories as they were. Otherwise it
prints or saves the values drawn, a line for each (`sample_is_all_or_nothing`).

The lines can be told apart again: the JSON text of a value is a single line, whatever strings and
names stand in it, so the text of the sample comes apart at its newlines into the texts of the values.
-/

namespace Specimen

/-! ## Draws

A sample is followed draw by draw, as a run that begins with the next of them. -/

namespace Generator

variable {g : Generator} {source : Source} {e : GenError}

/-- A sample has the values of its draws, if each of them comes to one. -/
theorem sample_eq_ok : ∀ {n : Nat} {run : Run} {vs : List Value}, vs.length = n →
    (∀ i v, vs[i]? = some v → g.outcome source i run = .ok v) →
      ∃ after, g.sample source n run = (.ok vs, after)
  | 0, run, [], _, _ => ⟨run, rfl⟩
  | n + 1, run, v :: vs, length, each => by
    have first : g.next source run = (.ok v, (g.next source run).2) := Prod.ext (each 0 v rfl) rfl
    obtain ⟨after, rest⟩ :=
      sample_eq_ok (Nat.succ.inj length) fun i w there => each (i + 1) w there
    exact ⟨after, sample_succ_eq_ok.mpr ⟨v, _, vs, first, rest, rfl⟩⟩

/-- A sample fails if a draw does and those before it have come to values. -/
theorem sample_eq_error : ∀ {m n : Nat} {run : Run}, m < n →
    (∀ i < m, ∃ v, g.outcome source i run = .ok v) → g.outcome source m run = .error e →
      ∃ after, g.sample source n run = (.error e, after)
  | 0, n + 1, run, _, _, failed =>
    ⟨_, sample_succ_eq_error.mpr (.inl (Prod.ext failed rfl))⟩
  | m + 1, n + 1, run, lt, before, failed => by
    obtain ⟨v, first⟩ := before 0 (Nat.succ_pos m)
    have first : g.next source run = (.ok v, (g.next source run).2) := Prod.ext first rfl
    obtain ⟨after, rest⟩ := sample_eq_error (Nat.lt_of_succ_lt_succ lt)
      (fun i lt => before (i + 1) (Nat.succ_lt_succ lt)) failed
    exact ⟨after, sample_succ_eq_error.mpr (.inr ⟨v, _, first, rest⟩)⟩

/-- All draws come to values, or there is a first that fails. -/
theorem outcomes_cases (g : Generator) (source : Source) : ∀ (n : Nat) (run : Run),
    (∃ vs : List Value, vs.length = n ∧ ∀ i v, vs[i]? = some v → g.outcome source i run = .ok v) ∨
      ∃ m < n, (∀ i < m, ∃ v, g.outcome source i run = .ok v) ∧
        ∃ e, g.outcome source m run = .error e
  | 0, run => .inl ⟨[], rfl, nofun⟩
  | n + 1, run => by
    cases first : (g.next source run).1 with
    | error e => exact .inr ⟨0, Nat.succ_pos n, nofun, e, first⟩
    | ok v =>
      rcases outcomes_cases g source n (g.next source run).2 with
        ⟨vs, length, each⟩ | ⟨m, lt, before, e, failed⟩
      · refine .inl ⟨v :: vs, congrArg Nat.succ length, fun i w there => ?_⟩
        cases i with
        | zero => exact Option.some.inj there ▸ first
        | succ i => exact each i w there
      · refine .inr ⟨m + 1, Nat.succ_lt_succ lt, fun i lt => ?_, e, failed⟩
        cases i with
        | zero => exact ⟨v, first⟩
        | succ i => exact before i (Nat.lt_of_succ_lt_succ lt)

end Generator

namespace Command

/-! ## Lines -/

/-- Each line ends where the next begins, and after the last begins nothing. -/
theorem toList_fileText (lines : List String) :
    (fileText lines).toList = ['\n'].intercalate (lines.map String.toList ++ [[]]) := by
  have ended : (fileText lines).toList = lines.flatMap fun line => line.toList ++ ['\n'] := by
    rw [fileText, String.toList_join, List.flatMap_map]
    simp only [String.toList_append]
    rfl
  rw [ended]
  clear ended
  induction lines with
  | nil => rfl
  | cons line rest ih =>
    rw [List.flatMap_cons, ih]
    cases rest <;> simp [List.intercalate]

/-- The text of single lines comes apart into them at its newlines, with nothing after the last. -/
theorem splitOn_fileText {lines : List String} (single : ∀ line ∈ lines, '\n' ∉ line.toList) :
    ((fileText lines).toList.splitOn '\n').map String.ofList = lines ++ [""] := by
  rw [toList_fileText, List.splitOn_intercalate]
  · rw [List.map_append, List.map_map]
    simp
  · intro text mem
    rcases List.mem_append.mp mem with inner | last
    · obtain ⟨line, listed, rfl⟩ := List.mem_map.mp inner
      exact single line listed
    · rw [List.mem_singleton.mp last]
      exact List.not_mem_nil
  · exact List.append_ne_nil_of_right_ne_nil _ (List.cons_ne_nil [] [])

/-! ## Stages -/

section Stages

variable (inputs : Inputs) (config : RunConfig) (seed : UInt64) (typeName : String) (count : Nat)
  (disk : Disk)

/-- Everything before the draws succeeds, and they are made from this generator. -/
inductive SamplesFrom : Generator → Prop
  | of {types : List (String × Descriptor)} {t : Descriptor} {g : Generator} :
    inputs.load disk = .ok types → Fields.get? types typeName = some t →
    (compiler.configured config).compile t = .ok g → SamplesFrom g

/-- A stage of a sample that fails, and what is told of it. -/
inductive SampleFails : CommandError → Prop
  | unloaded {account : Account} : inputs.load disk = .error account →
    SampleFails (.account account)
  | undeclared {types : List (String × Descriptor)} : inputs.load disk = .ok types →
    Fields.get? types typeName = none →
    SampleFails (.account [.text ("no type named `" ++ typeName ++ "`")])
  | uncompiled {types : List (String × Descriptor)} {t : Descriptor} {failure : Failure} :
    inputs.load disk = .ok types → Fields.get? types typeName = some t →
    (compiler.configured config).compile t = .error failure → SampleFails (.generation failure)
  /-- A draw, after others that have come to values. -/
  | undrawn {g : Generator} {m : Nat} {e : GenError} :
    SamplesFrom inputs config typeName disk g → m < count →
    (∀ i < m, ∃ v, g.outcome ⟨.seeded seed, config.maxRejects⟩ i .start = .ok v) →
    g.outcome ⟨.seeded seed, config.maxRejects⟩ m .start = .error e →
    SampleFails (.generation (.error e))

/-- All stages of a sample succeed, and as many draws as are asked for come to these values. -/
inductive SampleDraws : List Value → Prop
  | all {g : Generator} {vs : List Value} : SamplesFrom inputs config typeName disk g →
    vs.length = count →
    (∀ i v, vs[i]? = some v → g.outcome ⟨.seeded seed, config.maxRejects⟩ i .start = .ok v) →
    SampleDraws vs

end Stages

variable {inputs : Inputs} {options : RunOptions} {config : RunConfig} {seed : UInt64}
  {typeName : String} {count : Nat} {out : Option String} {disk : Disk} {fresh : Choices}
  {e : CommandError} {vs : List Value} {g : Generator}

theorem sampleValues_of_declared {types : List (String × Descriptor)} {t : Descriptor}
    (loaded : inputs.load disk = .ok types) (declared : Fields.get? types typeName = some t) :
    sampleValues inputs config seed typeName count disk =
      (((compiler.configured config).compile t).mapError .generation).bind fun g =>
        (g.sample ⟨.seeded seed, config.maxRejects⟩ count .start).1.mapError
          fun e => .generation (.error e) := by
  unfold sampleValues
  rw [loaded]
  dsimp only [Except.mapError, bind, Except.bind]
  rw [declared]

theorem SamplesFrom.sampleValues_eq (ready : SamplesFrom inputs config typeName disk g) :
    sampleValues inputs config seed typeName count disk =
      (g.sample ⟨.seeded seed, config.maxRejects⟩ count .start).1.mapError
        fun e => .generation (.error e) := by
  obtain ⟨loaded, declared, compiled⟩ := ready
  rw [sampleValues_of_declared loaded declared, compiled]
  rfl

theorem SampleFails.values_eq (fails : SampleFails inputs config seed typeName count disk e) :
    sampleValues inputs config seed typeName count disk = .error e := by
  cases fails with
  | unloaded failed =>
    unfold sampleValues
    rw [failed]
    rfl
  | undeclared loaded unknown =>
    unfold sampleValues
    rw [loaded]
    dsimp only [Except.mapError, bind, Except.bind]
    rw [unknown]
  | uncompiled loaded declared failed =>
    rw [sampleValues_of_declared loaded declared, failed]
    rfl
  | undrawn ready lt before failed =>
    obtain ⟨after, sampled⟩ := Generator.sample_eq_error lt before failed
    rw [ready.sampleValues_eq, sampled]
    rfl

theorem SampleDraws.values_eq (draws : SampleDraws inputs config seed typeName count disk vs) :
    sampleValues inputs config seed typeName count disk = .ok vs := by
  obtain ⟨ready, length, each⟩ := draws
  obtain ⟨after, sampled⟩ := Generator.sample_eq_ok length each
  rw [ready.sampleValues_eq, sampled]
  rfl

/-- A stage fails or all succeed. -/
theorem sampleFails_or_draws (inputs : Inputs) (config : RunConfig) (seed : UInt64)
    (typeName : String) (count : Nat) (disk : Disk) :
    (∃ e, SampleFails inputs config seed typeName count disk e) ∨
      ∃ vs, SampleDraws inputs config seed typeName count disk vs := by
  cases loaded : inputs.load disk with
  | error account => exact .inl ⟨_, .unloaded loaded⟩
  | ok types =>
    cases declared : Fields.get? types typeName with
    | none => exact .inl ⟨_, .undeclared loaded declared⟩
    | some t =>
      cases compiled : (compiler.configured config).compile t with
      | error failure => exact .inl ⟨_, .uncompiled loaded declared compiled⟩
      | ok g =>
        have ready : SamplesFrom inputs config typeName disk g := .of loaded declared compiled
        rcases g.outcomes_cases ⟨.seeded seed, config.maxRejects⟩ count .start with
          ⟨vs, length, each⟩ | ⟨m, lt, before, e, failed⟩
        · exact .inr ⟨vs, .all ready length each⟩
        · exact .inl ⟨_, .undrawn ready lt before failed⟩

/-- No stage fails where all succeed. -/
theorem not_draws_iff :
    (∃ e, SampleFails inputs config seed typeName count disk e) ↔
      ∀ vs, ¬ SampleDraws inputs config seed typeName count disk vs := by
  constructor
  · intro ⟨e, fails⟩ vs draws
    cases fails.values_eq.symm.trans draws.values_eq
  · intro none
    exact (sampleFails_or_draws inputs config seed typeName count disk).resolve_right
      fun ⟨vs, draws⟩ => none vs draws

/-! ## The command -/

/-- What is saved is read. -/
theorem read_of_save {path : String} {lines : List String} {after : Disk}
    (saved : save disk path lines = (.ok (), after)) :
    after.read path = some (fileText lines) := by
  unfold save at saved
  cases made : disk.makeParent path with
  | none =>
    rw [made] at saved
    cases saved
  | some between =>
    rw [made] at saved
    dsimp only at saved
    cases wrote : between.write path (fileText lines) with
    | none =>
      rw [wrote] at saved
      cases saved
    | some after =>
      rw [wrote] at saved
      cases saved
      exact Disk.read_write wrote

section Outcomes

variable (resolved : options.resolve disk = .ok config)

include resolved

/-- What fails is told of, and nothing else comes of it. -/
theorem outcome_of_fails
    (fails : SampleFails inputs config (config.seed.getD (fresh 0)) typeName count disk e) :
    let outcome := runSample inputs options typeName count out disk fresh
    outcome.result = .error e ∧ outcome.output = [] ∧ outcome.disk = disk := by
  intro outcome
  unfold outcome runSample
  rw [resolved]
  dsimp only
  rw [sampleLines_eq, fails.values_eq]
  exact ⟨rfl, rfl, rfl⟩

theorem outcome_of_draws (out : Option String)
    (draws : SampleDraws inputs config (config.seed.getD (fresh 0)) typeName count disk vs) :
    let outcome := runSample inputs options typeName count out disk fresh
    let lines := vs.map fun v => v.json.text
    (out = none → outcome.result = .ok true ∧ outcome.output = lines ∧ outcome.disk = disk) ∧
      ∀ path, out = some path → outcome.output = [] ∧
        (∀ account after, save disk path lines = (.error account, after) →
          outcome.result = .error (.account account)) ∧
        ∀ after, save disk path lines = (.ok (), after) →
          outcome.result = .ok true ∧ outcome.disk = after := by
  intro outcome lines
  unfold outcome runSample
  rw [resolved]
  dsimp only
  rw [sampleLines_eq, draws.values_eq]
  constructor
  · rintro rfl
    exact ⟨rfl, rfl, rfl⟩
  · rintro path rfl
    dsimp only [Except.map]
    rcases save disk path lines with ⟨account | _, after⟩
    · refine ⟨rfl, fun _ _ same => ?_, fun _ same => ?_⟩
      · cases same
        rfl
      · cases same
    · refine ⟨rfl, fun _ _ same => ?_, fun _ same => ?_⟩
      · cases same
      · cases same
        exact ⟨rfl, rfl⟩

end Outcomes

/-- A sample is made whole or not at all. If a stage fails, be it the last of the draws, the command
fails, prints nothing and leaves the disk as it was. Otherwise it prints as many lines as there are
draws, or saves them in a file where that can be saved; the lines are the JSON texts of the values
drawn, and the text made of them comes apart into these at its newlines. -/
theorem sample_is_all_or_nothing (inputs : Inputs) (options : RunOptions) (typeName : String)
    (count : Nat) (out : Option String) (disk : Disk) (fresh : Choices) :
    let outcome := (Command.sample inputs options typeName count out).run disk fresh
    (∀ account, options.resolve disk = .error account →
      outcome.result = .error (.account account) ∧ outcome.output = [] ∧ outcome.disk = disk) ∧
    ∀ config, options.resolve disk = .ok config →
      let seed := config.seed.getD (fresh 0)
      -- some stage fails, or else all succeed
      ((∃ e, SampleFails inputs config seed typeName count disk e) ↔
        ∀ vs, ¬ SampleDraws inputs config seed typeName count disk vs) ∧
      (∀ e, SampleFails inputs config seed typeName count disk e →
        outcome.result = .error e ∧ outcome.output = [] ∧ outcome.disk = disk) ∧
      ∀ vs, SampleDraws inputs config seed typeName count disk vs →
        let lines := vs.map fun v => v.json.text
        -- where the lines go
        (out = none → outcome.result = .ok true ∧ outcome.output = lines ∧ outcome.disk = disk) ∧
        (∀ path, out = some path → outcome.output = [] ∧
          (∀ account after, save disk path lines = (.error account, after) →
            outcome.result = .error (.account account)) ∧
          ∀ after, save disk path lines = (.ok (), after) →
            outcome.result = .ok true ∧ outcome.disk = after ∧
              after.read path = some (fileText lines)) ∧
        -- how they come apart again
        lines.length = count ∧
        ((fileText lines).toList.splitOn '\n').map String.ofList = lines ++ [""] := by
  intro outcome
  constructor
  · intro account failed
    have told : outcome = ⟨[], [], .error (.account account), disk⟩ := by
      change runSample inputs options typeName count out disk fresh = _
      unfold runSample
      rw [failed]
    rw [told]
    exact ⟨rfl, rfl, rfl⟩
  · intro config resolved seed
    refine ⟨not_draws_iff, fun e fails => outcome_of_fails resolved fails, ?_⟩
    intro vs draws lines
    obtain ⟨printed, saved⟩ := outcome_of_draws resolved out draws
    refine ⟨printed, ?_, ?_, ?_⟩
    · intro path given
      obtain ⟨silent, fails, succeeds⟩ := saved path given
      refine ⟨silent, fails, fun after ok => ?_⟩
      exact ⟨(succeeds after ok).1, (succeeds after ok).2, read_of_save ok⟩
    · obtain ⟨_, length, _⟩ := draws
      exact (List.length_map _).trans length
    · apply splitOn_fileText
      intro line mem
      obtain ⟨v, _, rfl⟩ := List.mem_map.mp mem
      exact v.json.newline_notMem_text

/-- Three values of the door are saved in a directory that is made for them. The wall starves, and
not even the directory is made. -/
theorem door_saved_wall_not :
    (((Command.sample houseInputs houseOptions "door" 3 (some "drawn/door")).run
      house (.seeded 0)).disk.read "drawn/door" = some (fileText ["true", "true", "false"])) ∧
    ∃ e, ((Command.sample houseInputs houseOptions "wall" 3 (some "drawn/wall")).run
        house (.seeded 0)).result = .error e ∧
      ((Command.sample houseInputs houseOptions "wall" 3 (some "drawn/wall")).run
        house (.seeded 0)).disk = house := by
  have resolved : houseOptions.resolve house = .ok ⟨2, some 7, none, 1⟩ := rfl
  constructor
  · have draws : SampleDraws houseInputs ⟨2, some 7, none, 1⟩ 7 "door" 3 house
        [.bool true, .bool true, .bool false] := by
      refine .all (.of load_house rfl rfl) rfl fun i v there => ?_
      rcases i with _ | _ | _ | i
      · exact Option.some.inj there ▸ rfl
      · exact Option.some.inj there ▸ rfl
      · exact Option.some.inj there ▸ rfl
      · cases there
    have kept : (save house "drawn/door" ["true", "true", "false"]).1 = .ok () := by cbv
    obtain ⟨_, made⟩ := sample_is_all_or_nothing houseInputs houseOptions "door" 3
      (some "drawn/door") house (.seeded 0)
    obtain ⟨_, _, whole⟩ := made _ resolved
    obtain ⟨_, saved, _⟩ := whole _ draws
    obtain ⟨_, _, saved⟩ := saved "drawn/door" rfl
    obtain ⟨_, disk, read⟩ := saved _ (Prod.ext kept rfl)
    rw [disk, read]
    rfl
  · obtain ⟨g, compiled, starves⟩ : ∃ g,
        (compiler.configured ⟨2, some 7, none, 1⟩).compile (.node 2 (.intersect
          [.node 0 .void, .node 1 .boolean])) = .ok g ∧
        ∃ e, g.outcome ⟨.seeded 7, 1⟩ 0 .start = .error e := ⟨_, rfl, _, rfl⟩
    obtain ⟨e, starves⟩ := starves
    have fails : SampleFails houseInputs ⟨2, some 7, none, 1⟩ 7 "wall" 3 house
        (.generation (.error e)) :=
      .undrawn (.of load_house rfl compiled) (Nat.succ_pos 2)
        (fun i lt => absurd lt (Nat.not_lt_zero i)) starves
    obtain ⟨_, made⟩ := sample_is_all_or_nothing houseInputs houseOptions "wall" 3
      (some "drawn/wall") house (.seeded 0)
    obtain ⟨_, failed, _⟩ := made _ resolved
    obtain ⟨told, _, kept⟩ := failed _ fails
    exact ⟨_, told, kept⟩

end Command

end Specimen
