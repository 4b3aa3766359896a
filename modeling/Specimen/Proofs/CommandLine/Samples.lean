import Specimen.Proofs.Check.Samples
import Specimen.Proofs.CommandLine.Checks
import Specimen.Proofs.Fields

/-!
# Samples of what was checked

A seed that a check reports makes a sample of the values that the check drew
(`sample_reproduces_check`). Both commands load the inputs, find the type, compile it under the same
size bound and draw from the same choices within the same budget; what there is to show is that each
of them can be said by the draws of the type alone (`Compiler.drawn`), and from there on it is a
matter of lists.
-/

namespace Specimen

namespace RunOptions

variable {options : RunOptions} {disk : Disk} {config : RunConfig}

/-- A number of trials given with the options takes the place of any other. -/
theorem resolve_withCases (resolved : options.resolve disk = .ok config) (n : Nat) :
    { options with cases := some n }.resolve disk = .ok (config.withCases n) := by
  unfold resolve at resolved ⊢
  dsimp only
  cases given : options.config with
  | none =>
    rw [given] at resolved
    cases resolved
    rfl
  | some path =>
    rw [given] at resolved
    dsimp only at resolved ⊢
    cases read : disk.read path with
    | none =>
      rw [read] at resolved
      cases resolved
    | some text =>
      rw [read] at resolved
      dsimp only at resolved ⊢
      cases said : RunConfig.read text with
      | error complaint =>
        rw [said] at resolved
        cases resolved
      | ok base =>
        rw [said] at resolved
        cases resolved
        rfl

end RunOptions

namespace Command

/-- The values of a sample. -/
def sampleValues (inputs : Inputs) (config : RunConfig) (seed : UInt64) (typeName : String)
    (count : Nat) (disk : Disk) : Except CommandError (List Value) := do
  let types ← (inputs.load disk).mapError .account
  match Fields.get? types typeName with
  | none => .error (.account [.text ("no type named `" ++ typeName ++ "`")])
  | some t =>
    let g ← ((compiler.configured config).compile t).mapError .generation
    (g.sample ⟨.seeded seed, config.maxRejects⟩ count .start).1.mapError
      fun e => .generation (.error e)

variable {inputs : Inputs} {options : RunOptions} {disk : Disk} {config : RunConfig} {seed : UInt64}
  {typeName : String} {count : Nat} {types : List (String × Descriptor)} {t : Descriptor}

/-- The lines of a sample are the JSON texts of its values. -/
theorem sampleLines_eq : sampleLines inputs config seed typeName count disk =
    (sampleValues inputs config seed typeName count disk).map fun vs =>
      vs.map fun v => v.json.text := by
  unfold sampleLines sampleValues
  cases inputs.load disk with
  | error account => rfl
  | ok types =>
    dsimp only [Except.mapError, bind, Except.bind]
    cases Fields.get? types typeName with
    | none => rfl
    | some t =>
      dsimp only
      cases (compiler.configured config).compile t with
      | error failure => rfl
      | ok g =>
        dsimp only
        cases (g.sample ⟨.seeded seed, config.maxRejects⟩ count .start).1 with
        | error e => rfl
        | ok vs => rfl

/-- The values of a sample are all the values drawn, unless there is a failure to tell of. -/
theorem sampleValues_eq (loaded : inputs.load disk = .ok types)
    (declared : Fields.get? types typeName = some t) :
    sampleValues inputs config seed typeName count disk =
      match compiler.drawn t config seed count with
      | (vs, none) => .ok vs
      | (_, some failure) => .error (.generation failure) := by
  unfold sampleValues Compiler.drawn
  rw [loaded]
  dsimp only [Except.mapError, bind, Except.bind]
  rw [declared]
  dsimp only
  cases (compiler.configured config).compile t with
  | error failure => rfl
  | ok g =>
    dsimp only
    rw [Generator.sample_eq_drawn]
    rcases g.drawn ⟨.seeded seed, config.maxRejects⟩ count .start with ⟨vs, _ | e⟩
    · rfl
    · rfl

/-- With a seed given, the command prints the sample, or tells of its failure. -/
theorem runSample_eq (resolved : options.resolve disk = .ok config)
    (fixed : config.seed = some seed) (fresh : Choices) :
    runSample inputs options typeName count none disk fresh =
      match sampleValues inputs config seed typeName count disk with
      | .ok vs => ⟨vs.map fun v => v.json.text, [], .ok true, disk⟩
      | .error e => ⟨[], [], .error e, disk⟩ := by
  rw [runSample, resolved]
  dsimp only
  rw [fixed, Option.getD_some, sampleLines_eq]
  cases sampleValues inputs config seed typeName count disk with
  | error e => rfl
  | ok vs => rfl

/-- A sample of `n` values under the settings of a check of `n` trials has the values that the check
puts to the test, up to where the check stops. So it fails exactly if the check does, or would if it
accepted everything, and for the same reason: the type does not compile, or the budget is spent. The
check passes exactly if the sample succeeds and the guard accepts all its values. A counterexample is
the value of its trial in every sample that is long enough. -/
theorem sample_reproduces_check (loaded : inputs.load disk = .ok types)
    (declared : Fields.get? types typeName = some t) (resolved : options.resolve disk = .ok config)
    (fixed : config.seed = some seed) (fresh : Choices) (n : Nat) :
    let sampled := fun m : Nat => sampleValues inputs config seed typeName m disk
    let drawn := (compiler.drawn t config seed n).1
    let checked := report (config.withCases n) seed types
    let verdict := compiler.check t (config.withCases n) seed
    let recorded := compiler.recordedCheck t.guard t (config.withCases n) seed
    let undeterred := (compiler.recordedCheck (fun _ => true) t (config.withCases n) seed).2
    -- what the two commands tell
    (runSample inputs options typeName n none disk fresh =
      match sampled n with
      | .ok vs => ⟨vs.map fun v => v.json.text, [], .ok true, disk⟩
      | .error e => ⟨[], [], .error e, disk⟩) ∧
    (runCheck inputs { options with cases := some n } none disk fresh).output =
      checked.map Prod.snd ∧
    (typeName, verdictLine typeName verdict) ∈ checked ∧
    -- the values drawn by one and examined by the other
    (∀ vs, sampled n = .ok vs → drawn = vs) ∧
    recorded = (Check.upToRejected t.guard drawn, verdict) ∧
    -- failures
    (∀ e, sampled n = .error e ↔
      ∃ failure, e = .generation failure ∧ undeterred = .error failure) ∧
    (∀ failure, undeterred = .error failure →
      (compiler.configured config).compile t = .error failure ∨
        ∃ reason, failure = .error (.retryBudgetExceeded reason)) ∧
    (verdict = undeterred ∨
      ∃ trial v, verdict = .error (.error (.counterexampleFound trial seed v))) ∧
    -- passed checks
    (∀ passed, verdict = .ok passed ↔
      passed = ⟨n, seed⟩ ∧ ∃ vs, sampled n = .ok vs ∧ ∀ v ∈ vs, t.guard v = true) ∧
    -- counterexamples
    (∀ trial s v, verdict = .error (.error (.counterexampleFound trial s v)) →
      ∀ m, trial ≤ m → ∀ vs, sampled m = .ok vs →
        s = seed ∧ 1 ≤ trial ∧ vs[trial - 1]? = some v) := by
  intro sampled drawn checked verdict recorded undeterred
  have told : ∀ m, sampled m = match compiler.drawn t config seed m with
      | (vs, none) => .ok vs
      | (_, some failure) => .error (.generation failure) :=
    fun m => sampleValues_eq loaded declared
  have succeeds : ∀ m vs, sampled m = .ok vs ↔ compiler.drawn t config seed m = (vs, none) := by
    intro m vs
    rw [told]
    rcases compiler.drawn t config seed m with ⟨ws, _ | failure⟩
    · simp
    · simp
  have everything : undeterred =
      (compiler.drawn t config seed n).2.elim (.ok ⟨n, seed⟩) .error :=
    Compiler.recordedCheck_everything n
  have fails : ∀ failure, undeterred = .error failure ↔
      (compiler.drawn t config seed n).2 = some failure := by
    intro failure
    rw [everything]
    cases (compiler.drawn t config seed n).2 with
    | none => simp
    | some _ => simp
  refine ⟨runSample_eq resolved fixed fresh, ?_, ?_, ?_, ?_, ?_, ?_, ?_, ?_, ?_⟩
  · exact output_of_whole loaded (RunOptions.resolve_withCases resolved n) fixed
  · exact List.mem_map.mpr ⟨(typeName, t), Fields.mem_of_get? declared, rfl⟩
  · intro vs drew
    exact congrArg Prod.fst ((succeeds n vs).mp drew)
  · refine Prod.ext ?_ Compiler.recordedCheck_guard
    change (compiler.recordedCheck t.guard t (config.withCases n) seed).1 = _
    rw [Compiler.recordedCheck_eq]
  · intro e
    simp only [fails, told]
    rcases compiler.drawn t config seed n with ⟨ws, _ | failure⟩
    · simp
    · simp [eq_comm]
  · exact fun failure failed => Compiler.failure_of_drawn ((fails failure).mp failed)
  · rcases Compiler.check_eq_or_counterexample n with same | ⟨i, v, _, _, comes⟩
    · exact .inl same
    · exact .inr ⟨i + 1, v, comes⟩
  · intro passed
    rw [Compiler.check_eq_ok]
    refine and_congr_right fun _ => ⟨?_, ?_⟩
    · rintro ⟨whole, accepted⟩
      exact ⟨drawn, (succeeds n drawn).mpr (Prod.ext rfl whole), accepted⟩
    · rintro ⟨vs, drew, accepted⟩
      rw [(succeeds n vs).mp drew]
      exact ⟨rfl, accepted⟩
  · intro trial s v found m le vs drew
    obtain ⟨i, rfl, rfl, there⟩ := Compiler.exists_drawn_of_counterexample found le
      (congrArg Prod.snd ((succeeds m vs).mp drew))
    rw [(succeeds m vs).mp drew] at there
    exact ⟨rfl, Nat.succ_pos i, there⟩

/-- Three values of the door are printed, and they are those that a check of three trials puts to
the test and accepts. -/
theorem door_sampled_as_checked :
    (runSample houseInputs houseOptions "door" 3 none house (.seeded 0)).output =
      ["true", "true", "false"] ∧
    compiler.recordedCheck (Descriptor.guard (.node 3 .boolean)) (.node 3 .boolean)
        (RunConfig.withCases ⟨2, some 7, none, 1⟩ 3) 7 =
      ([.bool true, .bool true, .bool false], .ok ⟨3, 7⟩) := by
  have declared : Fields.get? houseTypes "door" = some (.node 3 .boolean) := rfl
  have resolved : houseOptions.resolve house = .ok ⟨2, some 7, none, 1⟩ := rfl
  obtain ⟨printed, _, _, same, examined, _, _, _, passes, _⟩ :=
    sample_reproduces_check load_house declared resolved rfl (.seeded 0) 3
  have sampled : sampleValues houseInputs ⟨2, some 7, none, 1⟩ 7 "door" 3 house =
      .ok [.bool true, .bool true, .bool false] := by
    rw [sampleValues_eq load_house declared]
    rfl
  have passed := (passes ⟨3, 7⟩).mpr ⟨rfl, _, sampled, by decide⟩
  dsimp only at printed
  refine ⟨?_, ?_⟩
  · rw [printed, sampled]
    rfl
  · rw [examined, same _ sampled, passed]
    rfl

end Command

end Specimen
