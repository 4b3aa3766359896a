import Mathlib
import Specimen.CommandLine.Run
import Specimen.Proofs.Check.Trials
import Specimen.Proofs.Compiler.Renumbered

/-!
# Checks of many types

One check prints a line for each type, one type after the other, and the checks share a thread, on
which each of them leaves the blame of its last rejection. Nothing else is shared, and the blame is
forgotten before anything is drawn. So with a fixed seed every line is the line that its type has
when it is checked alone, and to select some types is to select their lines
(`checks_are_independent`). What a type has from the types around it are the numbers of its nodes,
which make no difference (`Specimen.Proofs.Compiler.Renumbered`).

The induction is on the types, for every blame that is left when the first of them is checked.
-/

namespace Specimen

namespace Check

variable {accepts : Value → Bool} {seed : UInt64} {g : Generator} {source : Source} {run : Run}

/-- What trials come to is no matter of the blame from before the first of them. -/
theorem trials_of_blamed (left trial : Nat) (blamed : Option String) :
    (trials accepts seed g source left trial { run with blamed := blamed }).1 =
      (trials accepts seed g source left trial run).1 := by
  cases left with
  | zero => rfl
  | succ left =>
    have forgotten : g.next source { run with blamed := blamed } = g.next source run := rfl
    rw [trials, trials, forgotten]

end Check

namespace Compiler

variable {c : Compiler} {t : Descriptor} {config : RunConfig} {seed : UInt64}

/-- A check on a thread that others have used has the verdict of a check on a new one. -/
theorem checkFrom_startBlaming (blamed : Option String) :
    (c.checkFrom t config seed (.startBlaming blamed)).1 = c.check t config seed := by
  unfold check
  cases compiled : (c.configured config).compile t with
  | error failure => rw [checkFrom, checkFrom, compiled]
  | ok g =>
    rw [verdict_of_compiles config compiled, verdict_of_compiles config compiled, Run.startBlaming,
      Check.trials_of_blamed]

end Compiler

namespace Command

variable {config : RunConfig} {seed : UInt64} {fresh : Choices}

/-- With a fixed seed, each type has the verdict of its own check, wherever among the types it stands
and whatever the checks before it have left. -/
theorem verdicts_eq (fixed : config.seed = some seed) :
    ∀ (types : List (String × Descriptor)) (index : Nat) (blamed : Option String),
      verdicts config fresh index blamed types =
        types.map fun entry => (entry.1, compiler.check entry.2 config seed)
  | [], _, _ => rfl
  | (name, t) :: rest, index, blamed => by
    have own : (compiler.checkFrom t config seed (.startBlaming blamed)).1 =
        compiler.check t config seed := Compiler.checkFrom_startBlaming blamed
    rw [verdicts, fixed, Option.getD_some, List.map_cons, ← own]
    rcases compiler.checkFrom t config seed (.startBlaming blamed) with ⟨verdict, after⟩
    exact congrArg _ (verdicts_eq fixed rest (index + 1) after.blamed)

/-- Nothing that the commands' compiler has registered looks at identities. -/
theorem compiler_ignoresIdentities {f : Nat → Nat} :
    (compiler.configured config).IgnoresIdentities f := by
  have each (maxSize : Nat) : (compiler.withMaxSize maxSize).IgnoresIdentities f :=
    { extension := nofun
      constraint := fun registered node => by
        cases List.mem_singleton.mp registered
        exact Compiler.contains_renumber _ node
      rule := nofun
      intersection := nofun }
  unfold Compiler.configured
  split
  · exact each _
  · exact each compiler.maxSize

/-- The lines about types, each with the name of its type. -/
def report (config : RunConfig) (seed : UInt64) (types : List (String × Descriptor)) :
    List (String × String) :=
  types.map fun entry => (entry.1, verdictLine entry.1 (compiler.check entry.2 config seed))

/-- A line that says that a check failed. -/
def IsFailure (line : String) : Prop := ∃ rest, line = "FAIL " ++ rest

theorem isFailure_verdictLine {name : String} {verdict : Except Failure Report} :
    IsFailure (verdictLine name verdict) ↔ verdict.isOk = false := by
  cases verdict with
  | ok report =>
    refine iff_of_false ?_ nofun
    rintro ⟨rest, same⟩
    have texts := congrArg String.toList same
    simp [verdictLine, String.toList_append] at texts
  | error failure =>
    refine iff_of_true ⟨name ++ ": " ++ failure.message, ?_⟩ rfl
    simp only [verdictLine, String.append_assoc]

section Run

variable {inputs : Inputs} {options : RunOptions} {disk : Disk} {only : Option String}
  {types : List (String × Descriptor)} {pattern : Option Regex}

theorem prepareCheck_eq_ok (loaded : inputs.load disk = .ok types)
    (resolved : options.resolve disk = .ok config) (selected : selection only = .ok pattern) :
    prepareCheck inputs options only disk =
      .ok (config, types.filter fun entry => selects pattern entry.1) := by
  rw [prepareCheck, selected, resolved, loaded]
  rfl

/-- A check of what loads prints the report on the types selected. -/
theorem output_of_runCheck (loaded : inputs.load disk = .ok types)
    (resolved : options.resolve disk = .ok config) (fixed : config.seed = some seed)
    (selected : selection only = .ok pattern) :
    (runCheck inputs options only disk fresh).output =
      ((report config seed types).filter fun entry => selects pattern entry.1).map Prod.snd := by
  rw [runCheck, prepareCheck_eq_ok loaded resolved selected]
  simp only [verdicts_eq fixed, report, List.filter_map, List.map_map]
  rfl

/-- With no pattern, it prints the whole report. -/
theorem output_of_whole (loaded : inputs.load disk = .ok types)
    (resolved : options.resolve disk = .ok config) (fixed : config.seed = some seed) :
    (runCheck inputs options none disk fresh).output =
      (report config seed types).map Prod.snd := by
  have everything : selection none = .ok none := rfl
  rw [output_of_runCheck loaded resolved fixed everything]
  exact congrArg _ (List.filter_true _)

/-- It fails exactly if one of the lines says so. -/
theorem result_of_runCheck (loaded : inputs.load disk = .ok types)
    (resolved : options.resolve disk = .ok config) (selected : selection only = .ok pattern) :
    ∃ passed, (runCheck inputs options only disk fresh).result = .ok passed ∧
      (passed = true ↔
        ∀ line ∈ (runCheck inputs options only disk fresh).output, ¬ IsFailure line) := by
  rw [runCheck, prepareCheck_eq_ok loaded resolved selected]
  refine ⟨_, rfl, ?_⟩
  simp only [List.all_eq_true, List.forall_mem_map, isFailure_verdictLine, Bool.not_eq_false]

end Run

/-- With a fixed seed, a check prints of each type the line that it prints of the type alone. Its
lines under a pattern are the lines without one that are about matching names, in their order; and it
succeeds exactly if none of its lines says that a check failed. A type has its verdict after any
other checks on the thread, and whatever its nodes were numbered among those of other types. -/
theorem checks_are_independent {inputs : Inputs} {options : RunOptions} {disk : Disk}
    {types : List (String × Descriptor)} (loaded : inputs.load disk = .ok types)
    (resolved : options.resolve disk = .ok config) (fixed : config.seed = some seed)
    {only : Option String} {pattern : Option Regex} (selected : selection only = .ok pattern)
    (fresh : Choices) :
    let report := report config seed types
    let whole := runCheck inputs options none disk fresh
    let outcome := runCheck inputs options only disk fresh
    whole.output = report.map Prod.snd ∧
    outcome.output = (report.filter fun entry => selects pattern entry.1).map Prod.snd ∧
    (∃ passed, outcome.result = .ok passed ∧
      (passed = true ↔ ∀ line ∈ outcome.output, ¬ IsFailure line)) ∧
    (∀ (others : List (String × Descriptor)) (index : Nat) (blamed : Option String),
      verdicts config fresh index blamed others =
        others.map fun entry => (entry.1, compiler.check entry.2 config seed)) ∧
    ∀ (f : Nat → Nat), Function.Injective f → ∀ t : Descriptor,
      compiler.check (t.renumber f) config seed = compiler.check t config seed := by
  exact ⟨output_of_whole loaded resolved fixed, output_of_runCheck loaded resolved fixed selected,
    result_of_runCheck loaded resolved selected, verdicts_eq fixed,
    fun _ apart => Compiler.check_renumber compiler_ignoresIdentities apart⟩

/-- A wall that is nothing, as nothing is both of two kinds, and a door. -/
def houseText : String :=
  "\x7b\"wall\":\x7b\"tag\":\"intersect\",\"intersectees\":" ++
    "[\x7b\"tag\":\"void\"\x7d,\x7b\"tag\":\"boolean\"\x7d]\x7d," ++
    "\"door\":\x7b\"tag\":\"boolean\"\x7d\x7d"

def house : Disk := ⟨[], [(["house.json"], houseText)], []⟩

def houseInputs : Inputs := ⟨none, ["house.json"]⟩

def houseTypes : List (String × Descriptor) :=
  [("wall", .node 2 (.intersect [.node 0 .void, .node 1 .boolean])), ("door", .node 3 .boolean)]

theorem load_house : houseInputs.load house = .ok houseTypes := by
  have present : house.read "house.json" = some houseText := by cbv
  have parsed : Document.load houseText none =
      .ok [("wall", .intersect [.void, .boolean]), ("door", .boolean)] := by cbv
  have lowered : Document.lower [("wall", .intersect [.void, .boolean]), ("door", .boolean)] 0 =
      .ok (houseTypes, 4) := by
    unfold houseTypes
    cbv
  have gathered : houseInputs.document house =
      .ok [("wall", .intersect [.void, .boolean]), ("door", .boolean)] := by
    change Inputs.gather _ _ _ ["house.json"] = _
    rw [Inputs.gather, Inputs.documentAt, present]
    dsimp only
    rw [houseInputs, parsed]
    rfl
  rw [Inputs.load, gathered]
  dsimp only [bind, Except.bind]
  rw [lowered]
  rfl

/-- Two trials with a seed, and one rejection for each check. -/
def houseOptions : RunOptions := ⟨none, some 2, some 7, none, some 1⟩

/-- The wall starves, which is nothing to the door after it. -/
theorem door_stands_alone :
    (runCheck houseInputs houseOptions none house (.seeded 0)).output =
      ["FAIL wall: retry budget exceeded: no draw satisfied every intersectee of " ++
        "`boolean & void` (Too many local rejects)", "pass door (2 cases, seed 7)"] ∧
    (runCheck houseInputs houseOptions (some "^d") house (.seeded 0)).output =
      ["pass door (2 cases, seed 7)"] := by
  have resolved : houseOptions.resolve house = .ok ⟨2, some 7, none, 1⟩ := rfl
  have selected : selection (some "^d") = .ok (Regex.parse "^d") := by cbv
  obtain ⟨whole, part, _⟩ := checks_are_independent load_house resolved rfl selected (.seeded 0)
  have wall : selects (Regex.parse "^d") "wall" = false := by cbv
  have door : selects (Regex.parse "^d") "door" = true := by cbv
  refine ⟨whole.trans rfl, part.trans ?_⟩
  simp only [report, houseTypes, List.map_cons, List.map_nil, List.filter_cons, wall, door]
  rfl

end Command

end Specimen
