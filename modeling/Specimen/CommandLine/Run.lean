import Specimen.Account
import Specimen.Check.Verdict
import Specimen.CommandLine.Arguments
import Specimen.Compiler.Contains
import Specimen.Files.Glob
import Specimen.Json.Writer
import Specimen.Regex.Text

/-!
# Running commands

What a command does, as a function of the files it sees and of a stream of seeds for runs that are
given none. All declarations of all inputs are lowered together, so references may cross files.

A command prints nothing on its output before it has succeeded, save the lines of a check, which are
its result. A sample that fails in any of its draws prints and saves nothing.
-/

namespace Specimen

/-- Why a command failed. -/
inductive CommandError
  | account (account : Account)
  | generation (failure : Failure)

namespace CommandError

/-- What is told of an error. -/
def links : CommandError → Account
  | account a => a
  | generation failure => [.text failure.message]

end CommandError

/-- What a command printed, line by line, how it ended, and the files after it. -/
structure Outcome where
  output : List String
  notes : List String
  /-- Whether all checks passed. -/
  result : Except CommandError Bool
  disk : Disk

namespace Inputs

/-- The paths that one input stands for. -/
def expand (disk : Disk) (input : String) : Except Account (List String) :=
  if Glob.isPattern input then
    match Glob.expand disk input with
    | none => .error [.cause .badGlob]
    | some [] => .error [.text ("glob pattern matched no files: " ++ input)]
    | some paths => .ok paths
  else .ok [input]

/-- The paths that all inputs stand for, in order. -/
def paths (inputs : Inputs) (disk : Disk) : Except Account (List String) := do
  return (← inputs.patterns.mapM (expand disk)).flatten

/-- The document at a path. -/
def documentAt (inputs : Inputs) (disk : Disk) (path : String) : Except Account Document :=
  match disk.read path with
  | none => .error [.text ("failed to read " ++ path), .cause .inaccessible]
  | some text =>
    match Document.load text inputs.pointer with
    | .ok document => .ok document
    | .error e => .error [.text ("failed to parse " ++ path), e.link]

/-- Declarations added to others; no name may be declared twice. -/
def merge (path : String) : Document → Document → Except Account Document
  | merged, [] => .ok merged
  | merged, (name, declaration) :: rest =>
    if Fields.has merged name then
      .error [.text ("type `" ++ name ++ "` declared twice (again in " ++ path ++ ")")]
    else merge path (merged ++ [(name, declaration)]) rest

/-- The declarations at paths, one path after the other. -/
def gather (inputs : Inputs) (disk : Disk) : Document → List String → Except Account Document
  | merged, [] => .ok merged
  | merged, path :: rest => do
    let document ← inputs.documentAt disk path
    gather inputs disk (← merge path merged document) rest

/-- All declarations of the inputs. -/
def document (inputs : Inputs) (disk : Disk) : Except Account Document := do
  inputs.gather disk [] (← inputs.paths disk)

/-- All types of the inputs. -/
def load (inputs : Inputs) (disk : Disk) : Except Account (List (String × Descriptor)) := do
  match (← inputs.document disk).lower 0 with
  | .ok (types, _) => return types
  | .error e => .error e.account

end Inputs

namespace RunOptions

/-- A configuration with the options that are given. -/
def override (options : RunOptions) (config : RunConfig) : RunConfig :=
  ⟨options.cases.getD config.cases, options.seed.or config.seed,
    options.maxSize.or config.maxSize, options.maxRejects.getD config.maxRejects⟩

/-- The configuration that a run is to have. -/
def resolve (options : RunOptions) (disk : Disk) : Except Account RunConfig :=
  match options.config with
  | none => .ok (options.override .default)
  | some path =>
    match disk.read path with
    | none => .error [.text ("failed to read " ++ path), .cause .inaccessible]
    | some text =>
      match RunConfig.read text with
      | .ok config => .ok (options.override config)
      | .error complaint => .error [.text ("invalid run config " ++ path), complaint.link]

end RunOptions

namespace Command

/-- The compiler of every command: the one that knows how to fill arrays. -/
def compiler : Compiler := Contains.register .new

/-! ## Checking -/

/-- The line about a type that was checked. -/
def verdictLine (name : String) : Except Failure Report → String
  | .ok report =>
    "pass " ++ name ++ " (" ++ toString report.cases ++ " cases, seed " ++
      toString report.seed.toNat ++ ")"
  | .error failure => "FAIL " ++ name ++ ": " ++ failure.message

/-- The verdict on each type, from the one numbered `index` on. Every check starts a run of its own,
with the blame that the check before it has left. -/
def verdicts (config : RunConfig) (fresh : Choices) :
    Nat → Option String → List (String × Descriptor) → List (String × Except Failure Report)
  | _, _, [] => []
  | index, blamed, (name, t) :: rest =>
    let seed := config.seed.getD (fresh index)
    let (verdict, after) := compiler.checkFrom t config seed (.startBlaming blamed)
    (name, verdict) :: verdicts config fresh (index + 1) after.blamed rest

/-- Whether a name is to be checked. -/
def selects (only : Option Regex) (name : String) : Bool :=
  match only with
  | some r => r.isMatch name
  | none => true

/-- The expression that selects names, if there is one. -/
def selection : Option String → Except Account (Option Regex)
  | none => .ok none
  | some text =>
    match Regex.parse text with
    | some r => .ok (some r)
    | none => .error [.cause .badRegex]

/-- What a check needs: the configuration, and the types selected. -/
def prepareCheck (inputs : Inputs) (options : RunOptions) (only : Option String) (disk : Disk) :
    Except Account (RunConfig × List (String × Descriptor)) := do
  let only ← selection only
  let config ← options.resolve disk
  let types ← inputs.load disk
  return (config, types.filter fun entry => selects only entry.1)

def runCheck (inputs : Inputs) (options : RunOptions) (only : Option String) (disk : Disk)
    (fresh : Choices) : Outcome :=
  match prepareCheck inputs options only disk with
  | .error account => ⟨[], [], .error (.account account), disk⟩
  | .ok (config, types) =>
    let verdicts := verdicts config fresh 0 none types
    ⟨verdicts.map fun (name, verdict) => verdictLine name verdict,
      if types.isEmpty then ["warning: no types selected"] else [],
      .ok (verdicts.all fun entry => entry.2.isOk), disk⟩

/-! ## Sampling -/

/-- The lines of a sample: the JSON texts of all values drawn. -/
def sampleLines (inputs : Inputs) (config : RunConfig) (seed : UInt64) (typeName : String)
    (count : Nat) (disk : Disk) : Except CommandError (List String) := do
  let types ← (inputs.load disk).mapError .account
  match Fields.get? types typeName with
  | none => .error (.account [.text ("no type named `" ++ typeName ++ "`")])
  | some t =>
    let g ← ((compiler.configured config).compile t).mapError .generation
    match (g.sample ⟨.seeded seed, config.maxRejects⟩ count .start).1 with
    | .ok values => return values.map fun v => v.json.text
    | .error e => .error (.generation (.error e))

/-- Lines as the text of a file. -/
def fileText (lines : List String) : String := String.join (lines.map (· ++ "\n"))

/-- Saves lines in a file, making the directory it lies in; and the files after that. -/
def save (disk : Disk) (path : String) (lines : List String) : Except Account Unit × Disk :=
  match disk.makeParent path with
  | none => (.error [.cause .inaccessible], disk)
  | some disk =>
    match disk.write path (fileText lines) with
    | none => (.error [.text ("failed to write " ++ path), .cause .inaccessible], disk)
    | some disk => (.ok (), disk)

def runSample (inputs : Inputs) (options : RunOptions) (typeName : String) (count : Nat)
    (out : Option String) (disk : Disk) (fresh : Choices) : Outcome :=
  match options.resolve disk with
  | .error account => ⟨[], [], .error (.account account), disk⟩
  | .ok config =>
    let seed := config.seed.getD (fresh 0)
    let notes :=
      if config.seed.isSome then [] else ["note: sampling with seed " ++ toString seed.toNat]
    match sampleLines inputs config seed typeName count disk with
    | .error e => ⟨[], notes, .error e, disk⟩
    | .ok lines =>
      match out with
      | none => ⟨lines, notes, .ok true, disk⟩
      | some path =>
        match save disk path lines with
        | (.ok (), disk) => ⟨[], notes, .ok true, disk⟩
        | (.error account, disk) => ⟨[], notes, .error (.account account), disk⟩

/-- Runs a command on the files of a disk, with seeds for runs that are given none. -/
def run (command : Command) (disk : Disk) (fresh : Choices) : Outcome :=
  match command with
  | .check inputs options only => runCheck inputs options only disk fresh
  | .sample inputs options typeName count out =>
    runSample inputs options typeName count out disk fresh

end Command

namespace Outcome

/-- The exit code of a program that ends so. -/
def exitCode (outcome : Outcome) : UInt8 :=
  match outcome.result with
  | .ok true => 0
  | .ok false => 1
  | .error _ => 2

/-- Everything printed beside the output, with causes in given words. -/
def messages (outcome : Outcome) (words : Cause → String) : List String :=
  match outcome.result with
  | .ok _ => outcome.notes
  | .error e => outcome.notes ++ ["error: " ++ Account.line words e.links]

end Outcome

end Specimen
