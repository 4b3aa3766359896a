import Specimen.CommandLine.Options

/-!
# Arguments

The command line of the program: a subcommand, `check` or `sample`, with its options. The option
`--verbose` may stand before the subcommand or after it; `help` tells about the subcommands.
-/

namespace Specimen

/-- Where declarations come from. -/
structure Inputs where
  /-- The place of the document in each text. -/
  pointer : Option String
  /-- Paths, or patterns of paths. -/
  patterns : List String

/-- How to run: a file of options, and options that override it. -/
structure RunOptions where
  config : Option String
  cases : Option Nat
  seed : Option UInt64
  maxSize : Option Nat
  maxRejects : Option Nat

inductive Command
  /-- Checks every type, or those whose name an expression matches. -/
  | check (inputs : Inputs) (options : RunOptions) (only : Option String)
  /-- Prints values of one type, or saves them in a file. -/
  | sample (inputs : Inputs) (options : RunOptions) (typeName : String) (count : Nat)
      (out : Option String)

structure Invocation where
  verbose : Bool
  command : Command

namespace Arguments

/-! ## Whole numbers -/

/-- A whole number in digits. -/
def digits (cs : List Char) : Option Nat :=
  if cs.isEmpty then none
  else
    cs.foldlM (fun n c => if c.isDigit then some (10 * n + (c.toNat - '0'.toNat)) else none) 0

/-- A whole number below `2 ^ 64`, with or without a plus sign. -/
def word (text : String) : Option Nat :=
  let n :=
    match text.toList with
    | '+' :: rest => digits rest
    | cs => digits cs
  n.filter fun n => n < 0x10000000000000000

/-- A whole number below `2 ^ 32`, with or without a sign. -/
def halfWord (text : String) : Option Nat :=
  let n :=
    match text.toList with
    | '+' :: rest => digits rest
    | '-' :: rest => (digits rest).filter fun n => n == 0
    | cs => digits cs
  n.filter fun n => n < 0x100000000

/-! ## Options -/

def verbose : OptionDecl := .flag "verbose" (some 'v')

def help : OptionDecl := .asking "help" 'h' .displayHelp

def version : OptionDecl := .asking "version" 'V' .displayVersion

/-- An option whose value is a path. -/
def path (name : String) (short : Option Char) : OptionDecl :=
  .tested name short (fun v => !v.isEmpty) .emptyValue

def wordOption (name : String) (short : Option Char) : OptionDecl :=
  .tested name short (fun v => (word v).isSome) .malformedValue

def halfWordOption (name : String) : OptionDecl :=
  .tested name none (fun v => (halfWord v).isSome) .malformedValue

/-- The options of both subcommands. -/
def common : List OptionDecl :=
  [.text "json-pointer", ⟨"input", some 'i', .many, fun _ => none, none⟩, path "config" none,
    halfWordOption "cases", wordOption "seed" none, wordOption "max-size" none,
    halfWordOption "max-rejects", verbose, help]

def checkOptions : List OptionDecl := common ++ [.text "only"]

def sampleOptions : List OptionDecl :=
  common ++ [.text "type", wordOption "count" (some 'n'), path "out" (some 'o')]

/-- How many values are printed unless a number is given. -/
def defaultCount : Nat := 10

/-! ## Subcommands -/

/-- The last value of an option. -/
def value? (given : Given) (name : String) : Option String :=
  (Fields.get? given name).bind List.getLast?

def inputs (given : Given) : Except UsageError Inputs :=
  match Fields.get? given "input" with
  | some patterns => .ok ⟨value? given "json-pointer", patterns⟩
  | none => .error .missingOption

def runOptions (given : Given) : RunOptions :=
  ⟨value? given "config", (value? given "cases").bind halfWord,
    ((value? given "seed").bind word).map UInt64.ofNat, (value? given "max-size").bind word,
    (value? given "max-rejects").bind halfWord⟩

/-- The options given to a subcommand. -/
def given (decls : List OptionDecl) (words : List String) : Except UsageError Given := do
  return (← Reader.readWords decls [] words .start).1

/-- A subcommand of `check` with its words. -/
def check (words : List String) : Except UsageError (Given × Command) := do
  let given ← given checkOptions words
  return (given, .check (← inputs given) (runOptions given) (value? given "only"))

/-- A subcommand of `sample` with its words. -/
def sample (words : List String) : Except UsageError (Given × Command) := do
  let given ← given sampleOptions words
  let inputs ← inputs given
  match value? given "type" with
  | none => .error .missingOption
  | some typeName =>
    let count := ((value? given "count").bind word).getD defaultCount
    return (given, .sample inputs (runOptions given) typeName count (value? given "out"))

def subcommands : List String := ["check", "sample", "help"]

/-- The answer to `help` with words after it. -/
def helpAbout : List String → UsageError
  | [] => .displayHelp
  | [name] => if subcommands.contains name then .displayHelp else .unknownSubcommand
  | _ => .unknownSubcommand

/-- What the words of a command line ask for. -/
def parse (words : List String) : Except UsageError Invocation := do
  match ← Reader.readWords [verbose, help, version] subcommands words .start with
  | (given, none) => .error (if given.isEmpty then .nothingGiven else .missingSubcommand)
  | (outer, some ("check", rest)) => do
    let (given, command) ← check rest
    return ⟨Fields.has outer "verbose" || Fields.has given "verbose", command⟩
  | (outer, some ("sample", rest)) => do
    let (given, command) ← sample rest
    return ⟨Fields.has outer "verbose" || Fields.has given "verbose", command⟩
  | (_, some (_, rest)) => .error (helpAbout rest)

end Arguments

end Specimen
