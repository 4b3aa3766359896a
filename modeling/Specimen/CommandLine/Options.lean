import Specimen.Fields

/-!
# Options

Reading the words of a command line by a table of the options they may hold. Words are read from left
to right. An option that takes values collects them from the words that follow, and is looked at as a
whole when the next option begins or the words end; so of two faults the one met first is reported,
and a fault that shows at once comes before one in values still being collected.
-/

namespace Specimen

/-- Why the words are no request to run. -/
inductive UsageError
  | displayHelp
  | displayVersion
  /-- There are no words at all where some are needed. -/
  | nothingGiven
  | missingSubcommand
  | unknownSubcommand
  | unknownArgument
  /-- An option lacks its value, or has an empty one. -/
  | emptyValue
  | malformedValue
  /-- An option that stands once is given twice. -/
  | repeatedOption
  /-- A value is attached to an option that takes none. -/
  | surplusValue
  | missingOption
deriving DecidableEq

namespace UsageError

/-- The exit code of a program that was asked wrongly; asking for help is no error. -/
def exitCode : UsageError → UInt8
  | displayHelp | displayVersion => 0
  | _ => 2

def message : UsageError → String
  | displayHelp => "help"
  | displayVersion => "version"
  | nothingGiven | missingSubcommand => "a subcommand is required"
  | unknownSubcommand => "unrecognized subcommand"
  | unknownArgument => "unexpected argument"
  | emptyValue => "a value is required"
  | malformedValue => "invalid value"
  | repeatedOption => "an option cannot be used multiple times"
  | surplusValue => "an option takes no value"
  | missingOption => "a required option is missing"

end UsageError

/-- How many values an option takes. -/
inductive Arity
  | none | one | many
deriving DecidableEq

/-- An option that the words may hold. -/
structure OptionDecl where
  name : String
  short : Option Char
  arity : Arity
  /-- What is wrong with a value. -/
  fault : String → Option UsageError
  /-- The answer to an option that asks for one at once. -/
  answer : Option UsageError

namespace OptionDecl

def flag (name : String) (short : Option Char) : OptionDecl :=
  ⟨name, short, .none, fun _ => none, none⟩

/-- A flag that asks for an answer. -/
def asking (name : String) (short : Char) (answer : UsageError) : OptionDecl :=
  ⟨name, some short, .none, fun _ => none, some answer⟩

/-- An option with one value, any text. -/
def text (name : String) : OptionDecl := ⟨name, none, .one, fun _ => none, none⟩

/-- An option with one value that a test must accept. -/
def tested (name : String) (short : Option Char) (test : String → Bool) (error : UsageError) :
    OptionDecl :=
  ⟨name, short, .one, fun v => if test v then none else some error, none⟩

end OptionDecl

/-- Options with their values, in the order in which they were first given. -/
abbrev Given := List (String × List String)

/-- An option whose values are being collected. -/
structure Collecting where
  decl : OptionDecl
  values : List String

/-- The options read so far. -/
structure Reader where
  given : Given
  collecting : Option Collecting

namespace Reader

def start : Reader := ⟨[], none⟩

/-- An option with all its values. -/
def complete (given : Given) (decl : OptionDecl) (values : List String) :
    Except UsageError Given :=
  match decl.answer with
  | some answer => .error answer
  | none =>
    let before := (Fields.get? given decl.name).getD []
    if decl.arity ≠ .none ∧ values.isEmpty then .error .emptyValue
    else if decl.arity ≠ .many ∧ Fields.has given decl.name then .error .repeatedOption
    else
      match values.findSome? decl.fault with
      | some error => .error error
      | none => .ok (Fields.put given decl.name (before ++ values))

/-- The option being collected completed. -/
def settle (r : Reader) : Except UsageError Reader :=
  match r.collecting with
  | none => .ok r
  | some c => do return ⟨← complete r.given c.decl c.values, none⟩

/-- Whether the next word, if it is no option, is a value of the option being collected. -/
def wantsValue (r : Reader) : Bool :=
  match r.collecting with
  | some c => c.decl.arity == .many || c.values.isEmpty
  | none => false

def addValue (r : Reader) (value : String) : Reader :=
  { r with collecting := r.collecting.map fun c => { c with values := c.values ++ [value] } }

/-- An option met, with the value attached to it. -/
def meet (r : Reader) (decl : OptionDecl) (attached : Option String) : Except UsageError Reader :=
  match decl.arity, attached with
  | .none, some _ => .error .surplusValue
  | .none, none => do
    let r ← r.settle
    return ⟨← complete r.given decl [], none⟩
  | _, some value => do
    let r ← r.settle
    return ⟨← complete r.given decl [value], none⟩
  | _, none => do
    let r ← r.settle
    return { r with collecting := some ⟨decl, []⟩ }

/-- A word of short options, after its hyphen. -/
def meetShort (decls : List OptionDecl) : List Char → Reader → Except UsageError Reader
  | [], r => .ok r
  | c :: rest, r =>
    match decls.find? fun decl => decl.short == some c with
    | none => .error .unknownArgument
    | some decl =>
      if decl.arity = .none then do
        meetShort decls rest (← r.meet decl none)
      else
        match rest with
        | [] => r.meet decl none
        | '=' :: value => r.meet decl (some (String.ofList value))
        | value => r.meet decl (some (String.ofList value))

/-- A long option, after its hyphens. -/
def meetLong (decls : List OptionDecl) (body : List Char) (r : Reader) :
    Except UsageError Reader :=
  let name := body.takeWhile fun c => c != '='
  let attached := (body.drop name.length).tail?.map String.ofList
  match decls.find? fun decl => decl.name == String.ofList name with
  | none => .error .unknownArgument
  | some decl => r.meet decl attached

/-- The error of a word that is nothing here. -/
def strayWord (subcommands : List String) (escaped : Bool) (word : String) : UsageError :=
  if subcommands.isEmpty ∨ (escaped = true ∧ subcommands.contains word = true) then .unknownArgument
  else .unknownSubcommand

/-- The words up to a subcommand, if there is one: the options read, and the subcommand with the
words after it. After two lone hyphens no word is an option or a subcommand. -/
def readWords (decls : List OptionDecl) (subcommands : List String) :
    List String → Reader → Except UsageError (Given × Option (String × List String))
  | [], r => do return ((← r.settle).given, none)
  | word :: rest, r =>
    if !r.wantsValue && subcommands.contains word then do
      return ((← r.settle).given, some (word, rest))
    else
      match word.toList with
      | ['-', '-'] =>
        match rest with
        | [] => do return ((← r.settle).given, none)
        | stray :: _ => .error (strayWord subcommands true stray)
      | '-' :: '-' :: body => do
        readWords decls subcommands rest (← meetLong decls body r)
      | '-' :: c :: body => do
        readWords decls subcommands rest (← meetShort decls (c :: body) r)
      | _ =>
        if r.wantsValue then readWords decls subcommands rest (r.addValue word)
        else .error (strayWord subcommands false word)

end Reader

end Specimen
