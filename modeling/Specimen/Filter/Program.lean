import Specimen.Descriptor.Basic
import Specimen.Filter.Eval
import Specimen.Filter.Parser
import Specimen.Filter.Scope
import Specimen.Value.Json

/-!
# Filter programs

A program is text that has been read and found to mean something. It runs on a JSON value and yields
any number of them. As a predicate, it accepts what makes its first output count as true; as a
correction, it puts its first output in the place of a value. A run that fails anywhere, be it after
the first output, accepts nothing and corrects nothing.
-/

namespace Specimen

/-- A program with the text it was read from. -/
structure Program where
  source : String
  term : Term

/-- Why a text is not a program. -/
inductive ProgramError
  /-- The text does not parse. -/
  | unparsed
  /-- The text uses a name, or a number of arguments, that means nothing. -/
  | undefined
deriving DecidableEq

/-- Why a run of a program failed. -/
inductive RunError
  /-- The program raised an error. -/
  | raised (d : Data)
  /-- An output cannot be read back as JSON. -/
  | unreadable (fault : Fault)
  /-- The program went deeper than it may. -/
  | exhausted
  /-- The program met what no machine has an answer to. -/
  | abandoned

namespace ProgramError

def message (source : String) : ProgramError → String
  | unparsed => "parse error in \x60" ++ source ++ "\x60"
  | undefined => "undefined name in \x60" ++ source ++ "\x60"

end ProgramError

namespace Program

/-- The program in a text. -/
def compile (source : String) : Except ProgramError Program :=
  match Term.parse source with
  | none => .error .unparsed
  | some term =>
    if term.closed Scope.empty then .ok ⟨source, term⟩ else .error .undefined

/-- More steps than any evaluation takes. -/
def fuelLimit : Nat := 0x4000000000000000

/-- How deep evaluations may stand within each other. -/
def roomLimit : Nat := 100000

/-- What the program yields for an input. -/
def outputs (p : Program) (input : Json) : Outputs Data :=
  evaluate fuelLimit roomLimit .empty p.term (Data.ofJson input)

/-- An output as a JSON value, or what is wrong with it. -/
def outcome (item : Except Halt Data) : Except RunError Json :=
  match item with
  | .ok d => d.json.mapError .unreadable
  | .error (.raised d) => .error (.raised d)
  | .error (.exit _) => .error .exhausted
  | .error .exhausted => .error .exhausted
  | .error .abandoned => .error .abandoned

/-- The outputs as JSON values after those collected, backwards; or the first thing that goes wrong. -/
def collect : Outputs Data → List Json → Except RunError (List Json)
  | .done, collected => .ok collected.reverse
  | .one item, collected => do return ((← outcome item) :: collected).reverse
  | .more item rest, collected => do
    let j ← outcome item
    collect (rest ()) (j :: collected)
  | .later rest, collected => collect (rest ()) collected

/-- Every output of the program for an input. -/
def run (p : Program) (input : Json) : Except RunError (List Json) := collect (p.outputs input) []

/-- Whether a JSON value counts as true. -/
def isTrue : Json → Bool
  | .null => false
  | .bool b => b
  | _ => true

/-- Whether the first output counts as true. -/
def test (p : Program) (v : Value) : Bool :=
  match p.run v.json with
  | .ok (first :: _) => isTrue first
  | _ => false

/-- The first output, or the value itself when there is none. -/
def correct (p : Program) (v : Value) : Value :=
  match p.run v.json with
  | .ok (first :: _) => first.value
  | _ => v

/-- The program as a predicate, named by its text. -/
def predicate (p : Program) : Predicate := ⟨p.source, p.test⟩

/-- The program as a correction, named by its text. -/
def correction (p : Program) : Correction := ⟨p.source, p.correct⟩

/-- A structural dump of a program. -/
def dump (p : Program) : String := "JqProgram(" ++ dumpQuote p.source ++ ")"

end Program

end Specimen
