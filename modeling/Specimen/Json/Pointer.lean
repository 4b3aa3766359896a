import Specimen.Json.Basic

/-!
# JSON pointers

A pointer is empty and selects the whole, or is a sequence of steps, each after a slash. A step
names a member, or counts an item in decimal without a sign or a leading nought. In a step, a tilde
and a one stand for a slash, and a tilde and a nought for a tilde.
-/

namespace Specimen

namespace Json

/-- The parts of a text between slashes. -/
def splitSlashes : List Char → List Char → List (List Char)
  | [], part => [part.reverse]
  | '/' :: rest, part => part.reverse :: splitSlashes rest []
  | c :: rest, part => splitSlashes rest (c :: part)

/-- A tilde and a one read as a slash. -/
def unescapeSlashes : List Char → List Char
  | '~' :: '1' :: rest => '/' :: unescapeSlashes rest
  | c :: rest => c :: unescapeSlashes rest
  | [] => []

/-- A tilde and a nought read as a tilde. -/
def unescapeTildes : List Char → List Char
  | '~' :: '0' :: rest => '~' :: unescapeTildes rest
  | c :: rest => c :: unescapeTildes rest
  | [] => []

/-- The steps of a pointer. -/
def pointerSteps? (pointer : String) : Option (List String) :=
  match pointer.toList with
  | [] => some []
  | '/' :: rest =>
    some ((splitSlashes rest []).map fun step =>
      String.ofList (unescapeTildes (unescapeSlashes step)))
  | _ => none

/-- The item that a step counts. -/
def stepIndex? (step : String) : Option Nat :=
  match step.toList with
  | [] => none
  | ['0'] => some 0
  | '0' :: _ => none
  | digits => if digits.all Char.isDigit then
      some (digits.foldl (fun n c => n * 10 + (c.toNat - 48)) 0) else none

/-- The value that steps lead to. -/
def follow? : List String → Json → Option Json
  | [], j => some j
  | step :: steps, .object members => (Fields.get? members step).bind (follow? steps)
  | step :: steps, .array items => (stepIndex? step).bind fun i => items[i]?.bind (follow? steps)
  | _ :: _, _ => none

/-- The value that a pointer selects. -/
def select? (j : Json) (pointer : String) : Option Json :=
  (pointerSteps? pointer).bind fun steps => follow? steps j

end Json

end Specimen
