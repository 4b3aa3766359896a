import Specimen.Filter.Native
import Specimen.Filter.Prelude

/-!
# Scope

A program means something if every name in it does: each function it calls is a parameter, a
definition around the call, or one that every program may use, taken with the right number of
arguments; each variable and each label is bound around its use.
-/

namespace Specimen

/-- The names in force at a place. -/
structure Scope where
  functions : List (String × Nat)
  bound : List String
  labels : List String

namespace Scope

def empty : Scope := ⟨[], [], []⟩

/-- Whether every program may use a function. -/
def isGlobal (name : String) (arity : Nat) : Bool :=
  (Prelude.find? name arity).isSome || (Native.find? name arity).isSome ||
    Native.higher.contains (name, arity)

def knows (scope : Scope) (name : String) (arity : Nat) : Bool :=
  scope.functions.contains (name, arity) || isGlobal name arity

def withVariables (scope : Scope) (names : List String) : Scope :=
  { scope with bound := names ++ scope.bound }

def withFunction (scope : Scope) (name : String) (arity : Nat) : Scope :=
  { scope with functions := (name, arity) :: scope.functions }

/-- A parameter: a datum is a variable, a term a function. -/
def withParam (scope : Scope) (param : String) : Scope :=
  match datumParam? param with
  | some name => scope.withVariables [name]
  | none => scope.withFunction param 0

end Scope

namespace Pattern

mutual

/-- The variables that a pattern binds. -/
def names : Pattern → List String
  | .variable name => [name]
  | .array items => namesOf items
  | .object entries => namesOfEntries entries

def namesOf : List Pattern → List String
  | [] => []
  | p :: rest => names p ++ namesOf rest

def namesOfEntries : List (Term × Pattern) → List String
  | [] => []
  | (_, p) :: rest => names p ++ namesOfEntries rest

end

end Pattern

namespace Term

mutual

/-- Whether every name in a term means something. -/
def closed (scope : Scope) : Term → Bool
  | .identity | .recurse | .shown | .number _ | .chars _ | .emptyObject => true
  | .array none => true
  | .array (some body) => closed scope body
  | .single key value => closed scope key && closed scope value
  | .negate body => closed scope body
  | .pipe source body => closed scope source && closed scope body
  | .bind source pattern body =>
    closed scope source && closedPattern scope pattern &&
      closed (scope.withVariables pattern.names) body
  | .binary _ left right => closed scope left && closed scope right
  | .label name body => closed { scope with labels := name :: scope.labels } body
  | .break name => scope.labels.contains name
  | .reduce source pattern start update =>
    closed scope source && closedPattern scope pattern && closed scope start &&
      closed (scope.withVariables pattern.names) update
  | .foreach source pattern start update none =>
    closed scope source && closedPattern scope pattern && closed scope start &&
      closed (scope.withVariables pattern.names) update
  | .foreach source pattern start update (some extract) =>
    closed scope source && closedPattern scope pattern && closed scope start &&
      closed (scope.withVariables pattern.names) update &&
      closed (scope.withVariables pattern.names) extract
  | .attempt body none => closed scope body
  | .attempt body (some handler) => closed scope body && closed scope handler
  | .cond condition positive none => closed scope condition && closed scope positive
  | .cond condition positive (some negative) =>
    closed scope condition && closed scope positive && closed scope negative
  | .define defs body =>
    closedDefs scope defs &&
      closed (defs.foldl (fun scope d => scope.withFunction d.name d.params.length) scope) body
  | .call name args => scope.knows name args.length && closedAll scope args
  | .variable name => scope.bound.contains name
  | .path base steps => closed scope base && closedSteps scope steps
  | .meaningless => false

def closedAll (scope : Scope) : List Term → Bool
  | [] => true
  | t :: rest => closed scope t && closedAll scope rest

def closedSteps (scope : Scope) : List PathStep → Bool
  | [] => true
  | step :: rest => closedStep scope step && closedSteps scope rest

def closedStep (scope : Scope) : PathStep → Bool
  | .index place _ => closed scope place
  | .slice none none _ => true
  | .slice (some start) none _ => closed scope start
  | .slice none (some stop) _ => closed scope stop
  | .slice (some start) (some stop) _ => closed scope start && closed scope stop
  | .each _ => true

/-- The keys of a pattern may use what is in force before the pattern. -/
def closedPattern (scope : Scope) : Pattern → Bool
  | .variable _ => true
  | .array items => closedPatterns scope items
  | .object entries => closedPatternEntries scope entries

def closedPatterns (scope : Scope) : List Pattern → Bool
  | [] => true
  | p :: rest => closedPattern scope p && closedPatterns scope rest

def closedPatternEntries (scope : Scope) : List (Term × Pattern) → Bool
  | [] => true
  | (key, p) :: rest =>
    closed scope key && closedPattern scope p && closedPatternEntries scope rest

/-- Definitions, each in force in itself and in those after it. -/
def closedDefs (scope : Scope) : List Definition → Bool
  | [] => true
  | .mk name params body :: rest =>
    closed (params.foldl Scope.withParam (scope.withFunction name params.length)) body &&
      closedDefs (scope.withFunction name params.length) rest

end

end Term

end Specimen
