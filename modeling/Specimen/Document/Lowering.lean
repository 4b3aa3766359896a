import Specimen.Document.Node
import Specimen.Filter.Program

/-!
# Lowering

A document becomes descriptors, one per declaration: every name is replaced by what it stands for,
and every program text by the program. A declaration is lowered once, however often it is named, so
all its uses are one node.

A name that is met while its own declaration is being lowered has no descriptor, since that would
never end. The names in progress are kept in order, outermost first; they are declared and distinct,
so there are never more of them than declarations, which bounds the recursion.
-/

namespace Specimen

/-- What is wrong with a document that cannot be lowered. -/
inductive LoweringCause
  /-- A name that stands for itself, with the names on the way. -/
  | cycle (names : List String)
  | undeclared (name : String)
  | program (source : String) (error : ProgramError)

/-- A part of a document that something is wrong in. -/
inductive LoweringScope
  | type (name : String)
  | field (name : String)
  | correction

/-- Why a document cannot be lowered, and in which of its parts, outermost first. -/
structure LoweringError where
  scopes : List LoweringScope
  cause : LoweringCause

namespace LoweringScope

def message : LoweringScope → String
  | type name => "in type `" ++ name ++ "`"
  | field name => "in field `" ++ name ++ "`"
  | correction => "in correction"

end LoweringScope

namespace LoweringError

/-- The error as seen from around a part. -/
def within (scope : LoweringScope) (e : LoweringError) : LoweringError :=
  { e with scopes := scope :: e.scopes }

end LoweringError

/-- What has been lowered so far, and the identity of the next node. -/
structure Lowered where
  nextId : Nat
  done : List (String × Descriptor)

abbrev Lowering := StateT Lowered (Except LoweringError)

namespace Lowering

def fail {α : Type} (cause : LoweringCause) : Lowering α := throw ⟨[], cause⟩

/-- A part, whose errors are said to be in it. -/
def within {α : Type} (scope : LoweringScope) (part : Lowering α) : Lowering α := fun state =>
  (part.run state).mapError (LoweringError.within scope)

/-- New nodes, numbered on from those made so far. -/
def fresh {α : Type} (nodes : Fresh α) : Lowering α := fun state =>
  let (result, nextId) := nodes.run state.nextId
  .ok (result, { state with nextId := nextId })

/-- The program in a text. -/
def program (source : String) : Lowering Program :=
  match Program.compile source with
  | .ok p => pure p
  | .error e => fail (.program source e)

/-- The correction in an optional text. -/
def correction : Option String → Lowering (Option Correction)
  | none => pure none
  | some source => do return some (← within .correction (program source)).correction

variable (resolve : String → Lowering Descriptor)

mutual

/-- The descriptor of a node, where names stand for what `resolve` answers. -/
def node : Node → Lowering Descriptor
  | .always => fresh (Descriptor.make .always)
  | .boolean => fresh (Descriptor.make .boolean)
  | .number => fresh (Descriptor.make .number)
  | .string => fresh (Descriptor.make .string)
  | .void => fresh (Descriptor.make .void)
  | .function => fresh (Descriptor.make .function)
  | .literal value => fresh (Descriptor.make (.literal value.value))
  | .array element => do
    let element ← node element
    fresh (Descriptor.make (.array element))
  | .tuple components => do
    let components ← nodes components
    fresh (Descriptor.make (.tuple components))
  | .dictionary value => do
    let value ← node value
    fresh (Descriptor.make (.dictionary value))
  | .record fields => do
    let fields ← namedFields fields
    fresh (Descriptor.record fields)
  | .partialRecord fields => do
    let fields ← namedFields fields
    fresh (Descriptor.partialRecord fields)
  | .union alternatives => do
    let alternatives ← nodes alternatives
    fresh (Descriptor.make (.union alternatives))
  | .intersect intersectees => do
    let intersectees ← nodes intersectees
    fresh (Descriptor.make (.intersect intersectees))
  | .reference name => resolve name
  | .constraint underlying predicate fix none => do
    let underlying ← node underlying
    let predicate ← program predicate
    let fix ← correction fix
    fresh (Descriptor.make (.constraint underlying predicate.predicate fix none))
  | .constraint underlying predicate fix (some ⟨tag, params, types⟩) => do
    let underlying ← node underlying
    let predicate ← program predicate
    let fix ← correction fix
    let types ← namedTypes types
    fresh (Descriptor.make
      (.constraint underlying predicate.predicate fix (some ⟨tag, params, types⟩)))
  | .extension name guard payload => do
    let guard ← program guard
    fresh (Descriptor.make (.extension name payload guard.predicate))

def nodes : List Node → Lowering (List Descriptor)
  | [] => pure []
  | n :: rest => do
    let first ← node n
    return first :: (← nodes rest)

/-- The fields of a record; what is wrong with a field is said to be in it. -/
def namedFields : List (String × Node) → Lowering (List (String × Descriptor))
  | [] => pure []
  | (name, n) :: rest => do
    let first ← within (.field name) (node n)
    return (name, first) :: (← namedFields rest)

def namedTypes : List (String × Node) → Lowering (List (String × Descriptor))
  | [] => pure []
  | (name, n) :: rest => do
    let first ← node n
    return (name, first) :: (← namedTypes rest)

end

/-- The descriptor of a name, while the `active` ones are in progress and `left` more may be. -/
def named (document : Document) : Nat → List String → String → Lowering Descriptor
  | left, active, name => do
    match Fields.get? (← get).done name with
    | some found => return found
    | none =>
      if active.contains name then fail (.cycle (active ++ [name]))
      else
        match Fields.get? document name, left with
        | none, _ => fail (.undeclared name)
        | some _, 0 => fail (.cycle (active ++ [name]))
        | some declaration, left + 1 =>
          let t ← within (.type name)
            (node (named document left (active ++ [name])) declaration)
          modify fun state => { state with done := state.done ++ [(name, t)] }
          return t

/-- The descriptors of names, one after the other. -/
def each (document : Document) : List String → Lowering (List (String × Descriptor))
  | [] => pure []
  | name :: rest => do
    let t ← named document document.length [] name
    return (name, t) :: (← each document rest)

end Lowering

namespace Document

/-- The descriptor of every declaration, in order, with nodes numbered from `nextId` on; and the
number after them. -/
def lower (document : Document) (nextId : Nat) :
    Except LoweringError (List (String × Descriptor) × Nat) :=
  match (Lowering.each document (document.map Prod.fst)).run ⟨nextId, []⟩ with
  | .ok (types, state) => .ok (types, state.nextId)
  | .error e => .error e

end Document

end Specimen
