import Specimen.Compiler.Intersection

/-!
# Compilation

A descriptor becomes a generator, node by node. `Compiler.step` is the plan for one node;
`Compiler.compileWithin` ties the knot, with a bound on how deep compilations may nest. Each built-in
step compiles strictly smaller types only, by the measure
`Descriptor.weight`, so a bound of the weight suffices for descriptors whose strategies compile parts
of their own nodes; `Compiler.compile` allows that and ample room for strategies that compile other
types.
-/

namespace Specimen

namespace Descriptor

mutual

/-- How many nodes a descriptor has, the types in arguments of constraints included. -/
def weight : Descriptor → Nat
  | .node _ shape => shapeWeight shape + 1

def shapeWeight : Shape → Nat
  | .array element => weight element
  | .constraint underlying _ _ none => weight underlying
  | .constraint underlying _ _ (some ⟨_, _, types⟩) => weight underlying + weightFields types
  | .dictionary value => weight value
  | .intersect intersectees => weightAll intersectees
  | .partialRecord fields => weightFields fields
  | .record fields => weightFields fields
  | .tuple components => weightAll components
  | .union alternatives => weightAll alternatives
  | _ => 0

def weightAll : List Descriptor → Nat
  | [] => 0
  | t :: rest => weight t + weightAll rest

def weightFields : List (String × Descriptor) → Nat
  | [] => 0
  | (_, t) :: rest => weight t + weightFields rest

end

end Descriptor

namespace Compiler

/-- One generator for each field. -/
def compileFields (fields : List (String × Descriptor)) : Plan (List (String × Generator)) :=
  fields.mapM fun (name, t) => do return (name, ← Plan.generatorOf t)

/-- The label under which a constraint rejects. -/
def constraintLabel (predicate : Predicate) : String :=
  "constraint `" ++ predicate.name ++ "` rejected the draw"

/-- An unmarked constraint repairs its draws if it can, and otherwise filters them. -/
def compileUnmarked (underlying : Descriptor) (predicate : Predicate)
    (correction : Option Correction) : Plan Generator := do
  let source ← Plan.generatorOf underlying
  match correction with
  | some fix => return .mapped source fix.apply
  | none => return .filtered source (some (constraintLabel predicate)) predicate.test

/-- A marked constraint is its strategy's. -/
def compileConstraint (c : Compiler) (underlying : Descriptor) (predicate : Predicate)
    (correction : Option Correction) (args : Option (Args Descriptor)) : Plan Generator :=
  match Descriptor.marking args with
  | none => compileUnmarked underlying predicate correction
  | some args =>
    match Fields.get? c.customConstraints args.tag with
    | none => Plan.fail (.missingCustomGenerator args.tag)
    | some strategy => strategy c.maxSize ⟨underlying, predicate, correction, args⟩

/-- The plan for one node. -/
def step (c : Compiler) (t : Descriptor) : Plan Generator :=
  match t.shape with
  | .always => return .json Generator.jsonDepth
  | .array element => do return .array (← Plan.generatorOf element) c.maxSize
  | .boolean => return .boolean
  | .constraint underlying predicate correction args =>
    compileConstraint c underlying predicate correction args
  | .dictionary value => do return .dictionary (← Plan.generatorOf value) c.maxSize
  | .function => return .callable
  | .intersect intersectees => Intersection.resolve c intersectees
  | .literal value => return .constant value
  | .number => return .number
  | .partialRecord fields => do
    let fields ← compileFields fields
    return Generator.dropAbsent
      (.recordOf (fields.map fun (name, g) => (name, Generator.optional g)))
      (fields.map Prod.fst)
  | .record fields => do return .recordOf (← compileFields fields)
  | .string => return .text
  | .tuple components => do return .tupleOf (← components.mapM Plan.generatorOf)
  | .union alternatives => do
    match Generator.oneOf? (← alternatives.mapM Plan.generatorOf) with
    | none => Plan.fail (.uninhabited Tag.union.name)
    | some anyOf => return anyOf
  | .void => return .void
  | .extension name payload guard =>
    match Fields.get? c.strategies name with
    | none => Plan.fail (.unsupportedType name)
    | some strategy => strategy c.maxSize ⟨name, payload, guard⟩

/-- The generator of a descriptor, with compilations nested at most so deep. -/
def compileWithin (c : Compiler) : Nat → Descriptor → Compiled
  | 0, _ => .error .abandoned
  | depth + 1, t => (c.step t).run (c.compileWithin depth)

/-- How much deeper than their own descriptor strategies may compile. -/
def nestingRoom : Nat := 4096

/-- The generator of a descriptor. -/
def compile (c : Compiler) (t : Descriptor) : Compiled :=
  c.compileWithin (t.weight + nestingRoom) t

end Compiler

end Specimen
