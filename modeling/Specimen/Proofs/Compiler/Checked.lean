import Specimen.Proofs.Compiler.Ledger
import Specimen.Proofs.Compiler.Plan

/-!
# Checked compilation

Compilation once more, with each operation checked that has a domain.

Compilation chooses among options in three places: an optional member is drawn or left out, a union
is one of its alternatives, and where no rule covers an intersection one of its types is tried. A
choice must not be among none, and breaks off here if it is (`oneOfChecked`). The tests that keep it
from doing so stand in the steps, before the options are compiled or after, and always do: a checked
step is the step (`stepChecked_eq`).

A compilation that is abandoned has either nested too deep or met a strategy that broke off. A
checked compilation says which (`Ending`), and otherwise comes to what compilation comes to
(`forget_compileChecked`).
-/

namespace Specimen

/-! ## Choices -/

namespace Plan

variable {α β γ : Type}

/-- No answer: what a strategy comes to that panics. -/
def breakOff : Plan α := .answer (.error .abandoned)

/-- What follows plans for all elements of a list is told of as many results. -/
theorem bind_mapM_congr {f : α → Plan β} {as : List α} {next next' : List β → Plan γ}
    (same : ∀ bs, bs.length = as.length → next bs = next' bs) :
    as.mapM f >>= next = as.mapM f >>= next' := by
  induction as generalizing next next' with
  | nil => exact same [] rfl
  | cons a as ih =>
    simp only [List.mapM_cons, bind_assoc, pure_bind]
    refine congrArg (f a >>= ·) (funext fun b => ?_)
    exact ih fun bs length => same (b :: bs) (congrArg Nat.succ length)

end Plan

namespace Generator

/-- One of several options, of which there must be some. -/
def oneOfChecked (options : List Generator) : Plan Generator :=
  match oneOf? options with
  | some anyOf => return anyOf
  | none => .breakOff

/-- A drawn value, or the absent marker: one of two options. -/
def optionalChecked (source : Generator) : Plan Generator :=
  oneOfChecked [source, constant .undefined]

theorem optionalChecked_eq (source : Generator) :
    optionalChecked source = pure (optional source) := rfl

end Generator

/-! ## Steps -/

namespace Intersection

/-- The types are compiled first, and that there are some is tested after. -/
def genericChecked (types : List Descriptor) : Plan Generator := do
  let options ← types.mapM Plan.generatorOf
  if options.isEmpty then return .json Generator.jsonDepth
  return guarded (← Generator.oneOfChecked options)
    ("no draw satisfied every intersectee of `" ++ kindsLabel types ++ "`") types

/-- A merged field as it is compiled, where making it optional checks its domain. -/
def mergedFieldChecked (name : String) (decls : FieldDecls) : Plan (String × Generator) := do
  let field ← Plan.generatorOf (fieldType decls.types)
  let field := guarded field ("field `" ++ name ++ "` rejected") decls.types
  if decls.required then return (name, field)
  return (name, ← Generator.optionalChecked field)

/-- The merge of records, each of whose declarations must have a type. -/
def mergeRecordsChecked (types : List Descriptor) : Plan Generator :=
  match types.findSome? mergeFault? with
  | some fault => Plan.fail fault
  | none => do
    let merged := fieldDecls types
    let fields ← merged.mapM fun (name, decls) => mergedFieldChecked name decls
    let optional := (merged.filter fun entry => !entry.2.required).map Prod.fst
    return Generator.dropAbsent (.recordOf fields) optional

/-- The rule for tagged constraints, with checks in what it falls back to. -/
def dispatchChecked (c : Compiler) (types : List Descriptor) : Plan Generator :=
  let entry := (customTags? types).bind fun tags =>
    c.customIntersections.find? fun entry => covers entry.tags tags
  match entry with
  | some entry => entry.strategy c.maxSize types
  | none => genericChecked types

/-- The strategy of each rule built in. Strategies of others are taken as they are. -/
def BuiltIn.strategyChecked (c : Compiler) : BuiltIn → IntersectStrategy
  | mergeRecords, _ => mergeRecordsChecked
  | flattenUnions, _ => Intersection.flattenUnions
  | dispatchConstraints, _ => dispatchChecked c

/-- The rules as they stand in the one table of all. -/
def rulesChecked (c : Compiler) : List IntersectionRule :=
  (Ledger.of c).rules.map
    (Sum.elim (fun rule => ⟨rule.name, rule.tags, rule.strategyChecked c⟩) id)

/-- How several types are drawn, with checks. -/
def candidateChecked (c : Compiler) (types : List Descriptor) : Plan Generator :=
  match (rulesChecked c).find? fun rule => covers rule.tags (kinds types) with
  | some rule => rule.strategy c.maxSize types
  | none => genericChecked types

/-- The generator of an intersection, with checks. -/
def resolveChecked (c : Compiler) (intersectees : List Descriptor) : Plan Generator :=
  match flatten intersectees with
  | [] => return .json Generator.jsonDepth
  | [only] => do return guarded (← Plan.generatorOf only) "intersection guard" [only]
  | types => do return guarded (← candidateChecked c types) "intersection guard" types

variable {c : Compiler} {types : List Descriptor}

/-- No check fails in the fallback: a choice is made only where there is a type. The equations that
follow go on from it to a whole step. -/
theorem genericChecked_eq : genericChecked types = generic types := by
  unfold genericChecked generic
  refine bind_congr fun options => ?_
  cases options <;> rfl

theorem mergedFieldChecked_eq {name : String} {decls : FieldDecls} :
    mergedFieldChecked name decls = mergedField name decls := by
  unfold mergedFieldChecked mergedField
  refine bind_congr fun field => ?_
  dsimp only
  split
  · rfl
  · rw [Generator.optionalChecked_eq]
    rfl

/-- A field that is to be merged was declared, so it has a type. -/
theorem mergeRecordsChecked_eq : mergeRecordsChecked types = mergeRecords types := by
  simp only [mergeRecordsChecked, mergedFieldChecked_eq]
  rfl

theorem dispatchChecked_eq : dispatchChecked c types = dispatch c types := by
  simp only [dispatchChecked, genericChecked_eq]
  rfl

/-- The three rules with checks are the three rules. -/
theorem strategyChecked_eq (rule : BuiltIn) : rule.strategyChecked c = rule.strategy c := by
  funext maxSize types
  cases rule with
  | mergeRecords => exact mergeRecordsChecked_eq
  | flattenUnions => rfl
  | dispatchConstraints => exact dispatchChecked_eq

theorem rulesChecked_eq : rulesChecked c = rules c := by
  simp only [rulesChecked, strategyChecked_eq]
  exact Ledger.map_rules_of c

/-- The same rule is found, and does the same. -/
theorem candidateChecked_eq : candidateChecked c types = candidate c types := by
  simp only [candidateChecked, rulesChecked_eq, genericChecked_eq]
  rfl

/-- So intersections are resolved alike. -/
theorem resolveChecked_eq {intersectees : List Descriptor} :
    resolveChecked c intersectees = resolve c intersectees := by
  simp only [resolveChecked, candidateChecked_eq]
  rfl

end Intersection

namespace Compiler

/-- The plan for one node, with its choices checked. The steps for other shapes make no choice. -/
def stepChecked (c : Compiler) (t : Descriptor) : Plan Generator :=
  match t.shape with
  | .intersect intersectees => Intersection.resolveChecked c intersectees
  | .partialRecord fields => do
    let fields ← compileFields fields
    let optional ← fields.mapM fun (name, g) => do return (name, ← Generator.optionalChecked g)
    return Generator.dropAbsent (.recordOf optional) (fields.map Prod.fst)
  | .union alternatives =>
    if alternatives.isEmpty then Plan.fail (.uninhabited Tag.union.name)
    else do Generator.oneOfChecked (← alternatives.mapM Plan.generatorOf)
  | _ => c.step t

/-- That a union is not empty is tested before its alternatives are compiled, and there are then as
many generators as alternatives. -/
theorem unionChecked_eq (alternatives : List Descriptor) :
    (if alternatives.isEmpty then Plan.fail (.uninhabited Tag.union.name)
      else do Generator.oneOfChecked (← alternatives.mapM Plan.generatorOf)) =
    (do match Generator.oneOf? (← alternatives.mapM Plan.generatorOf) with
      | none => Plan.fail (.uninhabited Tag.union.name)
      | some anyOf => return anyOf) := by
  cases alternatives with
  | nil => rfl
  | cons first others =>
    refine Plan.bind_mapM_congr fun options length => ?_
    cases options with
    | nil => cases length
    | cons => rfl

/-- No choice of a step is among none. -/
theorem stepChecked_eq (c : Compiler) (t : Descriptor) : c.stepChecked t = c.step t := by
  obtain ⟨id, shape⟩ := t
  cases shape with
  | intersect intersectees => exact Intersection.resolveChecked_eq
  | partialRecord fields =>
    refine bind_congr fun entries => ?_
    have each : (entries.mapM fun entry => (do
        return (entry.1, ← Generator.optionalChecked entry.2) : Plan (String × Generator))) =
        pure (entries.map fun entry => (entry.1, Generator.optional entry.2)) :=
      List.mapM_pure
    exact (congrArg (· >>= _) each).trans (pure_bind _ _)
  | union alternatives => exact unionChecked_eq alternatives
  | _ => rfl

end Compiler

/-! ## Endings -/

/-- How a checked compilation ends. -/
inductive Ending
  | done (g : Generator)
  | failed (e : GenError)
  /-- Compilations nested deeper than allowed. -/
  | tooDeep
  /-- Something broke off. -/
  | panicked

namespace Ending

/-- What a compilation comes to that ends so. -/
def forget : Ending → Compiled
  | done g => .ok g
  | failed e => .error (.error e)
  | tooDeep => .error .abandoned
  | panicked => .error .abandoned

end Ending

namespace Plan

/-- Runs a plan, and stops where the plan has panicked or went too deep. -/
def runChecked (compile : Descriptor → Ending) : Plan Generator → Ending
  | .answer (.ok g) => .done g
  | .answer (.error (.error e)) => .failed e
  | .answer (.error .abandoned) => .panicked
  | .compile t next =>
    match compile t with
    | .done g => (next (.ok g)).runChecked compile
    | .failed e => (next (.error e)).runChecked compile
    | .tooDeep => .tooDeep
    | .panicked => .panicked

/-- A run with checks does what a run does, if it is forgotten why nothing came of it. -/
theorem forget_runChecked {compile : Descriptor → Ending} (plan : Plan Generator) :
    (plan.runChecked compile).forget = plan.run fun t => (compile t).forget := by
  induction plan with
  | answer result => rcases result with (_ | _) | _ <;> rfl
  | compile t next ih =>
    rw [runChecked, run]
    cases compile t with
    | done g => exact ih (.ok g)
    | failed e => exact ih (.error e)
    | tooDeep => rfl
    | panicked => rfl

end Plan

namespace Compiler

/-- How the compilation of a descriptor ends, with compilations nested at most so deep. -/
def compileChecked (c : Compiler) : Nat → Descriptor → Ending
  | 0, _ => .tooDeep
  | depth + 1, t => (c.stepChecked t).runChecked (c.compileChecked depth)

theorem forget_compileChecked (c : Compiler) :
    ∀ depth t, (c.compileChecked depth t).forget = c.compileWithin depth t
  | 0, _ => rfl
  | depth + 1, t => by
    rw [compileChecked, Plan.forget_runChecked, stepChecked_eq, compileWithin,
      funext (forget_compileChecked c depth)]

end Compiler

end Specimen
