import Specimen.Compiler.Compile
import Specimen.Proofs.Compiler.Plan

/-!
# What a step makes

For each shape that is put together from other types, a law says when its step comes to a generator
and to which one, in terms of the generators of those types. Shapes without parts need none, and
intersections have their own module.
-/

namespace Specimen

namespace Compiler

variable {c : Compiler} {compile : Descriptor → Compiled} {id : Nat} {g : Generator}

/-- A generator stands under the name of its field. -/
def FieldCompiled (compile : Descriptor → Compiled) (field : String × Descriptor)
    (entry : String × Generator) : Prop :=
  entry.1 = field.1 ∧ compile field.2 = .ok entry.2

theorem exists_fieldCompiled {field : String × Descriptor} :
    (∃ entry, FieldCompiled compile field entry) ↔ ∃ g, compile field.2 = .ok g := by
  constructor
  · rintro ⟨entry, _, compiled⟩
    exact ⟨entry.2, compiled⟩
  · rintro ⟨g, compiled⟩
    exact ⟨(field.1, g), rfl, compiled⟩

/-- The fields of a record compile exactly if each of them does, and each entry is the generator of
its own field under its own name. -/
theorem run_compileFields_eq_ok {fields : List (String × Descriptor)}
    {entries : List (String × Generator)} :
    (compileFields fields).run compile = .ok entries ↔
      List.Forall₂ (FieldCompiled compile) fields entries := by
  have each : (fun (field : String × Descriptor) (entry : String × Generator) =>
      (do return (field.1, ← Plan.generatorOf field.2) : Plan _).run compile = .ok entry) =
        FieldCompiled compile := by
    funext field entry
    obtain ⟨name, g⟩ := entry
    rw [Plan.run_bind_eq_ok, Plan.run_generatorOf, FieldCompiled]
    simp only [Plan.run_pure, Except.ok.injEq, Prod.mk.injEq, eq_iff_iff]
    constructor
    · rintro ⟨g, compiled, rfl, rfl⟩
      exact ⟨rfl, compiled⟩
    · rintro ⟨rfl, compiled⟩
      exact ⟨g, compiled, rfl, rfl⟩
  rw [compileFields, Plan.run_mapM_eq_ok, each]

/-- The same of types that have no names. -/
theorem run_mapM_generatorOf_eq_ok {types : List Descriptor} {gs : List Generator} :
    (types.mapM Plan.generatorOf).run compile = .ok gs ↔
      List.Forall₂ (fun t g => compile t = .ok g) types gs := by
  rw [Plan.run_mapM_eq_ok]
  simp only [Plan.run_generatorOf]

/-- The law of a step that compiles one type and wraps its generator. -/
private theorem run_wrap_eq_ok {t : Descriptor} {wrap : Generator → Generator} :
    (Plan.generatorOf t >>= fun inner => pure (wrap inner)).run compile = .ok g ↔
      ∃ inner, compile t = .ok inner ∧ g = wrap inner := by
  rw [Plan.run_bind_eq_ok]
  simp only [Plan.run_generatorOf, Plan.run_pure, Except.ok.injEq, eq_comm]

/-- One law for each shape from here on: what its parts must compile to, and what is made of them.
The length of an array is bounded by the compiler's maximum size. -/
theorem run_step_array {element : Descriptor} :
    (c.step (.node id (.array element))).run compile = .ok g ↔
      ∃ inner, compile element = .ok inner ∧ g = .array inner c.maxSize :=
  run_wrap_eq_ok

theorem run_step_dictionary {value : Descriptor} :
    (c.step (.node id (.dictionary value))).run compile = .ok g ↔
      ∃ inner, compile value = .ok inner ∧ g = .dictionary inner c.maxSize :=
  run_wrap_eq_ok

/-- A record draws its fields in the order in which they are declared. -/
theorem run_step_record {fields : List (String × Descriptor)} :
    (c.step (.node id (.record fields))).run compile = .ok g ↔
      ∃ entries, List.Forall₂ (FieldCompiled compile) fields entries ∧ g = .recordOf entries := by
  refine Plan.run_bind_eq_ok.trans (exists_congr fun entries => ?_)
  rw [run_compileFields_eq_ok, Plan.run_pure, Except.ok.injEq, eq_comm]

/-- A partial record is a record of fields that may be absent, less those that were. -/
theorem run_step_partialRecord {fields : List (String × Descriptor)} :
    (c.step (.node id (.partialRecord fields))).run compile = .ok g ↔
      ∃ entries, List.Forall₂ (FieldCompiled compile) fields entries ∧
        g = Generator.dropAbsent
          (.recordOf (entries.map fun entry => (entry.1, Generator.optional entry.2)))
          (entries.map Prod.fst) := by
  refine Plan.run_bind_eq_ok.trans (exists_congr fun entries => ?_)
  rw [run_compileFields_eq_ok, Plan.run_pure, Except.ok.injEq, eq_comm]

theorem run_step_tuple {components : List Descriptor} :
    (c.step (.node id (.tuple components))).run compile = .ok g ↔
      ∃ gs, List.Forall₂ (fun t g => compile t = .ok g) components gs ∧ g = .tupleOf gs := by
  refine Plan.run_bind_eq_ok.trans (exists_congr fun gs => ?_)
  rw [run_mapM_generatorOf_eq_ok, Plan.run_pure, Except.ok.injEq, eq_comm]

/-- A union of nothing does not compile: there must be a first alternative. -/
theorem run_step_union {alternatives : List Descriptor} :
    (c.step (.node id (.union alternatives))).run compile = .ok g ↔
      ∃ first others, List.Forall₂ (fun t g => compile t = .ok g) alternatives (first :: others) ∧
        g = .oneOf first others := by
  refine Plan.run_bind_eq_ok.trans ?_
  constructor
  · rintro ⟨gs, compiled, ran⟩
    rw [run_mapM_generatorOf_eq_ok] at compiled
    cases gs with
    | nil => cases ran
    | cons first others => cases ran; exact ⟨first, others, compiled, rfl⟩
  · rintro ⟨first, others, compiled, rfl⟩
    exact ⟨first :: others, run_mapM_generatorOf_eq_ok.mpr compiled, rfl⟩

/-- How the draws of an unmarked constraint come from those of what it refines. -/
def refined (predicate : Predicate) (correction : Option Correction) (source : Generator) :
    Generator :=
  match correction with
  | some fix => .mapped source fix.apply
  | none => .filtered source (some (constraintLabel predicate)) predicate.test

/-- A constraint without a strategy filters what its underlying type draws, or corrects it first. -/
theorem run_step_unmarked {underlying : Descriptor} {predicate : Predicate}
    {correction : Option Correction} {arguments : Option (Args Descriptor)}
    (unmarked : Descriptor.marking arguments = none) :
    (c.step (.node id (.constraint underlying predicate correction arguments))).run compile =
        .ok g ↔
      ∃ source, compile underlying = .ok source ∧ g = refined predicate correction source := by
  simp only [step, Descriptor.shape, compileConstraint, unmarked, compileUnmarked]
  cases correction with
  | none => exact run_wrap_eq_ok
  | some fix => exact run_wrap_eq_ok

/-- A constraint whose arguments name a strategy is the strategy's business alone: neither its
predicate nor its correction is put around what the strategy makes. -/
theorem run_step_marked {underlying : Descriptor} {predicate : Predicate}
    {correction : Option Correction} {arguments : Option (Args Descriptor)}
    {args : Args Descriptor} (marked : Descriptor.marking arguments = some args) :
    (c.step (.node id (.constraint underlying predicate correction arguments))).run compile =
        .ok g ↔
      ∃ strategy, Fields.get? c.customConstraints args.tag = some strategy ∧
        (strategy c.maxSize ⟨underlying, predicate, correction, args⟩).run compile = .ok g := by
  simp only [step, Descriptor.shape, compileConstraint, marked]
  cases Fields.get? c.customConstraints args.tag with
  | none => simp
  | some strategy => simp

/-- An extension is what its strategy makes of it, and fails where there is none. -/
theorem run_step_extension {name : String} {payload : Json} {guard : Predicate} :
    (c.step (.node id (.extension name payload guard))).run compile = .ok g ↔
      ∃ strategy, Fields.get? c.strategies name = some strategy ∧
        (strategy c.maxSize ⟨name, payload, guard⟩).run compile = .ok g := by
  simp only [step, Descriptor.shape]
  cases Fields.get? c.strategies name with
  | none => simp
  | some strategy => simp

end Compiler

end Specimen
