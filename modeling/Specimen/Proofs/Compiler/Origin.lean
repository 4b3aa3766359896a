import Specimen.Proofs.Compiler.Failures
import Specimen.Proofs.Compiler.Step
import Specimen.Proofs.Generator.Induction
import Specimen.Proofs.Intersection.Rules

/-!
# Where the nodes of a generator come from

A step puts its generator together from those that it is told of the types it has compiled, or
leaves the making to a registered strategy. What it adds of its own is no tape, and a search only
under a few labels (`Origin`). So what is to be known of all tapes or of all searches in compiled
generators is asked of registered strategies and of these few, and carried along by induction on how
deep compilations nest.
-/

namespace Specimen

open Intersection in
/-- Where a node comes from that stands in what a step makes. -/
inductive Origin (c : Compiler) (compile : Descriptor → Compiled) : Generator → Prop
  /-- It stands in what a type is compiled to. -/
  | told {t : Descriptor} {g h : Generator} (compiled : compile t = .ok g) (mem : h ∈ g.nodes) :
    Origin c compile h
  /-- It stands in what a registered strategy answers. -/
  | answered {plan : Plan Generator} {g h : Generator} (handles : c.Handles plan)
    (ran : plan.run compile = .ok g) (mem : h ∈ g.nodes) : Origin c compile h
  /-- It is neither a tape nor a search. -/
  | plain {h : Generator} (plain : h.isPlain = true) : Origin c compile h
  /-- It is the filter of an unmarked constraint. -/
  | constraint (source : Generator) (predicate : Predicate) : Origin c compile
    (.filtered source (some (Compiler.constraintLabel predicate)) predicate.test)
  /-- It is the filter of the generic way. -/
  | generic (source : Generator) (types : List Descriptor) : Origin c compile
    (guarded source ("no draw satisfied every intersectee of `" ++ kindsLabel types ++ "`") types)
  /-- It is the search among pooled alternatives. -/
  | pooled (candidates : List Generator) (types : List Descriptor) : Origin c compile
    (.rotated candidates "no flattened alternative satisfied every union"
      (Descriptor.guardAll types))
  /-- It is the guard of a merged field. -/
  | field {types : List Descriptor} {source : Generator} (name : String)
    (compiled : compile (fieldType types) = .ok source) : Origin c compile
    (guarded source ("field `" ++ name ++ "` rejected") types)
  /-- It is the guard of an intersection of one type. -/
  | only {t : Descriptor} {source : Generator} (compiled : compile t = .ok source) :
    Origin c compile (guarded source "intersection guard" [t])
  /-- It is the guard of an intersection of several types. -/
  | several {types : List Descriptor} {source : Generator}
    (made : (candidate c types).run compile = .ok source) :
    Origin c compile (guarded source "intersection guard" types)

variable {c : Compiler} {compile : Descriptor → Compiled} {g h : Generator}
  {types : List Descriptor}

namespace Origin

/-! ## Several types -/

/-- What belongs to one of several types' generators comes from compiling that type. -/
theorem of_types {gs : List Generator}
    (each : List.Forall₂ (fun t g => compile t = .ok g) types gs)
    (mem : h ∈ Generator.nodesAll gs) : Origin c compile h := by
  obtain ⟨g, among, mem⟩ := Generator.mem_nodesAll.mp mem
  obtain ⟨t, _, compiled⟩ := each.exists_of_mem_right among
  exact .told compiled mem

theorem of_fields {fields : List (String × Descriptor)} {entries : List (String × Generator)}
    (each : List.Forall₂ (Compiler.FieldCompiled compile) fields entries)
    {entry : String × Generator} (among : entry ∈ entries) (mem : h ∈ entry.2.nodes) :
    Origin c compile h := by
  obtain ⟨field, _, _, compiled⟩ := each.exists_of_mem_right among
  exact .told compiled mem

/-! ## Intersections -/

/-- The fallback draws from any of the types and puts its own guard around that. -/
theorem of_generic (made : (Intersection.generic types).run compile = .ok g) (mem : h ∈ g.nodes) :
    Origin c compile h := by
  by_cases empty : types = []
  · subst empty
    cases made
    exact .plain (List.mem_singleton.mp mem ▸ rfl)
  · obtain ⟨first, others, each, rfl⟩ := (Intersection.run_generic empty).mp made
    rcases List.mem_cons.mp mem with rfl | mem
    · exact .generic _ _
    · rcases List.mem_cons.mp mem with rfl | mem
      · exact .plain rfl
      · exact of_types each mem

/-- A merged field is compiled from all types declared for it as from one, within a filter that
bears the field's name. -/
theorem of_merged {name : String} {decls : Intersection.FieldDecls} {source : Generator}
    (compiled : compile (Intersection.fieldType decls.types) = .ok source)
    (mem : h ∈ (Intersection.merged name decls source).nodes) : Origin c compile h := by
  have guard : ∀ h ∈ (Intersection.guarded source ("field `" ++ name ++ "` rejected")
      decls.types).nodes, Origin c compile h := by
    intro h mem
    rcases List.mem_cons.mp mem with rfl | mem
    · exact .field name compiled
    · exact .told compiled mem
  cases required : decls.required with
  | true =>
    rw [Intersection.merged_of_required required] at mem
    exact guard h mem
  | false =>
    rw [Intersection.merged_of_optional required] at mem
    exact (Generator.mem_nodes_optional mem).elim .plain (guard h)

/-- Whichever rule an intersection goes by, also one of a strategy's. -/
theorem of_candidate (made : (Intersection.candidate c types).run compile = .ok g)
    (mem : h ∈ g.nodes) : Origin c compile h := by
  unfold Intersection.candidate at made
  split at made
  case h_1 rule found =>
    rcases List.mem_append.mp (List.mem_of_find?_eq_some found) with builtIn | custom
    · obtain ⟨rule, _, rfl⟩ := List.mem_map.mp builtIn
      cases rule with
      | mergeRecords =>
        obtain ⟨_, fields, each, rfl⟩ := Intersection.run_mergeRecords.mp made
        rcases List.mem_cons.mp mem with rfl | mem
        · exact .plain rfl
        · rcases List.mem_cons.mp mem with rfl | mem
          · exact .plain rfl
          · obtain ⟨field, among, mem⟩ := Generator.mem_nodesFields.mp mem
            obtain ⟨entry, _, _, source, compiled, same⟩ := each.exists_of_mem_right among
            exact of_merged compiled (same ▸ mem)
      | flattenUnions =>
        obtain ⟨_, candidates, each, rfl⟩ := Intersection.run_flattenUnions.mp made
        rcases List.mem_cons.mp mem with rfl | mem
        · exact .pooled _ _
        · exact of_types each mem
      | dispatchConstraints =>
        change (Intersection.dispatch c types).run compile = .ok g at made
        unfold Intersection.dispatch at made
        dsimp only at made
        split at made
        case h_1 entry found =>
          obtain ⟨tags, _, found⟩ := Option.bind_eq_some_iff.mp found
          exact .answered (.intersection types (List.mem_of_find?_eq_some found)) made mem
        case h_2 => exact of_generic made mem
    · exact .answered (.rule types custom) made mem
  case h_2 => exact of_generic made mem

/-- Resolving puts a guard around the candidate, which is the one filter that it adds. -/
theorem of_resolve {intersectees : List Descriptor}
    (made : (Intersection.resolve c intersectees).run compile = .ok g) (mem : h ∈ g.nodes) :
    Origin c compile h := by
  unfold Intersection.resolve at made
  split at made
  case h_1 =>
    cases made
    exact .plain (List.mem_singleton.mp mem ▸ rfl)
  case h_2 only _ =>
    obtain ⟨source, first, last⟩ := Plan.run_bind_eq_ok.mp made
    rw [Plan.run_generatorOf] at first
    cases last
    rcases List.mem_cons.mp mem with rfl | mem
    · exact .only first
    · exact .told first mem
  case h_3 =>
    obtain ⟨source, first, last⟩ := Plan.run_bind_eq_ok.mp made
    cases last
    rcases List.mem_cons.mp mem with rfl | mem
    · exact .several first
    · exact of_candidate first mem

/-! ## All nodes -/

/-- Each node of what a step makes comes from somewhere. -/
theorem of_step {t : Descriptor} (made : (c.step t).run compile = .ok g) (mem : h ∈ g.nodes) :
    Origin c compile h := by
  obtain ⟨id, shape⟩ := t
  cases shape with
  | array element =>
    obtain ⟨inner, compiled, rfl⟩ := Compiler.run_step_array.mp made
    -- of each shape the outermost node is its own, and the others were told
    rcases List.mem_cons.mp mem with rfl | mem
    · exact .plain rfl
    · exact .told compiled mem
  | constraint underlying predicate correction arguments =>
    cases marked : Descriptor.marking arguments with
    | none =>
      obtain ⟨source, compiled, rfl⟩ := (Compiler.run_step_unmarked marked).mp made
      cases correction with
      | none =>
        rcases List.mem_cons.mp mem with rfl | mem
        · exact .constraint _ _
        · exact .told compiled mem
      | some fix =>
        rcases List.mem_cons.mp mem with rfl | mem
        · exact .plain rfl
        · exact .told compiled mem
    | some args =>
      obtain ⟨strategy, registered, ran⟩ := (Compiler.run_step_marked marked).mp made
      exact .answered (.constraint _ (Fields.mem_of_get? registered)) ran mem
  | dictionary value =>
    obtain ⟨inner, compiled, rfl⟩ := Compiler.run_step_dictionary.mp made
    rcases List.mem_cons.mp mem with rfl | mem
    · exact .plain rfl
    · exact .told compiled mem
  | intersect intersectees => exact of_resolve made mem
  | partialRecord fields =>
    obtain ⟨entries, each, rfl⟩ := Compiler.run_step_partialRecord.mp made
    rcases List.mem_cons.mp mem with rfl | mem
    · exact .plain rfl
    · rcases List.mem_cons.mp mem with rfl | mem
      · exact .plain rfl
      · obtain ⟨shown, among, mem⟩ := Generator.mem_nodesFields.mp mem
        obtain ⟨entry, own, rfl⟩ := List.mem_map.mp among
        exact (Generator.mem_nodes_optional mem).elim .plain (of_fields each own)
  | record fields =>
    obtain ⟨entries, each, rfl⟩ := Compiler.run_step_record.mp made
    rcases List.mem_cons.mp mem with rfl | mem
    · exact .plain rfl
    · obtain ⟨entry, among, mem⟩ := Generator.mem_nodesFields.mp mem
      exact of_fields each among mem
  | tuple components =>
    obtain ⟨gs, each, rfl⟩ := Compiler.run_step_tuple.mp made
    rcases List.mem_cons.mp mem with rfl | mem
    · exact .plain rfl
    · exact of_types each mem
  | union alternatives =>
    obtain ⟨first, others, each, rfl⟩ := Compiler.run_step_union.mp made
    rcases List.mem_cons.mp mem with rfl | mem
    · exact .plain rfl
    · exact of_types each mem
  | extension name payload guard =>
    obtain ⟨strategy, registered, ran⟩ := Compiler.run_step_extension.mp made
    exact .answered (.extension _ (Fields.mem_of_get? registered)) ran mem
  | _ =>
    cases made
    exact .plain (List.mem_singleton.mp mem ▸ rfl)

end Origin

end Specimen
