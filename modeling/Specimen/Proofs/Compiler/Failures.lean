import Mathlib.Logic.Relation
import Specimen.Proofs.Compiler.Asking
import Specimen.Proofs.Compiler.Depth
import Specimen.Proofs.Intersection.Rules

/-!
# Where compilation errors come from

A step fails at its own node (`FailsAt`) or because a type it compiles does; no failure is made up on
the way. The rules for intersections only hand on what they are told, save that flattening refuses an
empty union, which compiles to the same error by itself. In particular the rules never meet the kinds
they do not take, since they are found by the kinds.

So an error of compilation is one of its own, of which there are three kinds, or a registered strategy
raised it (`failure_of_compileWithin`): not any, but one that a type is handed to (`HandlesAt`) which
was compiled on the way (`Visits`).
-/

namespace Specimen

namespace Plan

variable {α β : Type} {P : Failure → Prop} {compile : Descriptor → Compiled}

/-- However a plan fails, it fails in this way. -/
def FailsOnly (P : Failure → Prop) (compile : Descriptor → Compiled) (plan : Plan α) : Prop :=
  ∀ failure, plan.run compile = .error failure → P failure

namespace FailsOnly

theorem pure (a : α) : FailsOnly P compile (pure a : Plan α) := by
  intro failure ran
  cases ran

theorem fail {e : GenError} (kind : P (.error e)) : FailsOnly P compile (fail e : Plan α) := by
  intro failure ran
  cases ran
  exact kind

/-- A plan for one type fails as the type does. -/
theorem generatorOf {t : Descriptor} (kind : ∀ failure, compile t = .error failure → P failure) :
    FailsOnly P compile (generatorOf t) := by
  intro failure ran
  rw [run_generatorOf] at ran
  exact kind failure ran

/-- A sequence fails as one of its parts does. The second part is asked after any answer of the
first. -/
theorem bind {plan : Plan α} {next : α → Plan β} (first : FailsOnly P compile plan)
    (second : ∀ a, FailsOnly P compile (next a)) : FailsOnly P compile (plan >>= next) := by
  intro failure ran
  rw [run_bind] at ran
  cases result : plan.run compile with
  | ok a => rw [result] at ran; exact second a failure ran
  | error failure' =>
    rw [result] at ran
    cases ran
    exact first failure result

theorem mapM {f : α → Plan β} {as : List α} (each : ∀ a ∈ as, FailsOnly P compile (f a)) :
    FailsOnly P compile (as.mapM f) := by
  induction as with
  | nil => exact pure []
  | cons a as ih =>
    rw [List.mapM_cons]
    refine (each a List.mem_cons_self).bind fun b => ?_
    exact (ih fun a mem => each a (List.mem_cons_of_mem _ mem)).bind fun bs => pure (b :: bs)

end FailsOnly

end Plan

/-- The errors that compilation has of its own. -/
inductive GenError.IsBuiltIn : GenError → Prop
  | unsupportedType (tag : String) : IsBuiltIn (.unsupportedType tag)
  | missingCustomGenerator (tag : String) : IsBuiltIn (.missingCustomGenerator tag)
  | uninhabited : IsBuiltIn (.uninhabited Tag.union.name)

/-! ## Intersections -/

namespace Intersection

variable {c : Compiler} {P : Failure → Prop} {compile : Descriptor → Compiled}
  {types : List Descriptor}

/-- The fallback raises no error of its own. -/
theorem generic_failsOnly (each : ∀ t ∈ types, (Plan.generatorOf t).FailsOnly P compile) :
    (generic types).FailsOnly P compile := by
  refine (Plan.FailsOnly.mapM each).bind fun gs => ?_
  split
  · exact .pure _
  · exact .pure _

/-- Nor does the merge where all types are records, as it is called for no others. -/
theorem mergeRecords_failsOnly (records : ∀ t ∈ types, t.IsRecord)
    (field : ∀ entry ∈ fieldDecls types,
      (Plan.generatorOf (fieldType entry.2.types)).FailsOnly P compile) :
    (mergeRecords types).FailsOnly P compile := by
  have merged : types.findSome? mergeFault? = none :=
    List.findSome?_eq_none_iff.mpr fun t mem => mergeFault?_eq_none.mpr (records t mem)
  rw [mergeRecords, merged]
  refine (Plan.FailsOnly.mapM fun entry mem => ?_).bind fun fields => .pure _
  exact (field entry mem).bind fun source => .pure _

/-- Unions fail as an alternative does, or as a union without one. -/
theorem flattenUnions_failsOnly (unions : ∀ t ∈ types, t.tag = .union)
    (empty : ∀ t ∈ types, t.shape = .union [] → P (.error (.uninhabited Tag.union.name)))
    (alternative : ∀ t ∈ types, ∀ a ∈ alternativesOf t,
      (Plan.generatorOf a).FailsOnly P compile) :
    (flattenUnions types).FailsOnly P compile := by
  unfold flattenUnions
  split
  case h_1 fault found =>
    obtain ⟨⟨id, shape⟩, mem, found⟩ := List.exists_of_findSome?_eq_some found
    have tag := unions _ mem
    cases shape with
    | union alternatives =>
      cases alternatives with
      | nil => cases found; exact .fail (empty _ mem rfl)
      | cons first others => cases found
    | _ => cases tag
  case h_2 =>
    refine (Plan.FailsOnly.mapM fun a pooled => ?_).bind fun gs => .pure _
    obtain ⟨t, mem, among⟩ := List.mem_flatMap.mp (mem_of_mem_pool pooled)
    exact alternative t mem a among

/-- What two or more intersectees come to fails at an empty union among them, in the registered
strategy that they are handed to, or because a type does that the rule compiles. -/
theorem candidate_failsOnly
    (empty : ∀ t ∈ types, t.shape = .union [] → P (.error (.uninhabited Tag.union.name)))
    (rules : ∀ rule ∈ c.customRules,
      (Intersection.rules c).find? (fun rule => covers rule.tags (kinds types)) = some rule →
        (rule.strategy c.maxSize types).FailsOnly P compile)
    (entries : ∀ tags entry, candidate c types = dispatch c types → customTags? types = some tags →
      c.customIntersections.find? (fun entry => covers entry.tags tags) = some entry →
        (entry.strategy c.maxSize types).FailsOnly P compile)
    (each : ∀ t ∈ types, (Plan.generatorOf t).FailsOnly P compile)
    (field : (∀ t ∈ types, t.IsRecord) → ∀ entry ∈ fieldDecls types,
      (Plan.generatorOf (fieldType entry.2.types)).FailsOnly P compile)
    (alternative : ∀ t ∈ types, ∀ a ∈ alternativesOf t,
      (Plan.generatorOf a).FailsOnly P compile) :
    (candidate c types).FailsOnly P compile := by
  cases found : (Intersection.rules c).find? fun rule => covers rule.tags (kinds types) with
  | none =>
    have taken : candidate c types = generic types := by rw [candidate, found]
    rw [taken]
    exact generic_failsOnly each
  | some rule =>
    have taken : candidate c types = rule.strategy c.maxSize types := by rw [candidate, found]
    have covered := List.find?_some found
    -- the rule found is one of the three built in, or one that was registered
    rcases List.mem_append.mp (List.mem_of_find?_eq_some found) with mem | custom
    · obtain ⟨builtIn, _, rfl⟩ := List.mem_map.mp mem
      have kind := covers_kinds.mp covered
      rw [taken]
      cases builtIn with
      | mergeRecords =>
        have records : ∀ t ∈ types, t.IsRecord :=
          fun t mem => (List.mem_pair.mp (kind t mem)).symm
        exact mergeRecords_failsOnly records (field records)
      | flattenUnions =>
        have unions : ∀ t ∈ types, t.tag = .union := fun t mem => List.mem_singleton.mp (kind t mem)
        exact flattenUnions_failsOnly unions empty alternative
      | dispatchConstraints =>
        change (dispatch c types).FailsOnly P compile
        unfold dispatch
        dsimp only
        split
        case h_1 entry found =>
          obtain ⟨tags, tagged, found⟩ := Option.bind_eq_some_iff.mp found
          exact entries tags entry taken tagged found
        case h_2 => exact generic_failsOnly each
    · rw [taken]
      exact rules rule custom found

/-- An intersection fails as its only part does, or else as its candidate does. The guard around it
adds no failure. -/
theorem resolve_failsOnly {intersectees : List Descriptor}
    (each : ∀ t ∈ flatten intersectees, (Plan.generatorOf t).FailsOnly P compile)
    (several : 2 ≤ (flatten intersectees).length →
      (candidate c (flatten intersectees)).FailsOnly P compile) :
    (resolve c intersectees).FailsOnly P compile := by
  unfold resolve
  generalize flatten intersectees = types at each several
  split
  case h_1 => exact .pure _
  case h_2 only => exact (each only List.mem_cons_self).bind fun g => .pure _
  case h_3 notNil notOne =>
    exact (several (two_le_length notNil notOne)).bind fun g => .pure _

end Intersection

namespace Compiler

/-! ## Nodes -/

/-- A node at which compilation fails, for a reason that lies in the node, given what other types are
compiled to. -/
inductive FailsAt (c : Compiler) (compile : Descriptor → Compiled) : Descriptor → Failure → Prop
  | emptyUnion {id : Nat} :
    FailsAt c compile (.node id (.union [])) (.error (.uninhabited Tag.union.name))
  | noExtension {id : Nat} {name : String} {payload : Json} {guard : Predicate}
      (unregistered : Fields.get? c.strategies name = none) :
    FailsAt c compile (.node id (.extension name payload guard)) (.error (.unsupportedType name))
  | extension {id : Nat} {name : String} {payload : Json} {guard : Predicate}
      {strategy : ExtensionStrategy} {failure : Failure}
      (registered : Fields.get? c.strategies name = some strategy)
      (failed : (strategy c.maxSize ⟨name, payload, guard⟩).run compile = .error failure) :
    FailsAt c compile (.node id (.extension name payload guard)) failure
  | noConstraint {id : Nat} {underlying : Descriptor} {predicate : Predicate}
      {correction : Option Correction} {arguments : Option (Args Descriptor)}
      {args : Args Descriptor} (marked : Descriptor.marking arguments = some args)
      (unregistered : Fields.get? c.customConstraints args.tag = none) :
    FailsAt c compile (.node id (.constraint underlying predicate correction arguments))
      (.error (.missingCustomGenerator args.tag))
  | constraint {id : Nat} {underlying : Descriptor} {predicate : Predicate}
      {correction : Option Correction} {arguments : Option (Args Descriptor)}
      {args : Args Descriptor} {strategy : ConstraintStrategy} {failure : Failure}
      (marked : Descriptor.marking arguments = some args)
      (registered : Fields.get? c.customConstraints args.tag = some strategy)
      (failed : (strategy c.maxSize ⟨underlying, predicate, correction, args⟩).run compile =
        .error failure) :
    FailsAt c compile (.node id (.constraint underlying predicate correction arguments)) failure

variable {c : Compiler} {P : Failure → Prop} {compile : Descriptor → Compiled}

private theorem compileFields_failsOnly {fields : List (String × Descriptor)}
    (each : ∀ t ∈ fields.map Prod.snd, (Plan.generatorOf t).FailsOnly P compile) :
    (compileFields fields).FailsOnly P compile :=
  .mapM fun field mem => (each field.2 (List.mem_map_of_mem mem)).bind fun g => .pure (field.1, g)

/-- A step that is no intersection's fails at its node or because a part does. -/
theorem step_failsOnly_of_plain {id : Nat} {shape : Shape} (plain : shape.tag ≠ .intersect)
    (here : ∀ failure, c.FailsAt compile (.node id shape) failure → P failure)
    (below : ∀ part ∈ shape.parts, (Plan.generatorOf part).FailsOnly P compile) :
    (c.step (.node id shape)).FailsOnly P compile := by
  cases shape with
  | array element => exact (below element List.mem_cons_self).bind fun g => .pure _
  | constraint underlying predicate correction arguments =>
    simp only [step, Descriptor.shape]
    unfold compileConstraint
    split
    case h_1 unmarked =>
      rw [Shape.parts_of_unmarked unmarked] at below
      refine (below underlying List.mem_cons_self).bind fun source => ?_
      split
      · exact .pure _
      · exact .pure _
    case h_2 args marked =>
      split
      case h_1 unregistered => exact .fail (here _ (.noConstraint marked unregistered))
      case h_2 strategy registered =>
        exact fun failure failed => here failure (.constraint marked registered failed)
  | dictionary value => exact (below value List.mem_cons_self).bind fun g => .pure _
  | intersect intersectees => exact absurd rfl plain
  | partialRecord fields => exact (compileFields_failsOnly below).bind fun gs => .pure _
  | record fields => exact (compileFields_failsOnly below).bind fun gs => .pure _
  | tuple components => exact (Plan.FailsOnly.mapM below).bind fun gs => .pure _
  | union alternatives =>
    cases alternatives with
    | nil => exact .fail (here _ .emptyUnion)
    | cons first others =>
      intro failure ran
      change ((first :: others).mapM Plan.generatorOf >>= _).run compile = .error failure at ran
      cases made : ((first :: others).mapM Plan.generatorOf).run compile with
      | error failure' =>
        rw [Plan.run_bind, made] at ran
        cases ran
        exact Plan.FailsOnly.mapM below failure made
      | ok gs =>
        rw [Plan.run_bind, made] at ran
        cases run_mapM_generatorOf_eq_ok.mp made
        cases ran
  | extension name payload guard =>
    simp only [step, Descriptor.shape]
    split
    case h_1 unregistered => exact .fail (here _ (.noExtension unregistered))
    case h_2 strategy registered =>
      exact fun failure failed => here failure (.extension registered failed)
  | _ => exact .pure _

/-! ## Causes -/

/-- What registered strategies do with the nodes they are handed. -/
inductive Handles (c : Compiler) : Plan Generator → Prop
  | extension {name : String} {strategy : ExtensionStrategy} (node : ExtensionNode)
      (registered : (name, strategy) ∈ c.strategies) : Handles c (strategy c.maxSize node)
  | constraint {tag : String} {strategy : ConstraintStrategy} (node : MarkedConstraint)
      (registered : (tag, strategy) ∈ c.customConstraints) : Handles c (strategy c.maxSize node)
  | rule {rule : IntersectionRule} (types : List Descriptor)
      (registered : rule ∈ c.customRules) : Handles c (rule.strategy c.maxSize types)
  | intersection {entry : CustomIntersection} (types : List Descriptor)
      (registered : entry ∈ c.customIntersections) : Handles c (entry.strategy c.maxSize types)

open Intersection in
/-- What the registered strategy does that a type is handed to, if it is handed to one: that of its
name or its tag, or for an intersection the one that is found for its kinds or for its tags. -/
inductive HandlesAt (c : Compiler) : Descriptor → Plan Generator → Prop
  | extension {id : Nat} {name : String} {payload : Json} {guard : Predicate}
      {strategy : ExtensionStrategy} (registered : Fields.get? c.strategies name = some strategy) :
    HandlesAt c (.node id (.extension name payload guard))
      (strategy c.maxSize ⟨name, payload, guard⟩)
  | constraint {id : Nat} {underlying : Descriptor} {predicate : Predicate}
      {correction : Option Correction} {arguments : Option (Args Descriptor)}
      {args : Args Descriptor} {strategy : ConstraintStrategy}
      (marked : Descriptor.marking arguments = some args)
      (registered : Fields.get? c.customConstraints args.tag = some strategy) :
    HandlesAt c (.node id (.constraint underlying predicate correction arguments))
      (strategy c.maxSize ⟨underlying, predicate, correction, args⟩)
  | rule {id : Nat} {intersectees : List Descriptor} {rule : IntersectionRule}
      (several : 2 ≤ (flatten intersectees).length) (registered : rule ∈ c.customRules)
      (found : (rules c).find? (fun rule => covers rule.tags (kinds (flatten intersectees))) =
        some rule) :
    HandlesAt c (.node id (.intersect intersectees))
      (rule.strategy c.maxSize (flatten intersectees))
  | intersection {id : Nat} {intersectees : List Descriptor} {tags : List String}
      {entry : CustomIntersection} (several : 2 ≤ (flatten intersectees).length)
      (dispatched : candidate c (flatten intersectees) = dispatch c (flatten intersectees))
      (tagged : customTags? (flatten intersectees) = some tags)
      (found : c.customIntersections.find? (fun entry => covers entry.tags tags) = some entry) :
    HandlesAt c (.node id (.intersect intersectees))
      (entry.strategy c.maxSize (flatten intersectees))

theorem HandlesAt.handles {t : Descriptor} {plan : Plan Generator} (here : c.HandlesAt t plan) :
    c.Handles plan := by
  cases here with
  | extension registered => exact .extension _ (Fields.mem_of_get? registered)
  | constraint _ registered => exact .constraint _ (Fields.mem_of_get? registered)
  | rule _ registered => exact .rule _ registered
  | intersection _ _ _ found => exact .intersection _ (List.mem_of_find?_eq_some found)

/-- The step of a type that is handed to a strategy begins with what the strategy does. -/
theorem HandlesAt.exists_step_eq {t : Descriptor} {plan : Plan Generator}
    (here : c.HandlesAt t plan) : ∃ next, c.step t = plan >>= next := by
  cases here with
  | extension registered =>
    refine ⟨pure, ?_⟩
    simp only [step, Descriptor.shape, registered, bind_pure]
  | constraint marked registered =>
    refine ⟨pure, ?_⟩
    simp only [step, Descriptor.shape, compileConstraint, marked, registered, bind_pure]
  | @rule _ intersectees _ several _ found =>
    refine ⟨fun g => pure (Intersection.guarded g "intersection guard"
      (Intersection.flatten intersectees)), (Intersection.resolve_of_several several).trans ?_⟩
    rw [Intersection.candidate, found]
  | @intersection _ intersectees _ _ several dispatched tagged found =>
    refine ⟨fun g => pure (Intersection.guarded g "intersection guard"
      (Intersection.flatten intersectees)), (Intersection.resolve_of_several several).trans ?_⟩
    rw [dispatched, Intersection.dispatch, tagged, Option.bind_some, found]

/-- Compiling a type has another compiled on the way, or is compiling that type. -/
def Visits (c : Compiler) : Descriptor → Descriptor → Prop :=
  Relation.ReflTransGen fun t s => (c.step t).AsksIn c.eventually s

/-- The registered strategy that a type is handed to ends in an error. -/
def RaisesAt (c : Compiler) (t : Descriptor) (e : GenError) : Prop :=
  ∃ plan, c.HandlesAt t plan ∧ plan.run c.eventually = .error (.error e)

/-- A registered strategy that is called while a type is compiled ends in an error. -/
def Raises (c : Compiler) (t : Descriptor) (e : GenError) : Prop :=
  ∃ s, c.Visits t s ∧ c.RaisesAt s e

/-- What fails at a node is an error of compilation's own or the strategy it is handed to. -/
theorem FailsAt.cause {t : Descriptor} {failure : Failure} (failed : c.FailsAt compile t failure) :
    (∃ e, failure = .error e ∧ e.IsBuiltIn) ∨
      ∃ plan, c.HandlesAt t plan ∧ plan.run compile = .error failure := by
  cases failed with
  | emptyUnion => exact .inl ⟨_, rfl, .uninhabited⟩
  | noExtension => exact .inl ⟨_, rfl, .unsupportedType _⟩
  | extension registered failed => exact .inr ⟨_, .extension registered, failed⟩
  | noConstraint => exact .inl ⟨_, rfl, .missingCustomGenerator _⟩
  | constraint marked registered failed => exact .inr ⟨_, .constraint marked registered, failed⟩

/-- A step fails for a reason of its own, for one of the strategy that its node is handed to, or for
one of the types it compiles. -/
theorem step_failsOnly (t : Descriptor) (builtIn : ∀ e, GenError.IsBuiltIn e → P (.error e))
    (handled : ∀ plan, c.HandlesAt t plan → plan.FailsOnly P compile)
    (compiled : ∀ t, (Plan.generatorOf t).FailsOnly P compile) :
    (c.step t).FailsOnly P compile := by
  obtain ⟨id, shape⟩ := t
  by_cases plain : shape.tag = .intersect
  · obtain ⟨intersectees, rfl⟩ := Shape.tag_eq_intersect.mp plain
    refine Intersection.resolve_failsOnly (fun t _ => compiled t) fun several => ?_
    refine Intersection.candidate_failsOnly ?_ ?_ ?_ (fun t _ => compiled t)
      (fun _ entry _ => compiled _) (fun _ _ a _ => compiled a)
    · exact fun _ _ _ => builtIn _ .uninhabited
    · exact fun rule registered found => handled _ (.rule several registered found)
    · exact fun tags entry dispatched tagged found =>
        handled _ (.intersection several dispatched tagged found)
  · refine step_failsOnly_of_plain plain ?_ fun t _ => compiled t
    intro failure failed
    rcases failed.cause with ⟨e, rfl, kind⟩ | ⟨plan, handles, ran⟩
    · exact builtIn e kind
    · exact handled plan handles failure ran

open Classical in
/-- An error of compilation is one of its own, or a registered strategy raised it that was called on
the way. -/
theorem failure_of_compileWithin {c : Compiler} {e : GenError} :
    ∀ {depth : Nat} {t : Descriptor}, c.compileWithin depth t = .error (.error e) →
      e.IsBuiltIn ∨ c.Raises t e
  | 0, _, failed => by cases failed
  | depth + 1, t, failed => by
    -- of all types only those asked for count, so the others may be told to be anything
    let told : Descriptor → Compiled := fun s =>
      if (c.step t).AsksIn (c.compileWithin depth) s then c.compileWithin depth s else .ok .boolean
    have asked : ∀ s, (c.step t).AsksIn (c.compileWithin depth) s →
        c.compileWithin depth s = told s := fun s asked => (if_pos asked).symm
    have blamed : (c.step t).FailsOnly
        (fun failure => ∀ e, failure = .error e → e.IsBuiltIn ∨ c.Raises t e) told := by
      refine step_failsOnly t ?_ ?_ ?_
      · rintro e kind _ ⟨⟩
        exact .inl kind
      · rintro plan handles _ ran e rfl
        obtain ⟨next, begins⟩ := handles.exists_step_eq
        have same : plan.run (c.compileWithin depth) = plan.run told :=
          Plan.run_congr_of_asked fun s within => asked s (begins ▸ within.bind next)
        have ends := Plan.run_extends (c.extends_eventually depth) plan (by simp [same, ran])
        exact .inr ⟨t, .refl, plan, handles, ends.trans (same.trans ran)⟩
      · refine fun s => .generatorOf ?_
        rintro _ failed e rfl
        by_cases within : (c.step t).AsksIn (c.compileWithin depth) s
        · rw [← asked s within] at failed
          refine (failure_of_compileWithin failed).imp_right ?_
          rintro ⟨cause, visited, raised⟩
          exact ⟨cause, .head (within.of_extends (c.extends_eventually depth)) visited, raised⟩
        · rw [show told s = .ok .boolean from if_neg within] at failed
          cases failed
    have same : (c.step t).run told = .error (.error e) :=
      (Plan.run_congr_of_asked asked).symm.trans failed
    exact blamed _ same e rfl

end Compiler

end Specimen
