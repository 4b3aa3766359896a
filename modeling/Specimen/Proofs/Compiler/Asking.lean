import Specimen.Compiler.Contains
import Specimen.Proofs.Intersection.Rules

/-!
# Which types a plan has compiled

What a plan asks for is a matter of the plan alone, whatever it is told of the types it asked for
before (`AsksOnly`). So a plan comes to the same under two ways of compiling that agree on the types
it may ask for (`run_congr`).

The steps of compilation ask for the parts of their node, for the types of merged fields, and for what
registered strategies ask for: one law for intersections and one for all other nodes say so for any
condition on types (`Intersection.resolve_asksOnly`, `Compiler.step_asksOnly_of_plain`).

That a plan may ask for a type is the other side of this (`Asks`): it does if it is told the right
things before. What a plan asks for in one run, told what types do compile to, is less than that
(`AsksIn`), and no more than that decides what the run comes to (`run_congr_of_asked`).
-/

namespace Specimen

namespace Plan

variable {α β : Type} {P : Descriptor → Prop} {compile compile' : Descriptor → Compiled}

/-- Whatever a plan is told, the types it has compiled are of one sort. -/
def AsksOnly (P : Descriptor → Prop) : Plan α → Prop
  | .answer _ => True
  | .compile t next => P t ∧ ∀ result, (next result).AsksOnly P

/-- A plan is not told of compilations that are none of its business. -/
theorem run_congr (same : ∀ t, P t → compile t = compile' t) {plan : Plan α}
    (asks : plan.AsksOnly P) : plan.run compile = plan.run compile' := by
  induction plan with
  | answer result => rfl
  | compile t next ih =>
    obtain ⟨here, after⟩ := asks
    rw [run, run, ← same t here]
    cases compile t with
    | ok g => exact ih (.ok g) (after (.ok g))
    | error failure =>
      cases failure with
      | error e => exact ih (.error e) (after (.error e))
      | abandoned => rfl

namespace AsksOnly

theorem pure (a : α) : AsksOnly P (pure a : Plan α) := trivial

theorem fail {e : GenError} : AsksOnly P (fail e : Plan α) := trivial

theorem generatorOf {t : Descriptor} (sort : P t) : AsksOnly P (generatorOf t) :=
  ⟨sort, fun _ => trivial⟩

/-- What is asked for is of any wider sort as well. -/
theorem imp {Q : Descriptor → Prop} (weaker : ∀ t, P t → Q t) {plan : Plan α}
    (asks : plan.AsksOnly P) : plan.AsksOnly Q := by
  induction plan with
  | answer result => trivial
  | compile t next ih => exact ⟨weaker t asks.1, fun result => ih result (asks.2 result)⟩

/-- The second part has to ask for the right sort after any answer, since it is not known which one
it gets. -/
theorem bind {plan : Plan α} {next : α → Plan β} (first : plan.AsksOnly P)
    (second : ∀ a, (next a).AsksOnly P) : (plan >>= next).AsksOnly P := by
  change (plan.bind next).AsksOnly P
  induction plan with
  | answer result =>
    cases result with
    | ok a => exact second a
    | error failure => trivial
  | compile t go ih => exact ⟨first.1, fun result => ih result (first.2 result)⟩

/-- A list of plans asks for what its parts ask for. -/
theorem mapM {f : α → Plan β} {as : List α} (each : ∀ a ∈ as, (f a).AsksOnly P) :
    (as.mapM f).AsksOnly P := by
  induction as with
  | nil => exact pure []
  | cons a as ih =>
    rw [List.mapM_cons]
    refine (each a List.mem_cons_self).bind fun b => ?_
    exact (ih fun a mem => each a (List.mem_cons_of_mem _ mem)).bind fun bs => pure (b :: bs)

end AsksOnly

/-! ## What a plan may ask for -/

/-- A plan may have a type compiled, if it is told the right things before. -/
def Asks (s : Descriptor) : Plan α → Prop
  | .answer _ => False
  | .compile t next => t = s ∨ ∃ result, (next result).Asks s

/-- What a plan asks for is of the sort that it asks for only. -/
theorem AsksOnly.of_asks {s : Descriptor} {plan : Plan α} (only : plan.AsksOnly P)
    (asks : plan.Asks s) : P s := by
  induction plan with
  | answer result => exact asks.elim
  | compile t next ih =>
    rcases asks with rfl | ⟨result, later⟩
    · exact only.1
    · exact ih result (only.2 result) later

namespace Asks

variable {s : Descriptor} {a : α}

theorem generatorOf (s : Descriptor) : (generatorOf s).Asks s := .inl rfl

theorem bind {plan : Plan α} (next : α → Plan β) (asks : plan.Asks s) :
    (plan >>= next).Asks s := by
  change (plan.bind next).Asks s
  induction plan with
  | answer result => exact asks.elim
  | compile t go ih =>
    rcases asks with here | ⟨result, later⟩
    · exact .inl here
    · exact .inr ⟨result, ih result later⟩

/-- What stands after a plan is reached where the plan comes to a result. -/
theorem bind_of_run {plan : Plan α} {next : α → Plan β} (ran : plan.run compile = .ok a)
    (asks : (next a).Asks s) : (plan >>= next).Asks s := by
  change (plan.bind next).Asks s
  induction plan with
  | answer result =>
    cases ran
    exact asks
  | compile t go ih =>
    rw [run] at ran
    cases told : compile t with
    | ok g => exact .inr ⟨.ok g, ih (.ok g) (by rw [told] at ran; exact ran)⟩
    | error failure =>
      cases failure with
      | error e => exact .inr ⟨.error e, ih (.error e) (by rw [told] at ran; exact ran)⟩
      | abandoned =>
        rw [told] at ran
        cases ran

/-- A list of plans gets to each of them if all before it come to something. -/
theorem mapM {f : α → Plan β} : ∀ {as : List α}, (∀ a ∈ as, ∃ b, (f a).run compile = .ok b) →
    a ∈ as → (f a).Asks s → (as.mapM f).Asks s
  | first :: rest, each, mem, asks => by
    rw [List.mapM_cons]
    rcases List.mem_cons.mp mem with rfl | mem
    · exact asks.bind _
    · obtain ⟨b, ran⟩ := each first List.mem_cons_self
      have others : ∀ a ∈ rest, ∃ b, (f a).run compile = .ok b :=
        fun a mem => each a (List.mem_cons_of_mem _ mem)
      exact bind_of_run ran ((Asks.mapM others mem asks).bind _)

end Asks

/-! ## What a run asks for -/

/-- Run with what types compile to, a plan has a type compiled: at once, or once it is told of
another that is compiled before. -/
inductive AsksIn (compile : Descriptor → Compiled) (s : Descriptor) : Plan α → Prop
  | here {next : Except GenError Generator → Plan α} : AsksIn compile s (.compile s next)
  | told {t : Descriptor} {g : Generator} {next : Except GenError Generator → Plan α}
    (compiled : compile t = .ok g) (later : AsksIn compile s (next (.ok g))) :
    AsksIn compile s (.compile t next)
  | failed {t : Descriptor} {e : GenError} {next : Except GenError Generator → Plan α}
    (compiled : compile t = .error (.error e)) (later : AsksIn compile s (next (.error e))) :
    AsksIn compile s (.compile t next)

/-- What a run comes to is decided by the types it asks for. -/
theorem run_congr_of_asked {plan : Plan α}
    (same : ∀ s, plan.AsksIn compile s → compile s = compile' s) :
    plan.run compile = plan.run compile' := by
  induction plan with
  | answer result => rfl
  | compile t next ih =>
    rw [run, run, ← same t .here]
    cases compiled : compile t with
    | ok g => exact ih (.ok g) fun s later => same s (.told compiled later)
    | error failure =>
      cases failure with
      | error e => exact ih (.error e) fun s later => same s (.failed compiled later)
      | abandoned => rfl

namespace AsksIn

variable {s : Descriptor}

/-- What a plan asks for, it also asks for where another goes on after it. -/
theorem bind {plan : Plan α} (next : α → Plan β) (asked : plan.AsksIn compile s) :
    (plan >>= next).AsksIn compile s := by
  change (plan.bind next).AsksIn compile s
  induction asked with
  | here => exact .here
  | told compiled _ ih => exact .told compiled ih
  | failed compiled _ ih => exact .failed compiled ih

/-- A run asks for no less when more is compiled. -/
theorem of_extends {plan : Plan α} (ext : Extends compile compile')
    (asked : plan.AsksIn compile s) : plan.AsksIn compile' s := by
  induction asked with
  | here => exact .here
  | told compiled _ ih => exact .told ((ext _ (by simp [compiled])).trans compiled) ih
  | failed compiled _ ih => exact .failed ((ext _ (by simp [compiled])).trans compiled) ih

end AsksIn

end Plan

/-! ## Intersections -/

namespace Intersection

variable {c : Compiler} {P : Descriptor → Prop} {types : List Descriptor}

/-- The fallback asks for the types it was given. -/
theorem generic_asksOnly (each : ∀ t ∈ types, P t) : (generic types).AsksOnly P := by
  refine (Plan.AsksOnly.mapM fun t mem => .generatorOf (each t mem)).bind fun gs => ?_
  split
  · exact .pure _
  · exact .pure _

/-- The merge asks for one type for each field, and for none if something is no record. -/
theorem mergeRecords_asksOnly
    (field : (∀ t ∈ types, t.IsRecord) → ∀ entry ∈ fieldDecls types, P (fieldType entry.2.types)) :
    (mergeRecords types).AsksOnly P := by
  unfold mergeRecords
  split
  case h_1 => exact .fail
  case h_2 fit =>
    have records : ∀ t ∈ types, t.IsRecord :=
      fun t mem => mergeFault?_eq_none.mp (List.findSome?_eq_none_iff.mp fit t mem)
    refine (Plan.AsksOnly.mapM fun entry mem => ?_).bind fun fields => .pure _
    exact (Plan.AsksOnly.generatorOf (field records entry mem)).bind fun source => .pure _

/-- Unions ask for alternatives of theirs. -/
theorem flattenUnions_asksOnly (alternative : ∀ t ∈ types, ∀ a ∈ alternativesOf t, P a) :
    (flattenUnions types).AsksOnly P := by
  unfold flattenUnions
  split
  case h_1 => exact .fail
  case h_2 =>
    refine (Plan.AsksOnly.mapM fun a pooled => .generatorOf ?_).bind fun gs => .pure _
    obtain ⟨t, mem, among⟩ := List.mem_flatMap.mp (mem_of_mem_pool pooled)
    exact alternative t mem a among

/-- An intersection asks for its intersectees, for types of merged fields, for alternatives, or for
what a registered strategy asks for. -/
theorem resolve_asksOnly {intersectees : List Descriptor}
    (rules : ∀ rule ∈ c.customRules,
      (rule.strategy c.maxSize (flatten intersectees)).AsksOnly P)
    (entries : ∀ entry ∈ c.customIntersections,
      (entry.strategy c.maxSize (flatten intersectees)).AsksOnly P)
    (each : ∀ t ∈ flatten intersectees, P t)
    (field : 2 ≤ (flatten intersectees).length → (∀ t ∈ flatten intersectees, t.IsRecord) →
      ∀ entry ∈ fieldDecls (flatten intersectees), P (fieldType entry.2.types))
    (alternative : ∀ t ∈ flatten intersectees, ∀ a ∈ alternativesOf t, P a) :
    (resolve c intersectees).AsksOnly P := by
  unfold resolve
  generalize flatten intersectees = types at rules entries each field alternative
  split
  case h_1 => exact .pure _
  case h_2 only =>
    exact (Plan.AsksOnly.generatorOf (each only List.mem_cons_self)).bind fun g => .pure _
  case h_3 notNil notOne =>
    refine Plan.AsksOnly.bind ?_ fun g => .pure _
    unfold candidate
    split
    case h_2 => exact generic_asksOnly each
    case h_1 rule found =>
      rcases List.mem_append.mp (List.mem_of_find?_eq_some found) with builtIn | custom
      · obtain ⟨rule, _, rfl⟩ := List.mem_map.mp builtIn
        cases rule with
        | mergeRecords => exact mergeRecords_asksOnly (field (two_le_length notNil notOne))
        | flattenUnions => exact flattenUnions_asksOnly alternative
        | dispatchConstraints =>
          change (dispatch c types).AsksOnly P
          unfold dispatch
          dsimp only
          split
          case h_1 entry found =>
            obtain ⟨tags, _, found⟩ := Option.bind_eq_some_iff.mp found
            exact entries entry (List.mem_of_find?_eq_some found)
          case h_2 => exact generic_asksOnly each
      · exact rules rule custom

end Intersection

/-! ## Other nodes -/

namespace Compiler

variable {c : Compiler} {P : Descriptor → Prop}

private theorem compileFields_asksOnly {fields : List (String × Descriptor)}
    (each : ∀ t ∈ fields.map Prod.snd, P t) : (compileFields fields).AsksOnly P :=
  .mapM fun field mem =>
    (Plan.AsksOnly.generatorOf (each field.2 (List.mem_map_of_mem mem))).bind fun g =>
      .pure (field.1, g)

/-- A node that is no intersection asks for its parts, or for what its strategy asks for. -/
theorem step_asksOnly_of_plain {id : Nat} {shape : Shape} (plain : shape.tag ≠ .intersect)
    (extension : ∀ name payload guard strategy, shape = .extension name payload guard →
      (name, strategy) ∈ c.strategies → (strategy c.maxSize ⟨name, payload, guard⟩).AsksOnly P)
    (constraint : ∀ underlying predicate correction arguments args strategy,
      shape = .constraint underlying predicate correction arguments →
      Descriptor.marking arguments = some args → (args.tag, strategy) ∈ c.customConstraints →
      (strategy c.maxSize ⟨underlying, predicate, correction, args⟩).AsksOnly P)
    (parts : ∀ part ∈ shape.parts, P part) : (c.step (.node id shape)).AsksOnly P := by
  cases shape with
  | array element =>
    exact (Plan.AsksOnly.generatorOf (parts element List.mem_cons_self)).bind fun g => .pure _
  | constraint underlying predicate correction arguments =>
    simp only [step, Descriptor.shape]
    unfold compileConstraint
    split
    case h_1 unmarked =>
      rw [Shape.parts_of_unmarked unmarked] at parts
      refine (Plan.AsksOnly.generatorOf (parts underlying List.mem_cons_self)).bind fun g => ?_
      split
      · exact .pure _
      · exact .pure _
    case h_2 args marked =>
      split
      case h_1 => exact .fail
      case h_2 strategy registered =>
        exact constraint _ _ _ _ args strategy rfl marked (Fields.mem_of_get? registered)
  | dictionary value =>
    exact (Plan.AsksOnly.generatorOf (parts value List.mem_cons_self)).bind fun g => .pure _
  | intersect intersectees => exact absurd rfl plain
  | partialRecord fields => exact (compileFields_asksOnly parts).bind fun gs => .pure _
  | record fields => exact (compileFields_asksOnly parts).bind fun gs => .pure _
  | tuple components =>
    exact (Plan.AsksOnly.mapM fun t mem => .generatorOf (parts t mem)).bind fun gs => .pure _
  | union alternatives =>
    refine (Plan.AsksOnly.mapM fun t mem => .generatorOf (parts t mem)).bind fun gs => ?_
    split
    · exact .fail
    · exact .pure _
  | extension name payload guard =>
    simp only [step, Descriptor.shape]
    split
    case h_1 => exact .fail
    case h_2 strategy registered =>
      exact extension name payload guard strategy rfl (Fields.mem_of_get? registered)
  | _ => exact .pure _

end Compiler

/-! ## Counting -/

/-- What counts items has two types compiled, both of them handed to it with its node. -/
theorem Contains.strategy_asksOnly {P : Descriptor → Prop} (maxSize : Nat) (node : MarkedConstraint)
    (underlying : P node.underlying) (types : ∀ field ∈ node.args.types, P field.2) :
    (strategy maxSize node).AsksOnly P := by
  unfold strategy
  cases found : Fields.get? node.args.types "item" with
  | none => exact .fail
  | some item =>
    have counts : (countOf node.args).AsksOnly P := by
      unfold countOf
      split
      · exact .pure _
      · split
        · exact .pure _
        · exact .fail
      · exact .fail
    refine counts.bind fun count => ?_
    split
    · exact .fail
    · refine (Plan.AsksOnly.generatorOf underlying).bind fun base => ?_
      have given := types _ (Fields.mem_of_get? found)
      exact (Plan.AsksOnly.generatorOf given).bind fun extra => .pure _

end Specimen
