import Mathlib.Order.WellFounded
import Specimen.Proofs.Compiler.Compilable
import Specimen.Proofs.Compiler.Failures
import Specimen.Proofs.Compiler.Frame

/-!
# Compilation ends

The bound on how deep compilations nest is there because registered strategies may have anything
compiled. As long as they have parts of their nodes compiled it is never met (`compilation_ends`):
whatever the compilation of a type may call for weighs less than the type (`weight_lt_of_calls`), so
calls nest no deeper than the type weighs, and `compile` is the one solution of its recursion
without a bound.

The weight counts nodes, so the parts of a node weigh less than it. Two calls are not for parts.
Flattening goes through nested intersections, and loses their nodes. Merging makes an intersection
of the types that a field is declared with, and the node it adds is paid for by the records: there
are two of them at least, and none of their nodes is in it.
-/

namespace Specimen

/-! ## Parts -/

namespace Shape

/-- The types that stand in a shape, those in the arguments of a constraint included. -/
def children : Shape → List Descriptor
  | .constraint underlying _ _ none => [underlying]
  | .constraint underlying _ _ (some args) => underlying :: args.types.map Prod.snd
  | shape => shape.parts

end Shape

/-- The types that a marked constraint hands to its strategy. -/
def MarkedConstraint.children (node : MarkedConstraint) : List Descriptor :=
  node.underlying :: node.args.types.map Prod.snd

namespace Descriptor

/-- A type is one of several, or stands in one of them at any depth. -/
inductive Among (s : Descriptor) : List Descriptor → Prop
  | listed {types : List Descriptor} (mem : s ∈ types) : Among s types
  | inside {types : List Descriptor} {t : Descriptor} (mem : t ∈ types)
      (below : Among s t.shape.children) : Among s types

/-- A node counts for one. -/
theorem weightAll_children (t : Descriptor) : weightAll t.shape.children + 1 = t.weight := by
  obtain ⟨id, shape⟩ := t
  rw [weight]
  refine congrArg (· + 1) ?_
  cases shape with
  | constraint underlying predicate correction arguments =>
    cases arguments with
    | none => simp [Descriptor.shape, Shape.children, weightAll, shapeWeight]
    | some args =>
      obtain ⟨tag, params, types⟩ := args
      simp [Descriptor.shape, Shape.children, weightAll, shapeWeight, weightFields_eq]
  | partialRecord fields =>
    simp [Descriptor.shape, Shape.children, Shape.parts, shapeWeight, weightFields_eq]
  | record fields =>
    simp [Descriptor.shape, Shape.children, Shape.parts, shapeWeight, weightFields_eq]
  | _ => simp [Descriptor.shape, Shape.children, Shape.parts, weightAll, shapeWeight]

theorem Among.weight_le {s : Descriptor} {types : List Descriptor} (among : Among s types) :
    s.weight ≤ weightAll types := by
  induction among with
  | listed mem => exact weight_le_weightAll mem
  | @inside types t mem _ ih =>
    have here := weightAll_children t
    have there := weight_le_weightAll mem
    omega

theorem weight_lt_of_among_children {s t : Descriptor} (among : Among s t.shape.children) :
    s.weight < t.weight := by
  have here := weightAll_children t
  have below := among.weight_le
  omega

/-- What a nested intersection holds weighs less than the types it stands among. -/
theorem weightAll_nested_lt {types inner : List Descriptor} {id : Nat}
    (mem : .node id (.intersect inner) ∈ types) : weightAll inner < weightAll types := by
  have nested := weight_le_weightAll mem
  rw [weight, shapeWeight] at nested
  omega

end Descriptor

/-! ## Calls -/

theorem Intersection.resolve_asks_field {c : Compiler} {intersectees : List Descriptor}
    {entry : String × FieldDecls} (two : 2 ≤ (flatten intersectees).length)
    (records : ∀ t ∈ flatten intersectees, t.IsRecord)
    (merged : entry ∈ fieldDecls (flatten intersectees)) :
    (resolve c intersectees).Asks (fieldType entry.2.types) := by
  have fit : (flatten intersectees).findSome? mergeFault? = none :=
    List.findSome?_eq_none_iff.mpr fun t mem => mergeFault?_eq_none.mpr (records t mem)
  rw [resolve_of_several two, candidate_of_records records, mergeRecords, fit]
  -- where all fields before it are told generators, the merge comes to this one
  have goesOn : ∀ other ∈ fieldDecls (flatten intersectees), ∃ field,
      (mergedField other.1 other.2).run (fun _ => .ok .boolean) = .ok field :=
    fun other _ => ⟨_, rfl⟩
  refine (Plan.Asks.bind _ (Plan.Asks.mapM goesOn merged ?_)).bind _
  exact (Plan.Asks.generatorOf _).bind _

namespace Compiler

variable {c : Compiler} {s t : Descriptor}

/-- The compilation of a type may call for that of another. -/
def Calls (c : Compiler) (t s : Descriptor) : Prop := (c.step t).Asks s

/-- Registered strategies have parts of their nodes compiled, or of the intersectees they are
handed, and no other types. An extension has no parts. -/
structure KeepsToParts (c : Compiler) : Prop where
  extension : ∀ {name strategy}, (name, strategy) ∈ c.strategies → ∀ node : ExtensionNode,
    (strategy c.maxSize node).AsksOnly fun _ => False
  constraint : ∀ {tag strategy}, (tag, strategy) ∈ c.customConstraints →
    ∀ node : MarkedConstraint,
      (strategy c.maxSize node).AsksOnly fun s => s.Among node.children
  rule : ∀ {rule}, rule ∈ c.customRules → ∀ types,
    (rule.strategy c.maxSize types).AsksOnly fun s => s.Among types
  intersection : ∀ {entry}, entry ∈ c.customIntersections → ∀ types,
    (entry.strategy c.maxSize types).AsksOnly fun s => s.Among types

/-- Registered strategies come to an answer wherever all types they have compiled do. -/
def StrategiesAnswer (c : Compiler) : Prop :=
  ∀ plan, c.Handles plan → ∀ compile : Descriptor → Compiled,
    (∀ t, compile t ≠ .error .abandoned) → plan.run compile ≠ .error .abandoned

/-- Every type that a step asks for weighs less than its node. -/
theorem step_asksOnly_lighter (keeps : c.KeepsToParts) (t : Descriptor) :
    (c.step t).AsksOnly fun s => s.weight < t.weight := by
  obtain ⟨id, shape⟩ := t
  by_cases plain : shape.tag = .intersect
  · obtain ⟨intersectees, rfl⟩ := Shape.tag_eq_intersect.mp plain
    have light := Descriptor.weightAll_flatten_lt id intersectees
    refine Intersection.resolve_asksOnly ?_ ?_ ?_ ?_ ?_
    · intro rule mem
      exact (keeps.rule mem _).imp fun s among => Nat.lt_of_le_of_lt among.weight_le light
    · intro entry mem
      exact (keeps.intersection mem _).imp fun s among => Nat.lt_of_le_of_lt among.weight_le light
    · exact fun t mem => Nat.lt_of_le_of_lt (Descriptor.weight_le_weightAll mem) light
    · intro two records entry merged
      exact Nat.lt_trans (Intersection.weight_fieldType_lt records two merged) light
    · rintro ⟨own, shape⟩ mem a alternative
      have lighter : a.weight < (Descriptor.node own shape).weight :=
        Descriptor.weight_lt_of_mem_parts (Intersection.alternativesOf_subset_parts _ alternative)
      have known := Descriptor.weight_le_weightAll mem
      omega
  · refine step_asksOnly_of_plain plain ?_ ?_ fun part => Descriptor.weight_lt_of_mem_parts
    · rintro name payload guard strategy rfl registered
      exact (keeps.extension registered _).imp fun s never => never.elim
    · rintro underlying predicate correction arguments args strategy rfl marked registered
      refine (keeps.constraint registered _).imp fun s among => ?_
      obtain ⟨rfl, _⟩ := Option.filter_eq_some_iff.mp marked
      exact Descriptor.weight_lt_of_among_children among

theorem weight_lt_of_calls (keeps : c.KeepsToParts) (calls : c.Calls t s) : s.weight < t.weight :=
  (step_asksOnly_lighter keeps t).of_asks calls

/-! ## Enough room -/

/-- Whatever room there is beyond the weight of a type, it is compiled to the same. -/
theorem compileWithin_of_weight_le (keeps : c.KeepsToParts) : ∀ (t : Descriptor)
    {depth deeper : Nat}, t.weight ≤ depth → t.weight ≤ deeper →
      c.compileWithin depth t = c.compileWithin deeper t
  | .node id shape, depth, deeper, enough, more => by
    have room : 0 < (Descriptor.node id shape).weight := Nat.succ_pos _
    obtain ⟨depth, rfl⟩ := Nat.exists_eq_add_one.mpr (Nat.lt_of_lt_of_le room enough)
    obtain ⟨deeper, rfl⟩ := Nat.exists_eq_add_one.mpr (Nat.lt_of_lt_of_le room more)
    refine Plan.run_congr (fun s lighter => ?_) (step_asksOnly_lighter keeps _)
    exact compileWithin_of_weight_le keeps s (by omega) (by omega)
termination_by t => t.weight

/-- Compilation is its own recursion, without a bound. -/
theorem compile_eq_run (keeps : c.KeepsToParts) (t : Descriptor) :
    c.compile t = (c.step t).run c.compile := by
  have deeper : c.compile t = c.compileWithin (t.weight + 1) t :=
    compileWithin_of_weight_le keeps t (Nat.le_add_right _ _) (Nat.le_succ _)
  rw [deeper]
  refine Plan.run_congr (fun s lighter => ?_) (step_asksOnly_lighter keeps t)
  exact compileWithin_of_weight_le keeps s (Nat.le_of_lt lighter) (Nat.le_add_right _ _)

/-- No other way of compiling satisfies the recursion. -/
theorem eq_compile_of_run (keeps : c.KeepsToParts) {compile : Descriptor → Compiled}
    (solves : ∀ t, compile t = (c.step t).run compile) : ∀ t, compile t = c.compile t
  | t => by
    rw [solves t, compile_eq_run keeps t]
    refine Plan.run_congr (fun s lighter => ?_) (step_asksOnly_lighter keeps t)
    exact eq_compile_of_run keeps solves s
termination_by t => t.weight

/-- Where registered strategies come to an answer, so does compilation. -/
theorem compile_ne_abandoned (keeps : c.KeepsToParts) (answer : c.StrategiesAnswer) :
    ∀ t, c.compile t ≠ .error .abandoned
  | t => by
    -- of all types only lighter ones are asked for, so that the others may be told to be anything
    let told : Descriptor → Compiled := fun s =>
      if s.weight < t.weight then c.compile s else .ok .boolean
    have same : (c.step t).run c.compile = (c.step t).run told :=
      Plan.run_congr (fun s lighter => (if_pos lighter).symm) (step_asksOnly_lighter keeps t)
    have settled : ∀ s, told s ≠ .error .abandoned := by
      intro s
      by_cases lighter : s.weight < t.weight
      · rw [show told s = c.compile s from if_pos lighter]
        exact compile_ne_abandoned keeps answer s
      · rw [show told s = .ok .boolean from if_neg lighter]
        nofun
    have answered : (c.step t).FailsOnly (· ≠ .abandoned) told := by
      refine step_failsOnly t (fun _ _ => nofun) ?_ ?_
      · rintro plan handled _ failed rfl
        exact answer plan handled.handles told settled failed
      · refine fun s => .generatorOf ?_
        rintro _ failed rfl
        exact settled s failed
    rw [compile_eq_run keeps t, same]
    exact fun failed => answered _ failed rfl
termination_by t => t.weight

/-- Compilation ends, for every type and every compiler whose registered strategies keep to the
parts of what they are handed.

Weight is a measure of it: every type that the compilation of another may call for, whatever the
strategies do and whatever they are told, weighs less. That includes the types of merged fields,
which are called for one and all; where a field is declared several times its type is an
intersection that stands nowhere in the descriptor. Flattening, too, goes from types to types that
weigh less, and adds no weight. So no chain of calls goes on for ever.

What the code comes to does not depend on how much room there is for nesting once there is as much
as the type weighs, and `compile` is the one function that satisfies the recursion without a bound.
It comes to an answer, unless a registered strategy breaks off on its own. -/
theorem compilation_ends (c : Compiler) (keeps : c.KeepsToParts) :
    (∀ t s, c.Calls t s → s.weight < t.weight) ∧
    (∀ id intersectees, 2 ≤ (Intersection.flatten intersectees).length →
      (∀ t ∈ Intersection.flatten intersectees, t.IsRecord) →
      ∀ entry ∈ Intersection.fieldDecls (Intersection.flatten intersectees),
        c.Calls (.node id (.intersect intersectees)) (Intersection.fieldType entry.2.types)) ∧
    (∀ types,
      Descriptor.weightAll (Intersection.flatten types) ≤ Descriptor.weightAll types ∧
      ∀ id inner, .node id (.intersect inner) ∈ types →
        Descriptor.weightAll inner < Descriptor.weightAll types) ∧
    WellFounded (fun s t => c.Calls t s) ∧
    (∀ t depth, t.weight ≤ depth → c.compileWithin depth t = c.compile t) ∧
    (∀ compile : Descriptor → Compiled,
      (∀ t, compile t = (c.step t).run compile) ↔ compile = c.compile) ∧
    (c.StrategiesAnswer → ∀ t, c.compile t ≠ .error .abandoned) := by
  have lighter : ∀ t s, c.Calls t s → s.weight < t.weight := fun t s => weight_lt_of_calls keeps
  refine ⟨lighter, ?_, ?_, ?_, ?_, ?_, compile_ne_abandoned keeps⟩
  · intro id intersectees two records entry merged
    exact Intersection.resolve_asks_field two records merged
  · exact fun types => ⟨Descriptor.weightAll_flatten_le types,
      fun id inner => Descriptor.weightAll_nested_lt⟩
  · -- calls go down in weight, and weights are natural numbers
    exact Subrelation.wf (fun calls => lighter _ _ calls) (measure Descriptor.weight).wf
  · exact fun t depth enough => compileWithin_of_weight_le keeps t enough (Nat.le_add_right _ _)
  · intro compile
    constructor
    · exact fun solves => funext (eq_compile_of_run keeps solves)
    · rintro rfl
      exact compile_eq_run keeps

/-- What counts items finds fault with its arguments, and fails otherwise only where the types do
that it has compiled. -/
theorem contains_failsOnly {P : Failure → Prop} {compile : Descriptor → Compiled} (maxSize : Nat)
    (node : MarkedConstraint) (invalid : ∀ reason, P (.error (.invalidArgs Contains.tag reason)))
    (compiled : ∀ t, (Plan.generatorOf t).FailsOnly P compile) :
    (Contains.strategy maxSize node).FailsOnly P compile := by
  unfold Contains.strategy
  cases Fields.get? node.args.types "item" with
  | none => exact .fail (invalid _)
  | some item =>
    have counts : (Contains.countOf node.args).FailsOnly P compile := by
      unfold Contains.countOf
      split
      · exact .pure _
      · split
        · exact .pure _
        · exact .fail (invalid _)
      · exact .fail (invalid _)
    refine counts.bind fun count => ?_
    split
    · exact .fail (invalid _)
    · exact (compiled _).bind fun base => (compiled item).bind fun extra => .pure _

/-- The page of the book is declared twice, so compiling the book calls for an intersection of the
two declarations that stands nowhere in the book. Compilation comes to an answer all the same. -/
theorem stamping_ends :
    (∃ page, stamping.Calls countedBook page ∧ page.tag = .intersect ∧
      page.weight < countedBook.weight) ∧
    stamping.compile countedBook = (stamping.step countedBook).run stamping.compile ∧
    stamping.compile countedBook ≠ .error .abandoned := by
  have keeps : stamping.KeepsToParts :=
    { extension := fun registered node => by
        cases List.mem_singleton.mp registered
        exact .pure _
      constraint := fun registered node => by
        cases List.mem_singleton.mp registered
        refine Contains.strategy_asksOnly _ node (.listed List.mem_cons_self) fun field mem => ?_
        exact .listed (List.mem_cons_of_mem _ (List.mem_map_of_mem mem))
      rule := fun registered types => by
        cases List.mem_singleton.mp registered
        exact Intersection.generic_asksOnly fun t => .listed
      intersection := nofun }
  obtain ⟨lighter, merged, _, _, _, solves, answers⟩ := compilation_ends stamping keeps
  refine ⟨?_, (solves _).mpr rfl _, answers ?_ _⟩
  · have records : ∀ t ∈ Intersection.flatten [countedBook], t.IsRecord :=
      List.forall_mem_cons.mpr ⟨.inl rfl, List.forall_mem_singleton.mpr (.inr rfl)⟩
    have page : stamping.Calls countedBook _ :=
      merged 2 (Intersection.flatten [countedBook]) (by decide) records _ List.mem_cons_self
    exact ⟨_, page, rfl, lighter _ _ page⟩
  · intro plan handled compile settled failed
    have compiled (t : Descriptor) : (Plan.generatorOf t).FailsOnly (· ≠ .abandoned) compile := by
      refine .generatorOf ?_
      rintro _ failed rfl
      exact settled t failed
    cases handled with
    | extension node registered =>
      cases List.mem_singleton.mp registered
      cases failed
    | constraint node registered =>
      cases List.mem_singleton.mp registered
      exact contains_failsOnly _ node (fun _ => nofun) compiled _ failed rfl
    | rule types registered =>
      cases List.mem_singleton.mp registered
      exact Intersection.generic_failsOnly (fun t _ => compiled t) _ failed rfl
    | intersection types registered => cases registered

end Compiler

end Specimen
