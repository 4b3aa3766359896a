import Specimen.Check.Verdict
import Specimen.Compiler.Contains
import Specimen.Proofs.Compiler.Plan
import Specimen.Proofs.Descriptor.Renumbered

/-!
# Compilation without identities

Identities say which nodes are one and the same, and nothing else. A type is compiled to the same
generator, or ends in the same error, whatever its nodes are numbered, as long as the numbers of
different nodes are different (`Compiler.compile_renumber`); so it is checked with the same verdict.

Two plans correspond when they answer the same after asking for types that correspond. The step of a
type corresponds to the step of the type with other identities, which is the step of the induction on
the bound on nesting. Types that correspond may differ in the identity of the node itself: no step
looks at that of its own node, and the types that merging makes are not numbered by anyone.
-/

namespace Specimen

namespace Plan

variable {α β : Type} {R : Descriptor → Descriptor → Prop}

/-- Plans that answer the same, after the same answers to what they ask for. -/
inductive Corresponds (R : Descriptor → Descriptor → Prop) : Plan α → Plan α → Prop
  | answer (result : Except Failure α) : Corresponds R (.answer result) (.answer result)
  | compile {s t : Descriptor} {next next' : Except GenError Generator → Plan α} (asked : R s t)
    (after : ∀ result, Corresponds R (next result) (next' result)) :
    Corresponds R (.compile s next) (.compile t next')

/-- Corresponding plans run alike, if what they ask for is compiled alike. -/
theorem Corresponds.run_eq {compile : Descriptor → Compiled} {plan plan' : Plan α}
    (same : ∀ s t, R s t → compile t = compile s) (corresponds : Corresponds R plan plan') :
    plan'.run compile = plan.run compile := by
  induction corresponds with
  | answer result => rfl
  | @compile s t next next' asked after ih =>
    rw [run, run, same s t asked]
    cases compile s with
    | ok g => exact ih (.ok g)
    | error failure =>
      cases failure with
      | error e => exact ih (.error e)
      | abandoned => rfl

namespace Corresponds

theorem pure (a : α) : Corresponds R (pure a : Plan α) (pure a) := .answer _

theorem fail {e : GenError} : Corresponds R (fail e : Plan α) (fail e) := .answer _

theorem generatorOf {s t : Descriptor} (asked : R s t) :
    Corresponds R (generatorOf s) (generatorOf t) :=
  .compile asked fun _ => .answer _

/-- Plans that go on alike after any answer correspond if their beginnings do. -/
theorem bind {plan plan' : Plan α} {next next' : α → Plan β} (first : Corresponds R plan plan')
    (second : ∀ a, Corresponds R (next a) (next' a)) :
    Corresponds R (plan >>= next) (plan' >>= next') := by
  change Corresponds R (plan.bind next) (plan'.bind next')
  induction first with
  | answer result =>
    cases result with
    | ok a => exact second a
    | error failure => exact .answer _
  | compile asked _ ih => exact .compile asked ih

/-- A list of plans, made of types of which each corresponds to its renumbered one. -/
theorem mapM {γ : Type} {change : α → γ} {f : α → Plan β} {f' : γ → Plan β} :
    ∀ {as : List α}, (∀ a ∈ as, Corresponds R (f a) (f' (change a))) →
      Corresponds R (as.mapM f) ((as.map change).mapM f')
  | [], _ => pure []
  | a :: as, each => by
    obtain ⟨here, rest⟩ := List.forall_mem_cons.mp each
    rw [List.mapM_cons, List.map_cons, List.mapM_cons]
    exact here.bind fun b => (mapM rest).bind fun bs => pure (b :: bs)

end Corresponds

end Plan

open Descriptor

variable {f : Nat → Nat}

/-- A type has the shape of another one with other identities. -/
def Renumbered (f : Nat → Nat) (s t : Descriptor) : Prop := t.shape = renumberShape f s.shape

theorem renumbered_renumber (t : Descriptor) : Renumbered f t (renumber f t) := shape_renumber t

theorem mapM_generatorOf_renumber (types : List Descriptor) :
    (types.mapM Plan.generatorOf).Corresponds (Renumbered f)
      ((renumberAll f types).mapM Plan.generatorOf) := by
  rw [renumberAll_eq]
  exact .mapM fun t _ => .generatorOf (renumbered_renumber t)

/-- A marked constraint, with other identities. -/
def MarkedConstraint.renumber (f : Nat → Nat) (node : MarkedConstraint) : MarkedConstraint :=
  { node with underlying := node.underlying.renumber f, args := renumberArgs f node.args }

/-- What is registered looks at no identities. -/
structure Compiler.IgnoresIdentities (f : Nat → Nat) (c : Compiler) : Prop where
  extension : ∀ {name strategy}, (name, strategy) ∈ c.strategies → ∀ node : ExtensionNode,
    (strategy c.maxSize node).Corresponds (Renumbered f) (strategy c.maxSize node)
  constraint : ∀ {tag strategy}, (tag, strategy) ∈ c.customConstraints →
    ∀ node : MarkedConstraint,
      (strategy c.maxSize node).Corresponds (Renumbered f) (strategy c.maxSize (node.renumber f))
  rule : ∀ {rule}, rule ∈ c.customRules → ∀ types,
    (rule.strategy c.maxSize types).Corresponds (Renumbered f)
      (rule.strategy c.maxSize (renumberAll f types))
  intersection : ∀ {entry}, entry ∈ c.customIntersections → ∀ types,
    (entry.strategy c.maxSize types).Corresponds (Renumbered f)
      (entry.strategy c.maxSize (renumberAll f types))

/-! ## Intersections -/

namespace Intersection

variable {c : Compiler}

/-- The fallback asks for the same types in the same order, and puts the same guard around them. -/
theorem generic_renumber (types : List Descriptor) :
    (generic types).Corresponds (Renumbered f) (generic (renumberAll f types)) := by
  refine (mapM_generatorOf_renumber types).bind fun gs => ?_
  rw [kindsLabel_renumber]
  cases Generator.oneOf? gs with
  | none => exact .pure _
  | some anyOf =>
    dsimp only
    rw [guarded_renumber]
    exact .pure _

/-- Types of one field are compiled as an intersection made for the purpose. Its own identity is no
renumbered one, which is why only what lies within a node has to correspond. -/
theorem mergedField_renumber (name : String) (decls : FieldDecls) :
    (mergedField name decls).Corresponds (Renumbered f) (mergedField name (decls.renumber f)) := by
  refine (Plan.Corresponds.generatorOf (shape_fieldType_renumber decls.types)).bind fun field => ?_
  rw [FieldDecls.renumber, guarded_renumber]
  exact .pure _

/-- The merge of records goes field by field. -/
theorem mergeRecords_renumber (types : List Descriptor) :
    (mergeRecords types).Corresponds (Renumbered f) (mergeRecords (renumberAll f types)) := by
  have faults : (renumberAll f types).findSome? mergeFault? = types.findSome? mergeFault? := by
    rw [renumberAll_eq, List.findSome?_map]
    exact congrArg (types.findSome? ·) (funext mergeFault?_renumber)
  rw [mergeRecords, mergeRecords, faults, fieldDecls_renumber]
  cases types.findSome? mergeFault? with
  | some fault => exact .fail
  | none =>
    refine Plan.Corresponds.bind (.mapM fun entry _ => mergedField_renumber _ _) fun fields => ?_
    have optional : ((Fields.mapValues (FieldDecls.renumber f) (fieldDecls types)).filter
        fun entry => !entry.2.required).map Prod.fst =
          ((fieldDecls types).filter fun entry => !entry.2.required).map Prod.fst := by
      rw [Fields.mapValues, List.filter_map, List.map_map]
      rfl
    rw [optional]
    exact .pure _

/-- The rule for unions alone compares identities, when it pools alternatives; hence it asks that
different ones stay apart. -/
theorem flattenUnions_renumber (apart : Function.Injective f) (types : List Descriptor) :
    (flattenUnions types).Corresponds (Renumbered f) (flattenUnions (renumberAll f types)) := by
  have faults : (renumberAll f types).findSome? flattenFault? = types.findSome? flattenFault? := by
    rw [renumberAll_eq, List.findSome?_map]
    exact congrArg (types.findSome? ·) (funext flattenFault?_renumber)
  rw [flattenUnions, flattenUnions, faults, pool_renumber apart, guardAll_renumber]
  cases types.findSome? flattenFault? with
  | some fault => exact .fail
  | none => exact (mapM_generatorOf_renumber (pool types)).bind fun gs => .pure _

/-- Which rule an intersection goes by depends on kinds, which do not change. -/
theorem dispatch_renumber (ignores : c.IgnoresIdentities f) (types : List Descriptor) :
    (dispatch c types).Corresponds (Renumbered f) (dispatch c (renumberAll f types)) := by
  unfold dispatch
  rw [customTags?_renumber]
  dsimp only
  split
  case h_1 entry found =>
    obtain ⟨tags, _, found⟩ := Option.bind_eq_some_iff.mp found
    exact ignores.intersection (List.mem_of_find?_eq_some found) types
  case h_2 => exact generic_renumber types

/-- The first rule that covers the kinds is the same one. That a rule of somebody else's pays no
heed to identities is a hypothesis, as nothing more is known of it. -/
theorem candidate_renumber (ignores : c.IgnoresIdentities f) (apart : Function.Injective f)
    (types : List Descriptor) :
    (candidate c types).Corresponds (Renumbered f) (candidate c (renumberAll f types)) := by
  unfold candidate
  rw [kinds_renumber]
  split
  case h_2 => exact generic_renumber types
  case h_1 rule found =>
    rcases List.mem_append.mp (List.mem_of_find?_eq_some found) with builtIn | custom
    · obtain ⟨rule, _, rfl⟩ := List.mem_map.mp builtIn
      cases rule with
      | mergeRecords => exact mergeRecords_renumber types
      | flattenUnions => exact flattenUnions_renumber apart types
      | dispatchConstraints => exact dispatch_renumber ignores types
    · exact ignores.rule custom types

/-- A whole intersection corresponds to itself under other identities. -/
theorem resolve_renumber (ignores : c.IgnoresIdentities f) (apart : Function.Injective f)
    (intersectees : List Descriptor) :
    (resolve c intersectees).Corresponds (Renumbered f)
      (resolve c (renumberAll f intersectees)) := by
  unfold resolve
  rw [flatten_renumber]
  match flatten intersectees with
  | [] => exact .pure _
  | [only] =>
    refine (Plan.Corresponds.generatorOf (renumbered_renumber only)).bind fun g => ?_
    change Plan.Corresponds _ _ (pure (guarded g _ (renumberAll f [only])))
    rw [guarded_renumber]
    exact .pure _
  | first :: second :: rest =>
    refine (candidate_renumber ignores apart (first :: second :: rest)).bind fun g => ?_
    change Plan.Corresponds _ _ (pure (guarded g _ (renumberAll f (first :: second :: rest))))
    rw [guarded_renumber]
    exact .pure _

end Intersection

namespace Compiler

variable {c : Compiler}

private theorem compileFields_renumber (fields : List (String × Descriptor)) :
    (compileFields fields).Corresponds (Renumbered f) (compileFields (renumberFields f fields)) := by
  rw [renumberFields_eq]
  refine .mapM fun field _ => ?_
  exact (Plan.Corresponds.generatorOf (renumbered_renumber field.2)).bind fun g => .pure _

/-- One step of compilation corresponds to itself: the recursion of the compiler, taken one level at
a time. -/
theorem step_renumber (ignores : c.IgnoresIdentities f) (apart : Function.Injective f)
    {s t : Descriptor} (renumbered : Renumbered f s t) :
    (c.step s).Corresponds (Renumbered f) (c.step t) := by
  obtain ⟨id, shape⟩ := s
  obtain ⟨id', shape'⟩ := t
  cases renumbered
  cases shape with
  | array element =>
    exact (Plan.Corresponds.generatorOf (renumbered_renumber element)).bind fun g => .pure _
  | constraint underlying predicate correction arguments =>
    change (compileConstraint c underlying predicate correction arguments).Corresponds _
      (compileConstraint c (renumber f underlying) predicate correction
        (renumberMarking f arguments))
    unfold compileConstraint
    rw [marking_renumber]
    cases marking arguments with
    | none =>
      refine (Plan.Corresponds.generatorOf (renumbered_renumber underlying)).bind fun g => ?_
      cases correction with
      | none => exact .pure _
      | some fix => exact .pure _
    | some args =>
      dsimp only [Option.map_some, renumberArgs]
      cases found : Fields.get? c.customConstraints args.tag with
      | none => exact .fail
      | some strategy =>
        exact ignores.constraint (Fields.mem_of_get? found) ⟨underlying, predicate, correction, args⟩
  | dictionary value =>
    exact (Plan.Corresponds.generatorOf (renumbered_renumber value)).bind fun g => .pure _
  | intersect intersectees => exact Intersection.resolve_renumber ignores apart intersectees
  | partialRecord fields =>
    refine (compileFields_renumber fields).bind fun gs => ?_
    exact .pure _
  | record fields => exact (compileFields_renumber fields).bind fun gs => .pure _
  | tuple components => exact (mapM_generatorOf_renumber components).bind fun gs => .pure _
  | union alternatives =>
    refine (mapM_generatorOf_renumber alternatives).bind fun gs => ?_
    cases Generator.oneOf? gs with
    | none => exact .fail
    | some anyOf => exact .pure _
  | extension name payload guard =>
    change (step c (.node id (.extension name payload guard))).Corresponds _
      (step c (.node id (.extension name payload guard)))
    simp only [step, shape]
    cases found : Fields.get? c.strategies name with
    | none => exact .fail
    | some strategy => exact ignores.extension (Fields.mem_of_get? found) ⟨name, payload, guard⟩
  | _ => exact .pure _

/-- Compilation gives the very same generator, or error, within every depth. The identities of the
two nodes themselves need not correspond, only those within them. -/
theorem compileWithin_renumber (ignores : c.IgnoresIdentities f) (apart : Function.Injective f) :
    ∀ (depth : Nat) {s t : Descriptor}, Renumbered f s t →
      c.compileWithin depth t = c.compileWithin depth s
  | 0, _, _, _ => rfl
  | depth + 1, s, t, renumbered => by
    have same : ∀ s t, Renumbered f s t → c.compileWithin depth t = c.compileWithin depth s :=
      fun s t => compileWithin_renumber ignores apart depth
    exact (step_renumber ignores apart renumbered).run_eq same

/-- A type is compiled to the same whatever its nodes are numbered. -/
theorem compile_renumber (ignores : c.IgnoresIdentities f) (apart : Function.Injective f)
    (t : Descriptor) : c.compile (renumber f t) = c.compile t := by
  rw [compile, compile, weight_renumber]
  exact compileWithin_renumber ignores apart _ (renumbered_renumber t)

/-- What counts items looks at no identities. -/
theorem contains_renumber (maxSize : Nat) (node : MarkedConstraint) :
    (Contains.strategy maxSize node).Corresponds (Renumbered f)
      (Contains.strategy maxSize (node.renumber f)) := by
  have types : Fields.get? (renumberFields f node.args.types) "item" =
      (Fields.get? node.args.types "item").map (renumber f) := by
    rw [renumberFields_eq, Fields.get?_mapValues]
  have counts : (Contains.countOf node.args).Corresponds (Renumbered f)
      (Contains.countOf (renumberArgs f node.args)) := by
    change Plan.Corresponds _ (Contains.countOf node.args) (Contains.countOf node.args)
    unfold Contains.countOf
    split
    · exact .pure _
    · split
      · exact .pure _
      · exact .fail
    · exact .fail
  unfold Contains.strategy
  simp only [MarkedConstraint.renumber]
  rw [renumberArgs, types, guard_renumber]
  cases Fields.get? node.args.types "item" with
  | none => exact .fail
  | some item =>
    refine counts.bind fun count => ?_
    split
    · exact .fail
    · refine (Plan.Corresponds.generatorOf (renumbered_renumber node.underlying)).bind fun base => ?_
      refine (Plan.Corresponds.generatorOf (renumbered_renumber item)).bind fun extra => ?_
      rw [guard_renumber]
      exact .pure _

/-- A type is checked with the same verdict whatever its nodes are numbered. -/
theorem check_renumber {config : RunConfig} {seed : UInt64}
    (ignores : (c.configured config).IgnoresIdentities f) (apart : Function.Injective f)
    (t : Descriptor) : c.check (renumber f t) config seed = c.check t config seed := by
  rw [check, check, checkFrom, checkFrom, compile_renumber ignores apart, guard_renumber]

end Compiler

end Specimen
