import Specimen.Proofs.Compiler.Checked
import Specimen.Proofs.Compiler.Contains
import Specimen.Proofs.Compiler.Failures
import Specimen.Proofs.Generator.Checked

/-!
# Nothing panics

No operation is used outside its domain, from the first registration to the last draw
(`no_operation_leaves_its_domain`). What is asked is that registered strategies do not panic
themselves: told generators that never panic, they come to an answer, and what they answer never
panics (`Plan.PanicFree`). The strategy that counts items is such a one.

Each guard that keeps an operation in its domain stands somewhere else. A search among pooled
alternatives has candidates because the unions are not empty, which is tested before their
alternatives are pooled (`pool_ne_nil`), and because the rule for unions is reached with two types
at least. The induction is on how deep compilations nest; it carries that what is told never panics.
-/

namespace Specimen

/-! ## Plans that come to an answer -/

namespace Plan

variable {α β : Type} {S : Generator → Prop} {P Q : α → Prop}

/-- Told generators of a sort only, a plan comes to an answer, and what it answers is as it should
be. To raise an error is to answer. -/
def Ensures (S : Generator → Prop) (P : α → Prop) : Plan α → Prop
  | .answer (.ok a) => P a
  | .answer (.error (.error _)) => True
  | .answer (.error .abandoned) => False
  | .compile _ next => ∀ result, (∀ g, result = .ok g → S g) → (next result).Ensures S P

/-- A plan of a strategy that does not panic, nor does what it answers. -/
def PanicFree (plan : Plan Generator) : Prop :=
  plan.Ensures Generator.NeverPanics Generator.NeverPanics

/-- The same, as the combinators have it. -/
abbrev Calm (plan : Plan Generator) : Prop :=
  plan.Ensures (Generator.Follows False) (Generator.Follows False)

theorem panicFree_iff_calm {plan : Plan Generator} : plan.PanicFree ↔ plan.Calm := by
  have alike : Generator.NeverPanics = Generator.Follows False :=
    funext fun _ => propext Generator.neverPanics_iff_follows
  rw [PanicFree, alike]

namespace Ensures

theorem pure {a : α} (here : P a) : Ensures S P (pure a : Plan α) := here

theorem fail {e : GenError} : Ensures S P (fail e : Plan α) := trivial

theorem generatorOf (t : Descriptor) : Ensures S S (generatorOf t)
  | .ok _, told => told _ rfl
  | .error _, _ => trivial

/-- What is ensured may be said less exactly. -/
theorem imp {plan : Plan α} (weaker : ∀ a, P a → Q a) (ensures : plan.Ensures S P) :
    plan.Ensures S Q := by
  induction plan with
  | answer result =>
    rcases result with (_ | _) | a
    · trivial
    · exact ensures
    · exact weaker a ensures
  | compile t next ih => exact fun result told => ih result (ensures result told)

/-- What the first part ensures, the second may rely on. -/
theorem bind {R : β → Prop} {plan : Plan α} {next : α → Plan β} (first : plan.Ensures S P)
    (second : ∀ a, P a → (next a).Ensures S R) : (plan >>= next).Ensures S R := by
  change (plan.bind next).Ensures S R
  induction plan with
  | answer result =>
    cases result with
    | ok a => exact second a first
    | error failure =>
      cases failure with
      | error e => trivial
      | abandoned => exact first.elim
  | compile t go ih => exact fun result told => ih result (first result told)

/-- A list of plans ensures as many results as there are, and each of them to be as it should. -/
theorem mapM {R : β → Prop} {f : α → Plan β} {as : List α}
    (each : ∀ a ∈ as, (f a).Ensures S R) :
    (as.mapM f).Ensures S fun bs => bs.length = as.length ∧ ∀ b ∈ bs, R b := by
  induction as with
  | nil => exact pure ⟨rfl, nofun⟩
  | cons a as ih =>
    rw [List.mapM_cons]
    refine (each a List.mem_cons_self).bind fun b here => ?_
    refine (ih fun a mem => each a (List.mem_cons_of_mem _ mem)).bind fun bs rest => ?_
    exact pure ⟨congrArg Nat.succ rest.1, List.forall_mem_cons.mpr ⟨here, rest.2⟩⟩

theorem generators (types : List Descriptor) :
    (types.mapM Plan.generatorOf).Ensures S fun gs => gs.length = types.length ∧ ∀ g ∈ gs, S g :=
  mapM fun t _ => generatorOf t

end Ensures

end Plan

/-- The ending of a compilation that did not panic; nor does what it has made. -/
def Ending.PanicFree : Ending → Prop
  | done g => g.NeverPanics
  | failed _ => True
  | tooDeep => True
  | panicked => False

/-- A strategy that does not panic does not do so in a run either, if it is told of generators that
do not. -/
theorem Plan.PanicFree.runChecked {compile : Descriptor → Ending} {plan : Plan Generator}
    (calm : plan.PanicFree) (told : ∀ t, (compile t).PanicFree) :
    (plan.runChecked compile).PanicFree := by
  induction plan with
  | answer result => rcases result with (_ | _) | _ <;> exact calm
  | compile t next ih =>
    have here := told t
    rw [Plan.runChecked]
    cases compiled : compile t with
    | done g =>
      rw [compiled] at here
      exact ih _ (calm (.ok g) fun _ same => Except.ok.inj same ▸ here)
    | failed e => exact ih _ (calm (.error e) fun _ same => by cases same)
    | tooDeep => trivial
    | panicked =>
      rw [compiled] at here
      exact here.elim

/-! ## Intersections -/

namespace Intersection

variable {c : Compiler} {types : List Descriptor}

/-- Whatever is added to a pool, there is something in it then. -/
theorem addToPool_ne_nil (pool : List Descriptor) (t : Descriptor) : addToPool pool t ≠ [] := by
  unfold addToPool
  split
  case isTrue known =>
    obtain ⟨seen, mem, _⟩ := List.any_eq_true.mp known
    exact List.ne_nil_of_mem mem
  case isFalse => exact List.append_ne_nil_of_right_ne_nil _ (List.cons_ne_nil _ _)

private theorem foldl_addToPool_ne_nil : ∀ {start : List Descriptor} (alternatives),
    start ≠ [] → List.foldl addToPool start alternatives ≠ []
  | _, [], nonempty => nonempty
  | start, a :: rest, _ => foldl_addToPool_ne_nil rest (addToPool_ne_nil start a)

/-- Unions that are not empty have something to pool. -/
theorem pool_ne_nil (nonempty : types ≠ []) (filled : ∀ t ∈ types, alternativesOf t ≠ []) :
    pool types ≠ [] := by
  obtain ⟨t, rest, rfl⟩ := List.exists_cons_of_ne_nil nonempty
  obtain ⟨a, others, first⟩ := List.exists_cons_of_ne_nil (filled t List.mem_cons_self)
  rw [pool, List.flatMap_cons, first]
  exact foldl_addToPool_ne_nil (others ++ _) (addToPool_ne_nil [] a)

/-- The fallback draws from one of its generators, of which there are as many as types, and from any
JSON if there is none. -/
theorem generic_calm : (generic types).Calm := by
  refine (Plan.Ensures.generators types).bind fun gs each => ?_
  cases gs with
  | nil => exact .pure (Checked.Follows.lift _)
  | cons first others =>
    obtain ⟨head, tail⟩ := List.forall_mem_cons.mp each.2
    exact .pure (.filtered (.oneOf head tail))

/-- A merged field panics no more than the type it was compiled from: a filter and an option are
added, and neither can. -/
theorem mergedField_ensures (name : String) (decls : FieldDecls) :
    (mergedField name decls).Ensures (Generator.Follows False) fun field =>
      field.2.Follows False := by
  refine (Plan.Ensures.generatorOf _).bind fun g inner => .pure ?_
  dsimp only
  split
  · exact .filtered inner
  · exact .optional (.filtered inner)

/-- The merge of records rotates nothing and repairs nothing. -/
theorem mergeRecords_calm : (mergeRecords types).Calm := by
  unfold mergeRecords
  split
  · exact .fail
  · refine (Plan.Ensures.mapM fun entry _ => mergedField_ensures entry.1 entry.2).bind ?_
    exact fun fields each => .pure (.mapped (.recordOf each.2))

/-- No union is empty where alternatives are pooled, so there are candidates to search. -/
theorem flattenUnions_calm (nonempty : types ≠ []) : (flattenUnions types).Calm := by
  unfold flattenUnions
  split
  case h_1 => exact .fail
  case h_2 fit =>
    have filled : ∀ t ∈ types, alternativesOf t ≠ [] := fun t mem =>
      flattenFault?_eq_none.mp (List.findSome?_eq_none_iff.mp fit t mem)
    refine (Plan.Ensures.generators (pool types)).bind fun candidates each => ?_
    refine .pure (.rotated (.inr fun none => pool_ne_nil nonempty filled ?_) each.2)
    rw [none] at each
    exact List.length_eq_zero_iff.mp each.1.symm

/-- The rule for tagged constraints is as calm as the strategies it hands to. -/
theorem dispatch_calm
    (entries : ∀ entry ∈ c.customIntersections, (entry.strategy c.maxSize types).Calm) :
    (dispatch c types).Calm := by
  unfold dispatch
  dsimp only
  split
  case h_1 entry found =>
    obtain ⟨tags, _, found⟩ := Option.bind_eq_some_iff.mp found
    exact entries entry (List.mem_of_find?_eq_some found)
  case h_2 => exact generic_calm

/-- That there are types at all is needed for unions, whose search begins somewhere in the pool. -/
theorem candidate_calm (nonempty : types ≠ [])
    (rules : ∀ rule ∈ c.customRules, (rule.strategy c.maxSize types).Calm)
    (entries : ∀ entry ∈ c.customIntersections, (entry.strategy c.maxSize types).Calm) :
    (candidate c types).Calm := by
  unfold candidate
  split
  case h_1 rule found =>
    rcases List.mem_append.mp (List.mem_of_find?_eq_some found) with mem | mem
    · obtain ⟨rule, _, rfl⟩ := List.mem_map.mp mem
      cases rule with
      | mergeRecords => exact mergeRecords_calm
      | flattenUnions => exact flattenUnions_calm nonempty
      | dispatchConstraints => exact dispatch_calm entries
    · exact rules rule mem
  case h_2 => exact generic_calm

/-- A rule is come to only where flattening has left two types at least. -/
theorem resolve_calm {intersectees : List Descriptor}
    (rules : ∀ types, ∀ rule ∈ c.customRules, (rule.strategy c.maxSize types).Calm)
    (entries : ∀ types, ∀ entry ∈ c.customIntersections,
      (entry.strategy c.maxSize types).Calm) :
    (resolve c intersectees).Calm := by
  unfold resolve
  split
  case h_1 => exact .pure (Checked.Follows.lift _)
  case h_2 only _ =>
    exact (Plan.Ensures.generatorOf only).bind fun g inner => .pure (.filtered inner)
  case h_3 notNil _ =>
    exact (candidate_calm notNil (rules _) (entries _)).bind fun g inner => .pure (.filtered inner)

end Intersection

/-! ## Counting -/

/-- The strategy that counts items mends what it is told of, which never leaves the list. -/
theorem Contains.strategy_calm (maxSize : Nat) (node : MarkedConstraint) :
    (strategy maxSize node).Calm := by
  unfold strategy
  cases Fields.get? node.args.types "item" with
  | none => exact .fail
  | some item =>
    have counts : (countOf node.args).Ensures (Generator.Follows False) fun _ => True := by
      unfold countOf
      split
      · exact .pure trivial
      · split
        · exact .pure trivial
        · exact .fail
      · exact .fail
    refine counts.bind fun count _ => ?_
    split
    · exact .fail
    · refine (Plan.Ensures.generatorOf node.underlying).bind fun base inner => ?_
      refine (Plan.Ensures.generatorOf item).bind fun extra each => ?_
      exact .pure (.filtered (.mended inner each))

/-! ## Steps -/

namespace Compiler

variable {c : Compiler}

theorem compileFields_ensures (fields : List (String × Descriptor)) :
    (compileFields fields).Ensures (Generator.Follows False) fun entries =>
      ∀ entry ∈ entries, entry.2.Follows False := by
  refine Plan.Ensures.imp (fun _ each => each.2) (Plan.Ensures.mapM fun field _ => ?_)
  exact (Plan.Ensures.generatorOf field.2).bind fun g inner => .pure inner

/-- Where registered strategies do not panic, no step does. -/
theorem step_calm (handled : ∀ plan, c.Handles plan → plan.Calm) (t : Descriptor) :
    (c.step t).Calm := by
  obtain ⟨id, shape⟩ := t
  cases shape with
  | array element =>
    exact (Plan.Ensures.generatorOf element).bind fun g inner => .pure (.array inner)
  | constraint underlying predicate correction arguments =>
    simp only [step, Descriptor.shape]
    unfold compileConstraint
    split
    case h_1 =>
      refine (Plan.Ensures.generatorOf underlying).bind fun g inner => ?_
      split
      · exact .pure (.mapped inner)
      · exact .pure (.filtered inner)
    case h_2 args marked =>
      split
      case h_1 => exact .fail
      case h_2 strategy registered =>
        exact handled _ (.constraint _ (Fields.mem_of_get? registered))
  | dictionary value =>
    exact (Plan.Ensures.generatorOf value).bind fun g inner => .pure (.dictionary inner)
  | intersect intersectees =>
    exact Intersection.resolve_calm (fun types rule mem => handled _ (.rule types mem))
      (fun types entry mem => handled _ (.intersection types mem))
  | partialRecord fields =>
    refine (compileFields_ensures fields).bind fun entries each => .pure (.mapped (.recordOf ?_))
    exact List.forall_mem_map.mpr fun entry mem => .optional (each entry mem)
  | record fields =>
    exact (compileFields_ensures fields).bind fun entries each => .pure (.recordOf each)
  | tuple components =>
    exact (Plan.Ensures.generators components).bind fun gs each => .pure (.tupleOf each.2)
  | union alternatives =>
    refine (Plan.Ensures.generators alternatives).bind fun gs each => ?_
    cases gs with
    | nil => exact .fail
    | cons first others =>
      obtain ⟨head, tail⟩ := List.forall_mem_cons.mp each.2
      exact .pure (.oneOf head tail)
  | extension name payload guard =>
    simp only [step, Descriptor.shape]
    split
    case h_1 => exact .fail
    case h_2 strategy registered => exact handled _ (.extension _ (Fields.mem_of_get? registered))
  | always | boolean | function | literal | number | string | void =>
    exact .pure (Checked.Follows.lift _)

/-- Where registered strategies do not panic, no compilation does, however deep it nests. -/
theorem compileChecked_panicFree (handled : ∀ plan, c.Handles plan → plan.PanicFree) :
    ∀ depth t, (c.compileChecked depth t).PanicFree
  | 0, _ => trivial
  | depth + 1, t => by
    have step : (c.stepChecked t).PanicFree := by
      rw [stepChecked_eq, Plan.panicFree_iff_calm]
      exact step_calm (fun plan handles => Plan.panicFree_iff_calm.mp (handled plan handles)) t
    exact step.runChecked (compileChecked_panicFree handled depth)

/-- What is compiled never panics. -/
theorem neverPanics_of_compileWithin (handled : ∀ plan, c.Handles plan → plan.PanicFree)
    {depth : Nat} {t : Descriptor} {g : Generator} (compiled : c.compileWithin depth t = .ok g) :
    g.NeverPanics := by
  have calm := compileChecked_panicFree handled depth t
  rw [← forget_compileChecked] at compiled
  cases ending : c.compileChecked depth t with
  | done h =>
    rw [ending] at compiled calm
    cases compiled
    exact calm
  | failed | tooDeep | panicked =>
    rw [ending] at compiled
    cases compiled

end Compiler

/-- No operation is used outside its domain. Take a compiler after any calls, whose registered
strategies count items or do not panic themselves. Each call found the places it looked for in the
tables, the slice of registered rules included. No choice that a step makes is among none, so no
compilation panics, however deep it nests, and each comes to what it comes to unchecked. And no draw
from what is compiled panics: no search is started among no candidates or looks one up that is not
there, no slot is counted round nothing, no item is put in past the end of a list. So each draw is
the same with its operations checked. -/
theorem no_operation_leaves_its_domain (history : List Registration)
    (handled : ∀ plan, (Compiler.after history).Handles plan →
      (∃ node, plan = Contains.strategy (Compiler.after history).maxSize node) ∨ plan.PanicFree) :
    history.foldlM Ledger.register? .new = some (.of (Compiler.after history)) ∧
    (∀ depth t, (Compiler.after history).compileChecked depth t ≠ .panicked ∧
      ((Compiler.after history).compileChecked depth t).forget =
        (Compiler.after history).compileWithin depth t) ∧
    ∀ depth t g, (Compiler.after history).compileWithin depth t = .ok g →
      (∀ source run after, g.drawChecked source run ≠ .error .panicked after) ∧
        g.drawChecked = Checked.lift g.draw := by
  have calm : ∀ plan, (Compiler.after history).Handles plan → plan.PanicFree := by
    intro plan handles
    rcases handled plan handles with ⟨node, rfl⟩ | calm
    · exact Plan.panicFree_iff_calm.mpr (Contains.strategy_calm _ node)
    · exact calm
  refine ⟨Ledger.foldlM_register? history, fun depth t => ⟨fun panicked => ?_, ?_⟩, ?_⟩
  · have panicFree := Compiler.compileChecked_panicFree calm depth t
    rw [panicked] at panicFree
    exact panicFree
  · exact Compiler.forget_compileChecked _ depth t
  · intro depth t g compiled
    have never := Compiler.neverPanics_of_compileWithin calm compiled
    exact ⟨never, Generator.neverPanics_iff.mp never⟩

/-- Calls on a compiler that counts items: a strategy for dials, rules for switches and knobs, the
first of them registered twice, and a strategy for items that are counted in several ways. -/
def workbench : List Registration :=
  [.customConstraint Contains.tag Contains.strategy,
    .strategy "dial" fun _ _ => return .tape 0 [.number .zero, .null],
    .intersectionRule "switches" [.literal, .boolean] fun _ types => Intersection.generic types,
    .intersectionRule "knobs" [.literal] fun _ _ => return .constant .null,
    .intersectionRule "switches" [.boolean, .literal] fun _ types => Intersection.generic types,
    .customIntersection [Contains.tag] fun _ _ => return .array .boolean 2,
    .maxSize 3]

/-- A console has a mode that two unions allow, which is declared twice, a row of switches of which
two are on, and perhaps a dial. -/
def console : Descriptor :=
  let on : Descriptor := .node 0 (.literal (.bool true))
  let off : Descriptor := .node 1 (.literal (.bool false))
  let dial : Descriptor := .node 2 (.extension "dial" .null ⟨"any", fun _ => true⟩)
  let mode : Descriptor :=
    .node 3 (.intersect [.node 4 (.union [on, off]), .node 5 (.union [off, dial])])
  let switches : Descriptor := .node 6 (.array (.node 7 .boolean))
  let row : Descriptor := .node 8 (.constraint switches (Contains.predicate on 2) none
    (some ((Args.new Contains.tag).withParam "count" (Json.ofInt 2) |>.withType "item" on)))
  .node 9 (.intersect [.node 10 (.record [("mode", mode), ("row", row)]),
    .node 11 (.partialRecord [("dial", dial), ("mode", mode)])])

/-- The workbench is set up, compiles consoles and draws them without a panic. -/
theorem consoles_never_panic :
    workbench.foldlM Ledger.register? .new = some (.of (Compiler.after workbench)) ∧
      ∃ g, (Compiler.after workbench).compile console = .ok g ∧
        ∀ source run after, g.drawChecked source run ≠ .error .panicked after := by
  have handled : ∀ plan, (Compiler.after workbench).Handles plan →
      (∃ node, plan = Contains.strategy (Compiler.after workbench).maxSize node) ∨
        plan.PanicFree := by
    intro plan handles
    cases handles with
    | extension node registered =>
      cases List.mem_singleton.mp registered
      exact .inr (Plan.panicFree_iff_calm.mpr (.pure (Checked.Follows.fromTape (.inr nofun))))
    | constraint node registered =>
      cases List.mem_singleton.mp registered
      exact .inl ⟨node, rfl⟩
    | rule types registered =>
      right
      rcases List.mem_pair.mp registered with rfl | rfl
      · exact Plan.panicFree_iff_calm.mpr Intersection.generic_calm
      · exact Plan.panicFree_iff_calm.mpr (.pure (Checked.Follows.lift _))
    | intersection types registered =>
      cases List.mem_singleton.mp registered
      exact .inr (Plan.panicFree_iff_calm.mpr (.pure (.array (Checked.Follows.lift _))))
  obtain ⟨registered, _, drawn⟩ := no_operation_leaves_its_domain workbench handled
  have compiled : ∃ g, (Compiler.after workbench).compile console = .ok g := ⟨_, rfl⟩
  obtain ⟨g, compiled⟩ := compiled
  exact ⟨registered, g, compiled, (drawn _ console g compiled).1⟩

end Specimen
