import Specimen.Proofs.Compiler.Contains
import Specimen.Proofs.Generator.Starving
import Specimen.Proofs.Intersection.Guards

/-!
# The labels of compiled searches

Every search that compilation adds to a generator has a label that says what it is for
(`IsBuiltIn`), and strategies that put generators together by combinators label theirs
(`SearchesBy`). So whatever starves in a compiled generator has a label, and a draw that fails tells
the label of the very search that starved it (`starved_draw_names_its_search`), whatever the runner
and others on its thread have drawn before.
-/

namespace Specimen

namespace Generator

variable {Own : Generator → Prop} {g h : Generator}

open Intersection in
/-- The searches that compilation adds, by what they are for. -/
inductive IsBuiltIn : Generator → Prop
  | constraint (source : Generator) (predicate : Predicate) : IsBuiltIn
    (.filtered source (some (Compiler.constraintLabel predicate)) predicate.test)
  | generic (source : Generator) (types : List Descriptor) : IsBuiltIn
    (guarded source ("no draw satisfied every intersectee of `" ++ kindsLabel types ++ "`") types)
  | pooled (candidates : List Generator) (types : List Descriptor) : IsBuiltIn
    (.rotated candidates "no flattened alternative satisfied every union"
      (Descriptor.guardAll types))
  | field (source : Generator) (name : String) (types : List Descriptor) : IsBuiltIn
    (guarded source ("field `" ++ name ++ "` rejected") types)
  | guard (source : Generator) (types : List Descriptor) : IsBuiltIn
    (guarded source "intersection guard" types)
  | repaired (node : MarkedConstraint) (item : Descriptor) (count : Nat) (base extra : Generator) :
    IsBuiltIn (Contains.repairing node item count base extra)

/-- Every search in a generator has a label, and is one that compilation adds or one of a strategy's
own. -/
def SearchesBy (Own : Generator → Prop) (g : Generator) : Prop :=
  ∀ h ∈ g.nodes, ∀ label, h.noted? = some label →
    (∃ name, label = some name) ∧ (h.IsBuiltIn ∨ Own h)

theorem noted?_of_plain (plain : g.isPlain = true) : g.noted? = none := by
  cases g with
  | filtered source label keep => cases plain
  | rotated candidates label keep => cases plain
  | _ => rfl

/-- A search that is added to a generator. -/
theorem IsBuiltIn.labelled (builtIn : h.IsBuiltIn) {label : Option String}
    (noted : h.noted? = some label) : ∃ name, label = some name := by
  cases builtIn <;> exact ⟨_, (Option.some.inj noted).symm⟩

end Generator

namespace Plan

variable {P : Generator → Prop}

theorem Keeps.generatorOf_bind {t : Descriptor} {f : Generator → Plan Generator}
    (keeps : ∀ g, P g → (f g).Keeps P) : (generatorOf t >>= f).Keeps P := by
  intro result told
  cases result with
  | ok g => exact keeps g (told g rfl)
  | error e => trivial

end Plan

namespace Contains

/-- What count is asked for depends on no generator. -/
theorem exists_countOf_eq (args : Args Descriptor) : ∃ result, countOf args = .answer result := by
  unfold countOf
  split
  · exact ⟨_, rfl⟩
  · split
    · exact ⟨_, rfl⟩
    · exact ⟨_, rfl⟩
  · exact ⟨_, rfl⟩

/-- The strategy of counted arrays adds one search, which is built in. -/
theorem keeps_strategy (Own : Generator → Prop) (maxSize : Nat) (node : MarkedConstraint) :
    (strategy maxSize node).Keeps (Generator.SearchesBy Own) := by
  unfold strategy
  cases Fields.get? node.args.types "item" with
  | none => trivial
  | some item =>
    obtain ⟨result, answered⟩ := exists_countOf_eq node.args
    simp only [answered]
    cases result with
    | error failure => trivial
    | ok count =>
      change Plan.Keeps _ (if limit maxSize < count then _ else _)
      split
      case isTrue => trivial
      case isFalse =>
        refine Plan.Keeps.generatorOf_bind fun base ofBase => ?_
        refine Plan.Keeps.generatorOf_bind fun extra ofExtra => ?_
        intro h mem label noted
        rcases List.mem_cons.mp mem with rfl | mem
        · have builtIn := Generator.IsBuiltIn.repaired node item count base extra
          exact ⟨builtIn.labelled noted, .inl builtIn⟩
        · rcases List.mem_cons.mp mem with rfl | mem
          · cases noted
          · exact (List.mem_append.mp mem).elim
              (fun mem => ofBase h mem label noted) (fun mem => ofExtra h mem label noted)

/-- A compiler that knows only how to fill arrays adds no searches but those that are built in. -/
theorem keeps_of_handles {plan : Plan Generator} (handles : (register .new).Handles plan) :
    plan.Keeps (Generator.SearchesBy fun _ => False) := by
  cases handles with
  | extension node registered => cases registered
  | constraint node registered =>
    cases List.mem_singleton.mp registered
    exact keeps_strategy _ _ _
  | rule types registered => cases registered
  | intersection types registered => cases registered

end Contains

namespace Compiler

open Generator

variable {c : Compiler} {Own : Generator → Prop}

/-- By induction on how deep compilations nest. -/
private theorem searchesBy_of_compileWithin
    (keeps : ∀ plan, c.Handles plan → plan.Keeps (SearchesBy Own)) :
    ∀ {depth : Nat} {t : Descriptor} {g : Generator}, c.compileWithin depth t = .ok g →
      g.SearchesBy Own
  | 0, _, _, made => by cases made
  | depth + 1, t, g, made => by
    intro h mem label noted
    have told : ∀ t g, c.compileWithin depth t = .ok g → g.SearchesBy Own :=
      fun _ _ => searchesBy_of_compileWithin keeps
    have built : h.IsBuiltIn → (∃ name, label = some name) ∧ (h.IsBuiltIn ∨ Own h) :=
      fun builtIn => ⟨builtIn.labelled noted, .inl builtIn⟩
    cases Origin.of_step made mem with
    | told compiled mem => exact told _ _ compiled h mem label noted
    | answered handles ran mem => exact (keeps _ handles).of_run told ran h mem label noted
    | plain plain => cases (noted?_of_plain plain).symm.trans noted
    | constraint source predicate => exact built (.constraint source predicate)
    | generic source types => exact built (.generic source types)
    | pooled candidates types => exact built (.pooled candidates types)
    | field name compiled => exact built (.field _ name _)
    | only compiled => exact built (.guard _ _)
    | several made => exact built (.guard _ _)

/-- A draw that fails names the search that starved it. For every generator that is compiled from
strategies which label their searches, every budget, every stream of choices and any past of the
runner and its thread: the draw rejects until the budget is spent, the last rejection is the only one
that finds it spent, and the reason is the label of the search that this rejection is of, followed by
the generic text. What has been blamed before makes no difference. -/
theorem starved_draw_names_its_search (c : Compiler) (Own : Generator → Prop)
    (keeps : ∀ plan, c.Handles plan → plan.Keeps (SearchesBy Own)) {t : Descriptor} {g : Generator}
    (compiled : c.compile t = .ok g) {source : Source} {run after : Run} {e : GenError}
    (past : Past source run) (failed : g.next source run = (.error e, after)) :
    ∃ before place search label,
      g.record source run = (before ++ [⟨place, some label, source.budget⟩], .error () after) ∧
      (∀ rejection ∈ before, rejection.spent < source.budget) ∧
      g.at? place = some search ∧ search.noted? = some (some label) ∧
      (search.IsBuiltIn ∨ Own search) ∧
      e = .retryBudgetExceeded (label ++ " (" ++ starvedText ++ ")") ∧
      ∀ blamed, g.next source { run with blamed := blamed } = (.error e, after) := by
  obtain ⟨before, ⟨place, noted, spent⟩, recorded, each, rfl, ⟨search, there, own⟩, named⟩ :=
    starved_at past.within failed
  have searches : g.SearchesBy Own := searchesBy_of_compileWithin keeps compiled
  obtain ⟨⟨label, rfl⟩, whose⟩ := searches search (mem_nodes_of_at? there) noted own
  exact ⟨before, place, search, label, recorded, each, there, own, whose, named label rfl,
    fun _ => failed⟩

/-- What is both nothing and a boolean. -/
def voidBoolean : Descriptor := .node 2 (.intersect [.node 0 .void, .node 1 .boolean])

/-- Its generator: behind the guard stands the search for what all intersectees accept. -/
def voidOrBoolean : Generator :=
  let types := [.node 0 .void, .node 1 .boolean]
  Intersection.guarded (Intersection.guarded (.oneOf .void [.boolean])
    "no draw satisfied every intersectee of `boolean & void`" types) "intersection guard" types

/-- A stream and two rejections to be spent. -/
def twoRejects : Source := ⟨fun _ => 0, 2⟩

/-- A runner that has blamed another search: it has drawn from the picky generator. -/
def afterPicky : Run := (picky.next twoRejects .start).2

/-- After a draw that has rejected under a label of its own, a draw of what is both nothing and a
boolean starves in the search behind the guard, and names that. -/
theorem fallback_is_named_after_picky :
    (Contains.register .new).compile voidBoolean = .ok voidOrBoolean ∧
    Past twoRejects afterPicky ∧ afterPicky.blamed = some "picky" ∧
    ∃ e after, voidOrBoolean.next twoRejects afterPicky = (.error e, after) ∧
      ∃ before place search label,
        voidOrBoolean.record twoRejects afterPicky =
          (before ++ [⟨place, some label, 2⟩], .error () after) ∧
        voidOrBoolean.at? place = some search ∧ search.noted? = some (some label) ∧
        search.IsBuiltIn ∧ label = "no draw satisfied every intersectee of `boolean & void`" ∧
        e = .retryBudgetExceeded (label ++ " (" ++ starvedText ++ ")") := by
  have compiled : (Contains.register .new).compile voidBoolean = .ok voidOrBoolean := rfl
  have past : Past twoRejects afterPicky := .drawn picky (.fresh none [])
  have failed : voidOrBoolean.next twoRejects afterPicky = (.error (.retryBudgetExceeded
      (starvedReason (some "no draw satisfied every intersectee of `boolean & void`"))),
      (voidOrBoolean.next twoRejects afterPicky).2) := rfl
  obtain ⟨before, place, search, label, recorded, _, there, noted, whose, told, _⟩ :=
    starved_draw_names_its_search (Contains.register .new) (fun _ => False)
      (fun _ => Contains.keeps_of_handles) compiled past failed
  have same : starvedReason (some "no draw satisfied every intersectee of `boolean & void`") =
      starvedReason (some label) := GenError.retryBudgetExceeded.inj told
  exact ⟨compiled, past, rfl, _, _, failed, before, place, search, label, recorded, there, noted,
    whose.resolve_right id, (Option.some.inj (starvedReason_injective same)).symm, told⟩

end Compiler

end Specimen
