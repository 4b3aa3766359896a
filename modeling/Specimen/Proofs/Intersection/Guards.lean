import Specimen.Proofs.Check.Trials
import Specimen.Proofs.Compiler.Asking
import Specimen.Proofs.Compiler.Origin
import Specimen.Proofs.Generator.Rejections
import Specimen.Proofs.Intersection.Disjoint
import Specimen.Proofs.Intersection.Fallback

/-!
# Guards that reject nothing

Behind each merged field and behind each intersection stands a guard, a filter by the types that it
was made for. Where strategies keep to what their nodes accept and corrections repair, none of these
guards ever rejects a draw, and no starved draw names one (`outer_guards_reject_nothing`): they
could be left out.

What is asked is asked of all types that are compiled on the way (`Upholds`). The nodes of a type
are not enough, since a strategy may have any other type compiled, and the guards in that are guards
as well. Guards are known by their labels. A filter under such a label that is no guard is one that a
strategy brings along (`Brings`), and for errors never to name such a label it must not reject
anything either. Examples of both stand at the end.

The induction is on how deep compilations nest. Soundness of what is compiled below a node makes the
guards at it idle where there is one type; where there are several, the rule for them draws only
what all of them accept, whatever the types compile to (`guardAll_of_candidate`).
-/

namespace Specimen

/-! ## Plans that keep to a sort of generators -/

namespace Plan

variable {α : Type} {P : Generator → Prop} {S : Descriptor → Prop}
  {compile : Descriptor → Compiled}

/-- Told generators of a sort only, a plan answers with such generators only. -/
def Keeps (P : Generator → Prop) : Plan Generator → Prop
  | .answer (.ok g) => P g
  | .answer (.error _) => True
  | .compile _ next => ∀ result, (∀ g, result = .ok g → P g) → (next result).Keeps P

theorem Keeps.of_run {plan : Plan Generator} {g : Generator} (keeps : plan.Keeps P)
    (told : ∀ t g, compile t = .ok g → P g) (ran : plan.run compile = .ok g) : P g := by
  induction plan with
  | answer result =>
    cases ran
    exact keeps
  | compile t next ih =>
    rw [run] at ran
    cases compiled : compile t with
    | ok h =>
      rw [compiled] at ran
      exact ih _ (keeps (.ok h) fun _ same => Except.ok.inj same ▸ told t h compiled) ran
    | error failure =>
      rw [compiled] at ran
      cases failure with
      | error e => exact ih _ (keeps (.error e) fun _ same => by cases same) ran
      | abandoned => cases ran

open Classical in
/-- Compiles types of a sort only. -/
noncomputable def onlyAmong (S : Descriptor → Prop) (compile : Descriptor → Compiled)
    (t : Descriptor) : Compiled := if S t then compile t else .error .abandoned

theorem onlyAmong_eq_ok {t : Descriptor} {g : Generator} :
    onlyAmong S compile t = .ok g ↔ S t ∧ compile t = .ok g := by
  unfold onlyAmong
  split
  case isTrue sort => exact (and_iff_right sort).symm
  case isFalse other => exact iff_of_false nofun fun ⟨sort, _⟩ => other sort

/-- A plan that asks for types of a sort only does not notice that no others are compiled. -/
theorem run_onlyAmong {plan : Plan α} (asks : plan.AsksOnly S) :
    plan.run (onlyAmong S compile) = plan.run compile :=
  run_congr (fun _ sort => if_pos sort) asks

end Plan

namespace Compiler

/-- Types that a compiler can be held to, and that have only such types compiled on the way. -/
structure Upholds (c : Compiler) (S : Descriptor → Prop) : Prop where
  answers : ∀ {t}, S t → c.Answers t
  asks : ∀ {t}, S t → (c.step t).AsksOnly S

/-- A registered strategy has put a search together itself: it stands in what the strategy answers,
told what types of a sort compile to, and in nothing that it is told. -/
def Brings (c : Compiler) (S : Descriptor → Prop) (h : Generator) : Prop :=
  ∃ plan, c.Handles plan ∧ ∃ depth g,
    plan.run (Plan.onlyAmong S (c.compileWithin depth)) = .ok g ∧ h ∈ g.nodes ∧
      ∀ t k, S t → c.compileWithin depth t = .ok k → h ∉ k.nodes

/-- Where strategies have nothing else compiled, all types that the compiler can be held to will
do. Intersections of fields, which merging makes, are among them. -/
theorem upholds_answers {c : Compiler}
    (handled : ∀ plan, c.Handles plan → plan.AsksOnly c.Answers) : c.Upholds c.Answers where
  answers := id
  asks {t} answers := by
    obtain ⟨id, shape⟩ := t
    have parts : ∀ part ∈ shape.parts, c.Answers part := fun part mem =>
      answers.of_subset fun s below => .tail _ (Shape.reached_subset_of_mem_parts mem below)
    by_cases plain : shape.tag = .intersect
    · obtain ⟨intersectees, rfl⟩ := Shape.tag_eq_intersect.mp plain
      have each : ∀ t ∈ Intersection.flatten intersectees, c.Answers t :=
        fun t => Intersection.answers_of_mem_flatten answers
      refine Intersection.resolve_asksOnly (fun rule mem => handled _ (.rule _ mem))
        (fun entry mem => handled _ (.intersection _ mem)) each ?_ ?_
      · intro _ _ entry merged
        refine Intersection.answers_fieldType fun t declared => ?_
        obtain ⟨declaration, made, rfl⟩ :=
          Intersection.exists_mem_fieldDecls.mp ⟨entry, merged, declared⟩
        exact Intersection.answers_of_declared answers made
      · intro t mem a alternative
        have part := Intersection.alternativesOf_subset_parts t alternative
        exact (each t mem).of_subset fun s below =>
          t.reachedFrom_subset (Shape.reached_subset_of_mem_parts part below)
    · refine step_asksOnly_of_plain plain ?_ ?_ parts
      · rintro name payload guard strategy rfl registered
        exact handled _ (.extension _ registered)
      · rintro underlying predicate correction arguments args strategy rfl marked registered
        exact handled _ (.constraint _ registered)

end Compiler

namespace Intersection

variable {c : Compiler} {S : Descriptor → Prop} {types : List Descriptor} {g h inner : Generator}
  {v : Value} {compile : Descriptor → Compiled}

/-! ## Labels -/

/-- The labels of the guards that stand behind intersections and merged fields. -/
def IsOuterGuard (label : String) : Prop :=
  label = "intersection guard" ∨ ∃ name, label = "field `" ++ name ++ "` rejected"

/-- The labels of guards begin with one of two letters, so a label that begins with another letter is
none of them. -/
theorem not_isOuterGuard_of_head {label : String} {first : Char}
    (begins : label.toList.head? = some first) (other : first ≠ 'i' ∧ first ≠ 'f') :
    ¬ IsOuterGuard label := by
  rintro (rfl | ⟨name, rfl⟩)
  · exact other.1 (Option.some.inj begins).symm
  · rw [String.toList_append, String.toList_append] at begins
    exact other.2 (Option.some.inj begins).symm

theorem not_isOuterGuard_constraintLabel (predicate : Predicate) :
    ¬ IsOuterGuard (Compiler.constraintLabel predicate) := by
  have begins : (Compiler.constraintLabel predicate).toList.head? = some 'c' := by
    rw [Compiler.constraintLabel, String.toList_append, String.toList_append]
    rfl
  exact not_isOuterGuard_of_head begins (by decide)

theorem not_isOuterGuard_generic (types : List Descriptor) :
    ¬ IsOuterGuard ("no draw satisfied every intersectee of `" ++ kindsLabel types ++ "`") := by
  have begins : ("no draw satisfied every intersectee of `" ++ kindsLabel types ++
      "`").toList.head? = some 'n' := by
    rw [String.toList_append, String.toList_append]
    rfl
  exact not_isOuterGuard_of_head begins (by decide)

/-! ## Idle guards -/

theorem guard_fieldType (types : List Descriptor) (v : Value) :
    (fieldType types).guard v = Descriptor.guardAll types v := by
  unfold fieldType
  split
  · exact (Bool.and_true _).symm
  · rfl

/-- With nothing registered for intersections, types are drawn by a rule that yields only what all
of them accept, whatever they compile to. -/
theorem guardAll_of_candidate (noRules : c.customRules = []) (noTagged : c.customIntersections = [])
    (made : (candidate c types).run compile = .ok inner) (drawn : inner.Draws v) :
    Descriptor.guardAll types v = true := by
  by_cases records : ∀ t ∈ types, t.IsRecord
  · rw [candidate_of_records records] at made
    exact guardAll_of_mergeRecords made drawn
  · have nonempty : types ≠ [] := by
      rintro rfl
      exact records nofun
    by_cases unions : ∀ t ∈ types, t.tag = .union
    · rw [candidate_of_unions nonempty unions] at made
      obtain ⟨_, candidates, _, rfl⟩ := run_flattenUnions.mp made
      obtain ⟨_, _, _, accepted⟩ := drawn.of_rotated
      exact accepted
    · simp only [not_forall, exists_prop] at records unions
      rw [candidate_of_others noRules noTagged records unions] at made
      obtain ⟨_, _, _, rfl⟩ := (run_generic nonempty).mp made
      exact guardAll_of_guarded drawn

/-- One case per origin: a guard that a step adds rejects nothing where types accept what they are
compiled to. Else it stands in what a type is compiled to, or in what a strategy answers. -/
theorem isIdle_of_origin (noRules : c.customRules = []) (noTagged : c.customIntersections = [])
    (sound : ∀ t : Descriptor, t.AcceptsDraws (compile t)) (origin : Origin c compile h) :
    h.IsIdle IsOuterGuard ∨ (∃ t g, compile t = .ok g ∧ h ∈ g.nodes) ∨
      ∃ plan, c.Handles plan ∧ ∃ g, plan.run compile = .ok g ∧ h ∈ g.nodes := by
  cases origin with
  | told compiled mem => exact .inr (.inl ⟨_, _, compiled, mem⟩)
  | answered handles ran mem => exact .inr (.inr ⟨_, handles, _, ran, mem⟩)
  | plain plain => exact .inl (Generator.isIdle_of_plain plain)
  | constraint source predicate =>
    left
    rintro ⟨_, same, outer⟩
    exact absurd (Option.some.inj same ▸ outer) (not_isOuterGuard_constraintLabel predicate)
  | generic source types =>
    left
    rintro ⟨_, same, outer⟩
    exact absurd (Option.some.inj same ▸ outer) (not_isOuterGuard_generic types)
  | pooled candidates types =>
    exact .inl (not_isOuterGuard_of_head rfl (by decide))
  | field name compiled =>
    left
    intro _ v drawn
    rw [← guard_fieldType]
    exact sound _ _ v compiled drawn
  | only compiled =>
    left
    intro _ v drawn
    exact Descriptor.guardAll_eq_true.mpr <|
      List.forall_mem_singleton.mpr (sound _ _ v compiled drawn)
  | several made =>
    left
    intro _ v drawn
    exact guardAll_of_candidate noRules noTagged made drawn

/-- What stands in a compiled generator is idle, or stands in what a type of the sort is compiled to
below it, or in what a strategy answers that is told of such types. -/
theorem isIdle_of_mem_nodes (noRules : c.customRules = []) (noTagged : c.customIntersections = [])
    (upholds : c.Upholds S) {depth : Nat} {t : Descriptor} (sort : S t)
    (made : c.compileWithin (depth + 1) t = .ok g) (mem : h ∈ g.nodes) :
    h.IsIdle IsOuterGuard ∨
      (∃ s k, S s ∧ c.compileWithin depth s = .ok k ∧ h ∈ k.nodes) ∨
      ∃ plan, c.Handles plan ∧ ∃ k,
        plan.run (Plan.onlyAmong S (c.compileWithin depth)) = .ok k ∧ h ∈ k.nodes := by
  rw [Compiler.compileWithin, ← Plan.run_onlyAmong (upholds.asks sort)] at made
  have sound : ∀ s : Descriptor,
      s.AcceptsDraws (Plan.onlyAmong S (c.compileWithin depth) s) := fun s k v compiled drawn =>
    have below := Plan.onlyAmong_eq_ok.mp compiled
    Compiler.accepts_of_answers depth s (upholds.answers below.1) k v below.2 drawn
  refine (isIdle_of_origin noRules noTagged sound (Origin.of_step made mem)).imp_right ?_
  refine Or.imp_left ?_
  rintro ⟨s, k, compiled, mem⟩
  have below := Plan.onlyAmong_eq_ok.mp compiled
  exact ⟨s, k, below.1, below.2, mem⟩

/-- By induction on the bound on nesting: the types that are compiled below one are of the sort, so
they accept what they are compiled to and have idle guards only. -/
theorem idleUnder_of_compileWithin (noRules : c.customRules = [])
    (noTagged : c.customIntersections = []) (upholds : c.Upholds S)
    (keeps : ∀ plan, c.Handles plan → plan.Keeps (Generator.IdleUnder IsOuterGuard)) :
    ∀ {depth : Nat} {t : Descriptor} {g : Generator}, S t → c.compileWithin depth t = .ok g →
      g.IdleUnder IsOuterGuard
  | 0, _, _, _, made => by cases made
  | depth + 1, t, g, sort, made => fun h mem => by
    rcases isIdle_of_mem_nodes noRules noTagged upholds sort made mem with
      idle | ⟨s, k, below, compiled, mem⟩ | ⟨plan, handles, k, ran, mem⟩
    · exact idle
    · exact idleUnder_of_compileWithin noRules noTagged upholds keeps below compiled h mem
    · refine (keeps plan handles).of_run (fun s k told => ?_) ran h mem
      have below := Plan.onlyAmong_eq_ok.mp told
      exact idleUnder_of_compileWithin noRules noTagged upholds keeps below.1 below.2

/-- By the same induction: a filter under the label of a guard rejects nothing, unless a strategy
brings it along. -/
theorem isIdle_or_brings (noRules : c.customRules = []) (noTagged : c.customIntersections = [])
    (upholds : c.Upholds S) : ∀ {depth : Nat} {t : Descriptor} {g : Generator}, S t →
      c.compileWithin depth t = .ok g → ∀ h ∈ g.nodes, h.IsIdle IsOuterGuard ∨ c.Brings S h
  | 0, _, _, _, made => by cases made
  | depth + 1, t, g, sort, made => fun h mem => by
    by_cases below : ∃ s k, S s ∧ c.compileWithin depth s = .ok k ∧ h ∈ k.nodes
    · obtain ⟨s, k, sort, compiled, mem⟩ := below
      exact isIdle_or_brings noRules noTagged upholds sort compiled h mem
    · rcases isIdle_of_mem_nodes noRules noTagged upholds sort made mem with
        idle | told | ⟨plan, handles, k, ran, mem⟩
      · exact .inl idle
      · exact absurd told below
      · refine .inr ⟨plan, handles, depth, k, ran, mem, fun s other sort compiled among => ?_⟩
        exact below ⟨s, other, sort, compiled, among⟩

/-! ## Checks -/

section Checks

variable {source : Source} {accepts : Value → Bool} {seed : UInt64} {e : GenError} {label : String}

/-- Trials of a generator with idle guards end in no error that names one. -/
theorem not_names_of_trials (idle : g.IdleUnder IsOuterGuard) (outer : IsOuterGuard label) :
    ∀ {left trial : Nat} {run : Run}, run.spent ≤ source.budget →
      (Check.trials accepts seed g source left trial run).1 = .error e → ¬ e.Names label
  | 0, _, _, _, ended => by cases ended
  | left + 1, trial, run, within, ended => by
    unfold Check.trials at ended
    split at ended
    case h_1 e' after failed =>
      cases ended
      exact Generator.not_names_of_next idle within failed outer
    case h_2 v after drawn =>
      split at ended
      · exact not_names_of_trials idle outer (Generator.next_of_le within drawn).1 ended
      · cases ended
        exact nofun

/-- Trials of what rejects nothing pass, if it only draws what is accepted. -/
theorem passes_of_steady (steady : g.draw.Steady) (sound : ∀ v, g.Draws v → accepts v = true) :
    ∀ (i : Nat) {run : Run}, run.spent ≤ source.budget →
      Check.Passes accepts (g.outcome source i run)
  | 0, run, within => by
    obtain ⟨v, after, drawn, _⟩ := Generator.next_of_steady steady within
    exact ⟨v, congrArg Prod.fst drawn, sound v (Generator.draws_of_next drawn)⟩
  | i + 1, run, within => by
    obtain ⟨v, after, drawn, still⟩ := Generator.next_of_steady steady within
    have onward : g.outcome source (i + 1) run = g.outcome source i after := by
      rw [Generator.outcome, Generator.runAfter, drawn]
      rfl
    rw [onward]
    exact passes_of_steady steady sound i still

end Checks

theorem steady_ownRecord {fields : List (Declaration × Generator)}
    (each : ∀ field ∈ fields, field.2.draw.Steady) : (ownRecord fields).draw.Steady := by
  have closed := Draw.closed_steady
  refine closed.bind (closed.bind (closed.eachField fun field mem => ?_) fun _ => closed.pure _)
    fun _ => closed.pure _
  obtain ⟨own, among, rfl⟩ := List.mem_map.mp mem
  unfold ownField
  dsimp only
  split
  · exact each own among
  · exact closed.optional (each own among)

/-! ## The whole -/

/-- Outer guards reject nothing. Let a compiler have nothing registered for intersections, and let
it be held to a type and to all types that are compiled on the way: strategies keep to what their
nodes accept, corrections repair, and no literal has a not-a-number in it.

Then every filter under the label of a guard, wherever in the generator it stands, keeps whatever its
source draws and costs nothing, unless a strategy brings it along. If no strategy brings along a
rejecting filter under such a label, then no draw that starves, in a sample or in a check, names one.

In any case an intersection of records and partial records that share no field draws what one record
of their fields would, each drawn by its own generator and nothing rejected besides. So if these
reject nothing, a check passes whatever rejections it tolerates, also none. -/
theorem outer_guards_reject_nothing (c : Compiler) (S : Descriptor → Prop)
    (noRules : c.customRules = []) (noTagged : c.customIntersections = [])
    (upholds : c.Upholds S) (t : Descriptor) (sort : S t) (g : Generator)
    (compiled : c.compile t = .ok g) :
    (∀ inner label keep, IsOuterGuard label → .filtered inner (some label) keep ∈ g.nodes →
      ((∀ v, inner.Draws v → keep v = true) ∧
        ∀ source run, run.spent ≤ source.budget →
          (Generator.filtered inner (some label) keep).draw source run = inner.draw source run) ∨
        c.Brings S (.filtered inner (some label) keep)) ∧
    ((∀ plan, c.Handles plan → plan.Keeps (Generator.IdleUnder IsOuterGuard)) →
      (∀ inner label keep, IsOuterGuard label → .filtered inner (some label) keep ∈ g.nodes →
        (∀ v, inner.Draws v → keep v = true) ∧
          ∀ source run, run.spent ≤ source.budget →
            (Generator.filtered inner (some label) keep).draw source run =
              inner.draw source run) ∧
      (∀ label, IsOuterGuard label → ∀ source run, run.spent ≤ source.budget →
        ∀ n e after, g.sample source n run = (.error e, after) → ¬ e.Names label) ∧
      (∀ label, IsOuterGuard label → ∀ (d : Compiler) config, d.configured config = c →
        ∀ seed run, run.spent ≤ config.maxRejects →
          ∀ e, (d.checkFrom t config seed run).1 = .error (.error e) → ¬ e.Names label)) ∧
    (∀ id intersectees, t = .node id (.intersect intersectees) → flatten intersectees ≠ [] →
      (∀ u ∈ flatten intersectees, u.IsRecord) →
      (((flatten intersectees).flatMap declarations).map Declaration.name).Nodup →
      ∃ own, own.map Prod.fst = (flatten intersectees).flatMap declarations ∧
        (∀ field ∈ own, c.Compiles field.1.type field.2) ∧
        (∀ source run, run.spent ≤ source.budget →
          g.draw source run = (ownRecord own).draw source run) ∧
        ((∀ field ∈ own, field.2.draw.Steady) →
          ∀ (d : Compiler) config, d.configured config = c → ∀ seed,
            d.check t config seed = .ok ⟨config.cases, seed⟩)) := by
  have answers := upholds.answers sort
  refine ⟨fun inner label keep outer mem => ?_, fun keeps => ?_, ?_⟩
  · refine (isIdle_or_brings noRules noTagged upholds sort compiled _ mem).imp_left fun idle => ?_
    have kept : ∀ v, inner.Draws v → keep v = true := idle ⟨label, rfl, outer⟩
    exact ⟨kept, fun source run within => Generator.alike_filtered_of_kept kept within⟩
  · have idle : g.IdleUnder IsOuterGuard :=
      idleUnder_of_compileWithin noRules noTagged upholds keeps sort compiled
    refine ⟨fun inner label keep outer mem => ?_, ?_, ?_⟩
    · obtain ⟨kept, alike⟩ := idle.alike mem outer
      exact ⟨kept, fun source run within => alike within⟩
    · intro label outer source run within n e after failed
      exact Generator.not_names_of_sample idle outer within failed
    · rintro label outer d config rfl seed run within e failed
      rw [Compiler.verdict_of_compiles config compiled] at failed
      split at failed
      case h_1 e' ended =>
        cases failed
        exact not_names_of_trials idle outer within ended
      case h_2 => cases failed
  · rintro id intersectees rfl nonempty records once
    obtain ⟨own, first, each, alike⟩ :=
      exists_ownRecord nonempty records once answers ⟨_, compiled⟩
    refine ⟨own, first, each, fun source run within => alike within, ?_⟩
    rintro steady d config rfl seed
    have sound : ∀ v, g.Draws v → Descriptor.guard (.node id (.intersect intersectees)) v = true :=
      fun v => answers.accepts ⟨_, compiled⟩
    -- steadiness of the fields' own draws is carried over along `alike`, which is where the guards
    -- drop out
    have rejectsNothing := (steady_ownRecord steady).of_alike alike
    rw [Compiler.check, Compiler.checkFrom_of_passes config compiled fun j _ =>
      passes_of_steady rejectsNothing sound j (Nat.zero_le _)]

/-- A switch that may have a label. -/
def labelledPanel : Descriptor := .node 9 <| .intersect
  [Compiler.switch, .node 10 (.partialRecord [("label", .node 11 .string)])]

/-- What the strategies of the panel make is plain. -/
theorem plain_of_panel {plan : Plan Generator} (handles : Compiler.panel.Handles plan) :
    ∃ g : Generator, plan = pure g ∧ ∀ h ∈ g.nodes, h.isPlain = true := by
  cases handles with
  | extension node registered =>
    cases List.mem_singleton.mp registered
    exact ⟨.boolean, rfl, List.all_eq_true.mp rfl⟩
  | constraint node registered =>
    cases List.mem_singleton.mp registered
    exact ⟨.constant (.bool true), rfl, List.all_eq_true.mp rfl⟩
  | rule types registered => cases registered
  | intersection types registered => cases registered

/-- A check of labelled switches passes, though it tolerates no rejection, and if a draw of them
ever starved it would not be for a guard. -/
theorem labelledPanel_rejects_nothing :
    ∃ g, Compiler.panel.compile labelledPanel = .ok g ∧
      (∀ seed, Compiler.panel.check labelledPanel { RunConfig.default with maxRejects := 0 } seed =
        .ok ⟨100, seed⟩) ∧
      ∀ source n e after, g.sample source n .start = (.error e, after) →
        ¬ e.Names "intersection guard" := by
  have compiled : ∃ g, Compiler.panel.compile labelledPanel = .ok g := ⟨_, rfl⟩
  obtain ⟨g, compiled⟩ := compiled
  have answers : Compiler.panel.Answers labelledPanel := by
    refine .of_parts rfl rfl nofun nofun (List.forall_mem_cons.mpr ⟨?_, ?_⟩)
    · exact ⟨rfl, rfl, Compiler.panel_trusts_switch Compiler.panel.maxSize⟩
    · refine List.forall_mem_singleton.mpr (.of_parts rfl rfl nofun nofun ?_)
      exact List.forall_mem_singleton.mpr (.of_parts rfl rfl nofun nofun nofun)
  have upholds : Compiler.panel.Upholds Compiler.panel.Answers := by
    refine Compiler.upholds_answers fun plan handles => ?_
    obtain ⟨_, rfl, _⟩ := plain_of_panel handles
    exact .pure _
  have keeps : ∀ plan, Compiler.panel.Handles plan →
      plan.Keeps (Generator.IdleUnder IsOuterGuard) := by
    intro plan handles
    obtain ⟨_, rfl, plain⟩ := plain_of_panel handles
    exact fun h mem => Generator.isIdle_of_plain (plain h mem)
  obtain ⟨_, guards, records⟩ := outer_guards_reject_nothing Compiler.panel Compiler.panel.Answers rfl
    rfl upholds labelledPanel answers g compiled
  have both : ∀ u ∈ [Compiler.switch, .node 10 (.partialRecord [("label", .node 11 .string)])],
      u.IsRecord := List.forall_mem_cons.mpr ⟨.inl rfl, List.forall_mem_singleton.mpr (.inr rfl)⟩
  obtain ⟨own, declared, compiles, _, passes⟩ := records 9 _ rfl nofun both (by decide)
  have plain : ∀ declaration ∈ own.map Prod.fst, ∃ source : Generator,
      Compiler.panel.Compiles declaration.type source ∧ ∀ h ∈ source.nodes, h.isPlain = true := by
    rw [declared]
    refine List.forall_mem_cons.mpr ⟨⟨_, ⟨1, rfl⟩, List.all_eq_true.mp rfl⟩, ?_⟩
    refine List.forall_mem_cons.mpr ⟨⟨_, ⟨1, rfl⟩, List.all_eq_true.mp rfl⟩, ?_⟩
    refine List.forall_mem_cons.mpr ⟨⟨_, ⟨2, rfl⟩, List.all_eq_true.mp rfl⟩, ?_⟩
    refine List.forall_mem_cons.mpr ⟨⟨_, ⟨1, rfl⟩, List.all_eq_true.mp rfl⟩, ?_⟩
    exact List.forall_mem_singleton.mpr ⟨_, ⟨1, rfl⟩, List.all_eq_true.mp rfl⟩
  refine ⟨g, compiled, passes (fun field mem => ?_) Compiler.panel _ rfl, ?_⟩
  · obtain ⟨source, compiles', plain⟩ := plain field.1 (List.mem_map_of_mem mem)
    rw [(compiles field mem).unique compiles']
    exact Generator.steady_of_plain plain
  · exact fun source => (guards keeps).2.1 _ (.inl rfl) source .start (Nat.zero_le _)

/-! ## Guards that strategies bring along -/

/-- A type of truths, if its correction were one. -/
def unrepaired : Descriptor := .node 1 <| .intersect
  [.node 2 (.constraint (.node 3 .boolean) (Compiler.isTruth true) (some ⟨"keep", id⟩) none)]

/-- A compiler with a strategy that has another type compiled than its node. -/
def lending : Compiler :=
  Compiler.new.registerStrategy "lend" fun _ _ => Plan.generatorOf unrepaired

/-- A compiler with a strategy that filters under the label of a guard. -/
def masking : Compiler := Compiler.new.registerStrategy "mask" fun _ _ =>
  pure (.filtered .boolean (some "intersection guard") fun v => v.equal (.bool true))

/-- With strategies that keep to what their nodes accept, a guard rejects all the same where a
strategy has a type compiled whose correction does not repair, and a filter is blamed under the
label of a guard where a strategy puts it there. -/
theorem lent_guards_reject :
    (lending.customRules = [] ∧ lending.customIntersections = [] ∧
      lending.Answers (.node 0 (.extension "lend" .null anything)) ∧
      ∃ g e after, lending.compile (.node 0 (.extension "lend" .null anything)) = .ok g ∧
        g.sample ⟨fun _ => 0, 0⟩ 1 .start = (.error e, after) ∧ e.Names "intersection guard") ∧
    masking.customRules = [] ∧ masking.customIntersections = [] ∧
      masking.Answers (.node 0 (.extension "mask" .null anything)) ∧
      ∃ g e after, masking.compile (.node 0 (.extension "mask" .null anything)) = .ok g ∧
        g.sample ⟨fun _ => 0, 0⟩ 1 .start = (.error e, after) ∧ e.Names "intersection guard" :=
  ⟨⟨rfl, rfl, answers_anything _ _ _ _, _, _, _, rfl, rfl, rfl⟩,
    rfl, rfl, answers_anything _ _ _ _, _, _, _, rfl, rfl, rfl⟩

end Intersection

end Specimen
