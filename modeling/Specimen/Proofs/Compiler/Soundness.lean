import Specimen.Check.Verdict
import Specimen.Proofs.Compiler.Failures
import Specimen.Proofs.Compiler.Step
import Specimen.Proofs.Descriptor.Reached
import Specimen.Proofs.Intersection.Conjunction
import Specimen.Proofs.Related

/-!
# Generators draw what their types accept

A value drawn for a descriptor satisfies the descriptor's own guard, and no check finds a
counterexample (`sound_when_trusted`). What is asked for this is asked node by node, and only of what
comes from outside (`Trusts`): strategies for extensions and for marked constraints keep to what
their nodes accept, and corrections repair. Rules for intersections are asked nothing.

A check needs a little more than its compiler's draws do. It may set a size bound of its own, and
what a strategy was trusted with under the compiler's bound it need not keep to under another. And to
answer with a counterexample is to answer with an error, which any strategy that is called may raise
on its own account. Examples of both stand at the end (`checks_answer_beyond_draws`).

The induction is on how deep compilations nest. At a node the types compiled below it are sound by
hypothesis, except that an intersection needs no hypothesis: merging records compiles intersections
that stand nowhere in the descriptor, and the filter behind them makes up for it.
-/

namespace Specimen

namespace Compiler

/-- A value that can come of a plan, at whatever bound on the nesting of compilations. -/
def Yields (c : Compiler) (plan : Plan Generator) (v : Value) : Prop :=
  ∃ depth g, plan.run (c.compileWithin depth) = .ok g ∧ g.Draws v

/-- What a compiler is trusted with at the nodes of a descriptor. -/
structure Trusts (c : Compiler) (t : Descriptor) : Prop where
  /-- A strategy for an extension yields only what the extension's guard accepts. -/
  extension : ∀ {id name payload guard strategy},
    .node id (.extension name payload guard) ∈ t.reached →
    Fields.get? c.strategies name = some strategy →
    ∀ v, c.Yields (strategy c.maxSize ⟨name, payload, guard⟩) v → guard.test v = true
  /-- A strategy for a marked constraint yields only what the constraint accepts. -/
  marked : ∀ {id underlying predicate correction arguments args strategy},
    .node id (.constraint underlying predicate correction arguments) ∈ t.reached →
    Descriptor.marking arguments = some args →
    Fields.get? c.customConstraints args.tag = some strategy →
    ∀ v, c.Yields (strategy c.maxSize ⟨underlying, predicate, correction, args⟩) v →
      underlying.guard v = true ∧ predicate.test v = true
  /-- The correction of an unmarked constraint makes an accepted value of every draw of what it
  refines, if that accepts the draw. -/
  correction : ∀ {id underlying predicate fix arguments},
    .node id (.constraint underlying predicate (some fix) arguments) ∈ t.reached →
    Descriptor.marking arguments = none →
    ∀ v, c.Yields (Plan.generatorOf underlying) v → underlying.guard v = true →
      underlying.guard (fix.apply v) = true ∧ predicate.test (fix.apply v) = true

/-- A descriptor that a compiler can be held to. -/
structure Answers (c : Compiler) (t : Descriptor) : Prop where
  tidy : t.isTidy = true
  free : t.isFreeOfNaN = true
  trusts : c.Trusts t

/-- What is asked of a descriptor is asked of its parts. -/
theorem Answers.of_subset {c : Compiler} {s t : Descriptor} (answers : c.Answers t)
    (parts : s.reached ⊆ t.reached) : c.Answers s where
  tidy := by
    have tidy := answers.tidy
    unfold Descriptor.isTidy at tidy ⊢
    rw [List.all_eq_true] at tidy ⊢
    exact fun u mem => tidy u (parts mem)
  free := by
    have free := answers.free
    unfold Descriptor.isFreeOfNaN at free ⊢
    rw [List.all_eq_true] at free ⊢
    exact fun u mem => free u (parts mem)
  trusts :=
    { extension := fun mem => answers.trusts.extension (parts mem)
      marked := fun mem => answers.trusts.marked (parts mem)
      correction := fun mem => answers.trusts.correction (parts mem) }

/-- A node that is neither an extension nor a constraint asks for nothing but its parts. -/
theorem Answers.of_parts {c : Compiler} {id : Nat} {shape : Shape} (tidy : shape.isTidy = true)
    (free : shape.isFreeOfNaN = true) (notExtension : shape.tag ≠ .extension)
    (notConstraint : shape.tag ≠ .constraint) (parts : ∀ part ∈ shape.parts, c.Answers part) :
    c.Answers (.node id shape) := by
  have below : ∀ s ∈ (Descriptor.node id shape).reached,
      s = .node id shape ∨ ∃ part, c.Answers part ∧ s ∈ part.reached := by
    intro s mem
    refine (List.mem_cons.mp mem).imp_right fun mem => ?_
    obtain ⟨part, among, mem⟩ := Shape.mem_reachedFrom.mp mem
    exact ⟨part, parts part among, mem⟩
  refine ⟨List.all_eq_true.mpr fun s mem => ?_, List.all_eq_true.mpr fun s mem => ?_,
    ⟨fun mem => ?_, fun mem => ?_, fun mem => ?_⟩⟩
  · rcases below s mem with rfl | ⟨part, answers, mem⟩
    · exact tidy
    · exact List.all_eq_true.mp answers.tidy s mem
  · rcases below s mem with rfl | ⟨part, answers, mem⟩
    · exact free
    · exact List.all_eq_true.mp answers.free s mem
  · rcases below _ mem with same | ⟨part, answers, mem⟩
    · cases same
      exact absurd rfl notExtension
    · exact answers.trusts.extension mem
  · rcases below _ mem with same | ⟨part, answers, mem⟩
    · cases same
      exact absurd rfl notConstraint
    · exact answers.trusts.marked mem
  · rcases below _ mem with same | ⟨part, answers, mem⟩
    · cases same
      exact absurd rfl notConstraint
    · exact answers.trusts.correction mem

theorem Answers.shape_isTidy {c : Compiler} {t : Descriptor} (answers : c.Answers t) :
    t.shape.isTidy = true :=
  List.all_eq_true.mp answers.tidy t t.self_mem_reached

theorem Answers.shape_isFreeOfNaN {c : Compiler} {t : Descriptor} (answers : c.Answers t) :
    t.shape.isFreeOfNaN = true :=
  List.all_eq_true.mp answers.free t t.self_mem_reached

end Compiler

/-! ## One step -/

/-- A type accepts whatever is drawn from what was compiled for it. -/
def Descriptor.AcceptsDraws (t : Descriptor) (compiled : Compiled) : Prop :=
  ∀ g v, compiled = .ok g → g.Draws v → t.guard v = true

namespace Compiler

section Step

variable {c : Compiler} {compile : Descriptor → Compiled} {id : Nat}

theorem accepts_array {element : Descriptor} (inner : element.AcceptsDraws (compile element)) :
    (Descriptor.node id (.array element)).AcceptsDraws
      ((c.step (.node id (.array element))).run compile) := by
  intro g v compiled drawn
  obtain ⟨source, hsource, rfl⟩ := run_step_array.mp compiled
  obtain ⟨items, rfl, _, each⟩ := Generator.Draws.of_array drawn
  exact List.all_eq_true.mpr fun item mem => inner source item hsource (each item mem)

/-- Names drawn twice are one member, whose value was drawn for one of them. -/
theorem accepts_dictionary {value : Descriptor} (inner : value.AcceptsDraws (compile value)) :
    (Descriptor.node id (.dictionary value)).AcceptsDraws
      ((c.step (.node id (.dictionary value))).run compile) := by
  intro g v compiled drawn
  obtain ⟨source, hsource, rfl⟩ := run_step_dictionary.mp compiled
  obtain ⟨pairs, rfl, _, each⟩ := Generator.Draws.of_dictionary drawn
  refine List.all_eq_true.mpr fun member mem => ?_
  exact inner source member.2 hsource (each member (Fields.mem_ofPairs mem))

theorem accepts_tuple {components : List Descriptor}
    (inner : ∀ t ∈ components, t.AcceptsDraws (compile t)) :
    (Descriptor.node id (.tuple components)).AcceptsDraws
      ((c.step (.node id (.tuple components))).run compile) := by
  intro g v compiled drawn
  obtain ⟨sources, hsources, rfl⟩ := run_step_tuple.mp compiled
  obtain ⟨items, rfl, hitems⟩ := Generator.Draws.of_tupleOf drawn
  refine Descriptor.guardEach_eq_true.mpr ?_
  refine (hsources.comp hitems).imp_of_mem_left fun t item mem => ?_
  rintro ⟨source, hsource, hitem⟩
  exact inner t mem source item hsource hitem

theorem accepts_union {alternatives : List Descriptor}
    (inner : ∀ t ∈ alternatives, t.AcceptsDraws (compile t)) :
    (Descriptor.node id (.union alternatives)).AcceptsDraws
      ((c.step (.node id (.union alternatives))).run compile) := by
  intro g v compiled drawn
  obtain ⟨first, others, hsources, rfl⟩ := run_step_union.mp compiled
  obtain ⟨source, mem, drawn⟩ := Generator.Draws.of_oneOf drawn
  obtain ⟨t, among, hsource⟩ := hsources.exists_of_mem_right mem
  exact Descriptor.guardAny_eq_true.mpr ⟨t, among, inner t among source v hsource drawn⟩

/-- Each member of a drawn record was drawn for the field of its name, and is found under it. -/
theorem accepts_record {fields : List (String × Descriptor)}
    (unique : (Fields.keys fields).Nodup)
    (inner : ∀ field ∈ fields, field.2.AcceptsDraws (compile field.2)) :
    (Descriptor.node id (.record fields)).AcceptsDraws
      ((c.step (.node id (.record fields))).run compile) := by
  intro g v compiled drawn
  obtain ⟨entries, hentries, rfl⟩ := run_step_record.mp compiled
  obtain ⟨members, rfl, hmembers⟩ := Generator.Draws.of_recordOf drawn
  have related := hentries.comp hmembers
  have names : Fields.keys fields = Fields.keys members := by
    refine related.map_eq fun field member => ?_
    rintro ⟨entry, ⟨same, _⟩, also, _⟩
    exact (also.trans same).symm
  rw [names] at unique
  rw [Fields.ofPairs_of_nodup unique]
  refine Descriptor.guardRequired_eq_true.mpr fun field mem => ?_
  obtain ⟨⟨name, w⟩, among, entry, ⟨same, hsource⟩, also, hw⟩ := related.exists_of_mem_left mem
  have found := Fields.get?_of_mem unique among
  rw [← same, ← also, found]
  exact inner field mem entry.2 w hsource hw

/-- What stands under a name in a drawn partial record was drawn for the field of that name, of which
there is one. -/
theorem accepts_partialRecord {fields : List (String × Descriptor)}
    (unique : (Fields.keys fields).Nodup)
    (inner : ∀ field ∈ fields, field.2.AcceptsDraws (compile field.2)) :
    (Descriptor.node id (.partialRecord fields)).AcceptsDraws
      ((c.step (.node id (.partialRecord fields))).run compile) := by
  intro g v compiled drawn
  obtain ⟨entries, hentries, rfl⟩ := run_step_partialRecord.mp compiled
  obtain ⟨_, full, rfl⟩ := Generator.Draws.of_mapped drawn
  obtain ⟨members, rfl, hmembers⟩ := Generator.Draws.of_recordOf full
  refine Descriptor.guardOptional_eq_true.mpr fun field mem w found => ?_
  have among := (List.mem_filter.mp (Fields.mem_of_get? found)).1
  obtain ⟨_, shown, same, hw⟩ := hmembers.exists_of_mem_right (Fields.mem_ofPairs among)
  obtain ⟨entry, hentry, rfl⟩ := List.mem_map.mp shown
  obtain ⟨other, declared, also, hsource⟩ := hentries.exists_of_mem_right hentry
  have one : other.2 = field.2 := by
    have here := Fields.get?_of_mem unique mem
    have there := Fields.get?_of_mem unique declared
    rw [← also, ← same, here] at there
    exact (Option.some.inj there).symm
  rcases Generator.Draws.of_optional hw with hw | absent
  · exact .inr (inner field mem entry.2 w (one ▸ hsource) hw)
  · exact .inl absent

/-- A correction is only relied on where the draw it repairs is accepted; a filter is relied on for
the predicate. -/
theorem accepts_unmarked {underlying : Descriptor} {predicate : Predicate}
    {correction : Option Correction} {arguments : Option (Args Descriptor)}
    (unmarked : Descriptor.marking arguments = none)
    (repairs : ∀ fix, correction = some fix → ∀ source v, compile underlying = .ok source →
      source.Draws v → underlying.guard v = true →
        underlying.guard (fix.apply v) = true ∧ predicate.test (fix.apply v) = true)
    (inner : underlying.AcceptsDraws (compile underlying)) :
    (Descriptor.node id (.constraint underlying predicate correction arguments)).AcceptsDraws
      ((c.step (.node id (.constraint underlying predicate correction arguments))).run compile) := by
  intro g v compiled drawn
  obtain ⟨source, hsource, rfl⟩ := (run_step_unmarked unmarked).mp compiled
  refine (Bool.and_eq_true _ _).mpr ?_
  cases correction with
  | some fix =>
    obtain ⟨w, hw, rfl⟩ := Generator.Draws.of_mapped drawn
    exact repairs fix rfl source w hsource hw (inner source w hsource hw)
  | none =>
    obtain ⟨hw, kept⟩ := Generator.Draws.of_filtered drawn
    exact ⟨inner source v hsource hw, kept⟩

end Step

/-! ## Whole compilations -/

/-- By induction on the bound on nesting: what is compiled at a node is compiled of sound generators
of the types below it. -/
theorem accepts_of_answers {c : Compiler} : ∀ (depth : Nat) (t : Descriptor), c.Answers t →
    t.AcceptsDraws (c.compileWithin depth t)
  | 0, _, _ => fun _ _ compiled _ => by cases compiled
  | depth + 1, .node id shape, answers => by
    -- trust in a type is trust in what is compiled below it, whose nodes are among its own
    have below : ∀ s : Descriptor, s.reached ⊆ Descriptor.reachedFrom shape →
        s.AcceptsDraws (c.compileWithin depth s) := fun s parts =>
      accepts_of_answers depth s (answers.of_subset fun _ mem => .tail _ (parts mem))
    have tidy := answers.shape_isTidy
    cases shape with
    | always => exact fun _ _ _ _ => rfl
    | array element => exact accepts_array (below element fun _ mem => mem)
    | boolean =>
      rintro _ v ⟨⟩ drawn
      obtain ⟨b, rfl⟩ := Generator.Draws.of_boolean drawn
      rfl
    | constraint underlying predicate correction arguments =>
      cases marked : Descriptor.marking arguments with
      | some args =>
        rintro g v compiled drawn
        obtain ⟨strategy, registered, ran⟩ := (run_step_marked marked).mp compiled
        exact (Bool.and_eq_true _ _).mpr
          (answers.trusts.marked (Descriptor.self_mem_reached _) marked registered v
            ⟨depth, g, ran, drawn⟩)
      | none =>
        refine accepts_unmarked marked ?_ (below underlying fun _ mem => ?_)
        · rintro fix rfl source v compiled drawn
          refine answers.trusts.correction (Descriptor.self_mem_reached _) marked v
            ⟨depth, source, ?_, drawn⟩
          rw [Plan.run_generatorOf, compiled]
        · rwa [Descriptor.reachedFrom, marked]
    | dictionary value => exact accepts_dictionary (below value fun _ mem => mem)
    | function =>
      rintro _ v ⟨⟩ drawn
      obtain ⟨f, rfl⟩ := Generator.Draws.of_callable drawn
      rfl
    | intersect intersectees =>
      -- the guard in front of an intersection accepts nothing else, whatever stands behind it
      exact fun g v compiled drawn => Intersection.guardAll_of_resolve compiled drawn
    | literal value =>
      rintro _ v ⟨⟩ drawn
      rw [Generator.Draws.of_constant drawn]
      exact Value.equal_self value tidy answers.shape_isFreeOfNaN
    | number =>
      rintro _ v ⟨⟩ drawn
      obtain ⟨x, rfl⟩ := Generator.Draws.of_number drawn
      rfl
    | partialRecord fields =>
      refine accepts_partialRecord (of_decide_eq_true tidy) fun field mem => ?_
      exact below field.2 fun _ part => Descriptor.mem_reachedFields.mpr ⟨field, mem, part⟩
    | record fields =>
      refine accepts_record (of_decide_eq_true tidy) fun field mem => ?_
      exact below field.2 fun _ part => Descriptor.mem_reachedFields.mpr ⟨field, mem, part⟩
    | string =>
      rintro _ v ⟨⟩ drawn
      obtain ⟨s, rfl⟩ := Generator.Draws.of_text drawn
      rfl
    | tuple components =>
      refine accepts_tuple fun t mem => ?_
      exact below t fun _ part => Descriptor.mem_reachedAll.mpr ⟨t, mem, part⟩
    | union alternatives =>
      refine accepts_union fun t mem => ?_
      exact below t fun _ part => Descriptor.mem_reachedAll.mpr ⟨t, mem, part⟩
    | void =>
      rintro _ v ⟨⟩ drawn
      rcases Generator.Draws.of_void drawn with rfl | rfl
      · rfl
      · rfl
    | extension name payload guard =>
      rintro g v compiled drawn
      obtain ⟨strategy, registered, ran⟩ := run_step_extension.mp compiled
      exact answers.trusts.extension (Descriptor.self_mem_reached _) registered v
        ⟨depth, g, ran, drawn⟩

/-- What a compiler can be held to accepts what it is compiled to. -/
theorem Answers.accepts {c : Compiler} {t : Descriptor} {g : Generator} {v : Value}
    (answers : c.Answers t) (compiles : c.Compiles t g) (drawn : g.Draws v) : t.guard v = true := by
  obtain ⟨depth, compiled⟩ := compiles
  exact accepts_of_answers depth t answers g v compiled drawn

end Compiler

/-! ## Checks -/

namespace Check

/-- Trials of a generator that only draws what is accepted end in no counterexample. -/
theorem trials_finds_nothing {accepts : Value → Bool} {seed : UInt64} {g : Generator}
    {source : Source} (sound : ∀ v, g.Draws v → accepts v = true) :
    ∀ {left trial : Nat} {run : Run} {e : GenError},
      (trials accepts seed g source left trial run).1 = .error e →
        ∃ reason, e = .retryBudgetExceeded reason
  | 0, _, _, _, ended => by cases ended
  | left + 1, trial, run, e, ended => by
    unfold trials at ended
    split at ended
    case h_1 e' after failed =>
      cases ended
      exact Generator.next_error failed
    case h_2 v after drawn =>
      rw [sound v (Generator.draws_of_next drawn), if_pos rfl] at ended
      exact trials_finds_nothing sound ended

/-- Whether a check answers with a counterexample. -/
def isCounterexample : Except Failure Report → Bool
  | .error (.error (.counterexampleFound _ _ _)) => true
  | _ => false

theorem isCounterexample_iff {answer : Except Failure Report} :
    isCounterexample answer = true ↔
      ∃ trial seed v, answer = .error (.error (.counterexampleFound trial seed v)) := by
  constructor
  · intro found
    unfold isCounterexample at found
    split at found
    case h_1 trial seed v => exact ⟨trial, seed, v, rfl⟩
    case h_2 => cases found
  · rintro ⟨_, _, _, rfl⟩
    rfl

end Check

namespace Compiler

/-- A configuration sets the size bound at most. -/
theorem configured_eq (c : Compiler) (config : RunConfig) :
    ∃ maxSize, c.configured config = c.withMaxSize maxSize := by
  unfold configured
  split
  case h_1 maxSize _ => exact ⟨maxSize, rfl⟩
  case h_2 => exact ⟨c.maxSize, rfl⟩

/-- If strategies for extensions and for marked constraints keep to what their nodes accept and
corrections repair, then every value drawn for a descriptor without a not-a-number in its literals
satisfies the descriptor's guard, at whatever bound on nesting. If they also do under the size bound
of a configuration, and no registered strategy that is called while the descriptor is compiled raises
that very error, then no check so configured finds a counterexample. -/
theorem sound_when_trusted (c : Compiler) (t : Descriptor) (tidy : t.isTidy = true)
    (free : t.isFreeOfNaN = true) :
    (c.Trusts t → ∀ depth g v, c.compileWithin depth t = .ok g → g.Draws v → t.guard v = true) ∧
    ∀ config, (c.configured config).Trusts t → ∀ trial s v,
      ¬ (c.configured config).Raises t (.counterexampleFound trial s v) → ∀ seed run,
        (c.checkFrom t config seed run).1 ≠ .error (.error (.counterexampleFound trial s v)) := by
  refine ⟨fun trusted depth => accepts_of_answers depth t ⟨tidy, free, trusted⟩, ?_⟩
  intro config trusted trial s v quiet seed run answered
  unfold checkFrom at answered
  split at answered
  case h_1 failure failed =>
    cases answered
    rcases failure_of_compileWithin failed with builtIn | raised
    · cases builtIn
    · exact quiet raised
  case h_2 g compiled =>
    have sound : ∀ v, g.Draws v → t.guard v = true := fun v =>
      accepts_of_answers _ t ⟨tidy, free, trusted⟩ g v compiled
    split at answered
    case h_1 e after ended =>
      cases answered
      obtain ⟨_, other⟩ := Check.trials_finds_nothing sound (congrArg Prod.fst ended)
      cases other
    case h_2 => cases answered

/-- A compiler with a strategy for extensions named `flag` and one for constraints marked `sure`. -/
def panel : Compiler :=
  (new.registerStrategy "flag" fun _ _ => pure .boolean).registerCustomConstraint "sure"
    fun _ _ => pure (.constant (.bool true))

/-- The predicate of the values equal to a truth value. -/
def isTruth (b : Bool) : Predicate := ⟨"is " ++ toString b, fun v => v.equal (.bool b)⟩

/-- A record with a literal, an extension, a constraint that is repaired and one that is marked. -/
def switch : Descriptor := .node 0 <| .record
  [("kind", .node 1 (.literal (.string "switch"))),
    ("on", .node 2 (.extension "flag" .null ⟨"flag", (Descriptor.node 0 .boolean).guard⟩)),
    ("lit", .node 3 (.constraint (.node 4 .boolean) (isTruth true)
      (some ⟨"set", fun _ => .bool true⟩) none)),
    ("set", .node 5 (.constraint (.node 6 .boolean) (isTruth true) none
      (some (Args.new "sure"))))]

theorem reached_switch :
    switch.reached =
      [switch, .node 1 (.literal (.string "switch")),
        .node 2 (.extension "flag" .null ⟨"flag", (Descriptor.node 0 .boolean).guard⟩),
        .node 3 (.constraint (.node 4 .boolean) (isTruth true) (some ⟨"set", fun _ => .bool true⟩)
          none),
        .node 4 .boolean,
        .node 5 (.constraint (.node 6 .boolean) (isTruth true) none (some (Args.new "sure")))] := rfl

/-- What the panel is trusted with holds at each node of the switch. -/
theorem panel_trusts_switch (maxSize : Nat) : (panel.withMaxSize maxSize).Trusts switch where
  extension := by
    rintro id name payload guard strategy mem registered v ⟨depth, g, ran, drawn⟩
    rw [reached_switch, switch] at mem
    simp only [List.mem_cons, List.not_mem_nil, Descriptor.node.injEq,
      Shape.extension.injEq, reduceCtorEq, and_false, false_or, or_false] at mem
    obtain ⟨rfl, rfl, rfl, rfl⟩ := mem
    cases registered
    cases ran
    obtain ⟨b, rfl⟩ := Generator.Draws.of_boolean drawn
    rfl
  marked := by
    rintro id underlying predicate correction arguments args strategy mem marked registered v
      ⟨depth, g, ran, drawn⟩
    rw [reached_switch, switch] at mem
    simp only [List.mem_cons, List.not_mem_nil, Descriptor.node.injEq,
      Shape.constraint.injEq, reduceCtorEq, and_false, false_or, or_false] at mem
    rcases mem with ⟨_, rfl, rfl, rfl, rfl⟩ | ⟨_, rfl, rfl, rfl, rfl⟩
    · cases marked
    · cases marked
      cases registered
      cases ran
      rw [Generator.Draws.of_constant drawn]
      exact ⟨rfl, rfl⟩
  correction := by
    rintro id underlying predicate fix arguments mem unmarked v yields accepted
    rw [reached_switch, switch] at mem
    simp only [List.mem_cons, List.not_mem_nil, Descriptor.node.injEq,
      Shape.constraint.injEq, Option.some.injEq, reduceCtorEq, and_false, false_and, false_or,
      or_false] at mem
    obtain ⟨_, rfl, rfl, rfl, rfl⟩ := mem
    exact ⟨rfl, rfl⟩

/-- The strategies of the panel always answer. -/
theorem answer_of_panel {maxSize : Nat} {plan : Plan Generator}
    (handles : (panel.withMaxSize maxSize).Handles plan) : ∃ g, plan = pure g := by
  cases handles with
  | extension node registered => cases List.mem_singleton.mp registered; exact ⟨_, rfl⟩
  | constraint node registered => cases List.mem_singleton.mp registered; exact ⟨_, rfl⟩
  | rule types registered => cases registered
  | intersection types registered => cases registered

/-- The panel compiles the switch, some switch is drawn, and all that are drawn are accepted; and as
no strategy of the panel fails, no check of the switch answers with a counterexample. -/
theorem panel_draws_switches :
    (∃ g v, panel.compile switch = .ok g ∧ g.Draws v ∧ switch.guard v = true) ∧
      ∀ config seed run trial s v,
        (panel.checkFrom switch config seed run).1 ≠
          .error (.error (.counterexampleFound trial s v)) := by
  obtain ⟨sound, unfailing⟩ := sound_when_trusted panel switch rfl rfl
  have compiled : panel.compile switch = .ok (.recordOf
      [("kind", .constant (.string "switch")), ("on", .boolean),
        ("lit", .mapped .boolean fun _ => .bool true), ("set", .constant (.bool true))]) := rfl
  have drawn : (Generator.recordOf
      [("kind", .constant (.string "switch")), ("on", .boolean),
        ("lit", .mapped .boolean fun _ => .bool true), ("set", .constant (.bool true))]).Draws
      (.object [("kind", .string "switch"), ("on", .bool true), ("lit", .bool true),
        ("set", .bool true)]) := ⟨⟨fun _ => 1, 0⟩, .start, _, rfl⟩
  refine ⟨⟨_, _, compiled, drawn, ?_⟩, fun config seed run trial s v => ?_⟩
  · exact sound (panel_trusts_switch panel.maxSize) _ _ _ compiled drawn
  · obtain ⟨maxSize, same⟩ := configured_eq panel config
    refine unfailing config (same ▸ panel_trusts_switch maxSize) trial s v ?_ seed run
    rintro ⟨_, _, plan, handed, ran⟩
    rw [same] at handed
    obtain ⟨g, rfl⟩ := answer_of_panel handed.handles
    cases ran

/-! ## Answers of checks alone -/

/-- A compiler with a rule that raises the error of a counterexample. -/
def alarmed : Compiler :=
  new.registerIntersectionRule "alarm" [.boolean, .literal] fun _ _ =>
    Plan.fail (.counterexampleFound 1 0 .null)

/-- What is both a boolean and true. -/
def truth : Descriptor :=
  .node 0 (.intersect [.node 1 .boolean, .node 2 (.literal (.bool true))])

/-- A page of eight lines, each with an array of booleans. -/
def page : Descriptor := .node 0 (.tuple (List.replicate 8 (.node 1 (.array (.node 2 .boolean)))))

/-- A page of empty lines. -/
def blank : Value := .array (List.replicate 8 (.array []))

/-- The type of blank pages. -/
def blankPage : Descriptor :=
  .node 0 (.extension "blank page" .null ⟨"blank", fun v => v.equal blank⟩)

/-- A compiler whose arrays are empty, with a strategy for blank pages that fills in pages and says
so if one is not blank. -/
def clerk : Compiler := (new.withMaxSize 0).registerStrategy "blank page" fun _ _ => do
  return .mapped (← Plan.generatorOf page) fun v => if v.equal blank then v else .string "written"

/-- An array of the clerk's has no items. -/
theorem eq_empty_of_clerk {depth : Nat} {element : Descriptor} {g : Generator} {v : Value} {id : Nat}
    (compiled : clerk.compileWithin depth (.node id (.array element)) = .ok g) (drawn : g.Draws v) :
    v = .array [] := by
  cases depth with
  | zero => cases compiled
  | succ depth =>
    obtain ⟨inner, _, rfl⟩ := run_step_array.mp compiled
    obtain ⟨items, rfl, few, _⟩ := Generator.Draws.of_array drawn
    rw [List.eq_nil_of_length_eq_zero (Nat.le_zero.mp few)]

/-- The pages of the clerk are blank. -/
theorem eq_blank_of_clerk {depth : Nat} {g : Generator} {v : Value}
    (compiled : clerk.compileWithin depth page = .ok g) (drawn : g.Draws v) : v = blank := by
  cases depth with
  | zero => cases compiled
  | succ depth =>
    obtain ⟨sources, hsources, rfl⟩ := run_step_tuple.mp compiled
    obtain ⟨lines, rfl, hlines⟩ := Generator.Draws.of_tupleOf drawn
    have related := hsources.comp hlines
    have count : lines.length = 8 := related.length_eq.symm.trans List.length_replicate
    refine congrArg Value.array (List.eq_replicate_iff.mpr ⟨count, fun line mem => ?_⟩)
    obtain ⟨t, listed, source, hsource, hline⟩ := related.exists_of_mem_right mem
    rw [List.eq_of_mem_replicate listed] at hsource
    exact eq_empty_of_clerk hsource hline

theorem clerk_trusts_blankPage : clerk.Trusts blankPage where
  extension := by
    rintro id name payload guard strategy mem registered v ⟨depth, g, ran, drawn⟩
    cases List.mem_singleton.mp mem
    cases registered
    obtain ⟨source, compiled, last⟩ := Plan.run_bind_eq_ok.mp ran
    rw [Plan.run_generatorOf] at compiled
    cases last
    obtain ⟨filled, hfilled, rfl⟩ := Generator.Draws.of_mapped drawn
    rw [eq_blank_of_clerk compiled hfilled]
    rfl
  marked := by
    rintro id underlying predicate correction arguments args strategy mem
    cases List.mem_singleton.mp mem
  correction := by
    rintro id underlying predicate fix arguments mem
    cases List.mem_singleton.mp mem

/-- What the alarmed compiler is trusted with is nothing, under any size bound. -/
theorem alarmed_trusts_truth (maxSize : Nat) : (alarmed.withMaxSize maxSize).Trusts truth where
  extension := fun _ registered => by cases registered
  marked := fun _ _ registered => by cases registered
  correction := by
    rintro id underlying predicate fix arguments mem
    rw [show truth.reached = [truth, .node 1 .boolean, .node 2 (.literal (.bool true))] from rfl,
      truth] at mem
    simp only [List.mem_cons, List.not_mem_nil, Descriptor.node.injEq, reduceCtorEq, and_false,
      or_false] at mem

/-- Trust in strategies for extensions and marked constraints, under the compiler's own size bound,
does not keep checks from answering with a counterexample: any rule for intersections may raise this
error, and a strategy may come to draw other values under the size bound of a check. -/
theorem checks_answer_beyond_draws :
    ((∀ maxSize, (alarmed.withMaxSize maxSize).Trusts truth) ∧
      truth.isTidy = true ∧ truth.isFreeOfNaN = true ∧
      ∀ config seed run, (alarmed.checkFrom truth config seed run).1 =
        .error (.error (.counterexampleFound 1 0 .null))) ∧
    clerk.Trusts blankPage ∧ blankPage.isTidy = true ∧ blankPage.isFreeOfNaN = true ∧
      (∃ g, clerk.compile blankPage = .ok g) ∧
      ∃ trial seed v,
        (clerk.checkFrom blankPage { RunConfig.seeded 1 with maxSize := some 9 } 1 .start).1 =
          .error (.error (.counterexampleFound trial seed v)) := by
  refine ⟨⟨alarmed_trusts_truth, rfl, rfl, fun config seed run => ?_⟩, clerk_trusts_blankPage, rfl,
    rfl, ⟨_, rfl⟩, Check.isCounterexample_iff.mp (by decide +kernel)⟩
  obtain ⟨maxSize, same⟩ := configured_eq alarmed config
  have raised : (alarmed.withMaxSize maxSize).compile truth =
      .error (.error (.counterexampleFound 1 0 .null)) := rfl
  rw [checkFrom, same, raised]

end Compiler

end Specimen
