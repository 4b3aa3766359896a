import Specimen.Compiler.Contains
import Specimen.Proofs.Compiler.Compilable
import Specimen.Proofs.Compiler.Failures

/-!
# Which nodes compilation fails at

With nothing registered for intersections, a descriptor that does not compile has a node that says
why: an empty union, or an extension or a marked constraint whose strategy is missing or fails; and
the failure is that node's (`compilation_decided_at_nodes`). Intersections are never to blame. They
are compiled by taking their records apart and intersecting the types of fields anew, and these new
nodes have only nodes of the descriptor below them.

The induction is on weight, as it is for `compilable_iff`, and goes through one law of steps
(`step_failsOnly_of_nodes`), which serves twice: failures are blamed by it, and by it the bound on
nesting is seen to suffice.
-/

namespace Specimen

/-- Everything reached from a type is among some nodes, save intersections, which merging makes. -/
def Descriptor.IsMadeOf (t : Descriptor) (nodes : List Descriptor) : Prop :=
  ∀ s ∈ t.reached, s.tag = .intersect ∨ s ∈ nodes

namespace Intersection

theorem fieldType_isMadeOf {types : List Descriptor} {entry : String × FieldDecls}
    (merged : entry ∈ fieldDecls types) :
    (fieldType entry.2.types).IsMadeOf (Descriptor.reachedAll types) := by
  have declared : ∀ t ∈ entry.2.types, t.reached ⊆ Descriptor.reachedAll types :=
    fun t within => reached_subset_of_declared merged within
  unfold fieldType
  intro s reached
  split at reached
  case h_1 only single => exact .inr (declared only (single ▸ List.mem_cons_self) reached)
  case h_2 =>
    rcases List.mem_cons.mp reached with rfl | below
    · exact .inl rfl
    · obtain ⟨t, within, reached⟩ := Descriptor.mem_reachedAll.mp below
      exact .inr (declared t within reached)

end Intersection

namespace Compiler

variable {c : Compiler} {P : Failure → Prop} {compile : Descriptor → Compiled}
  {nodes : List Descriptor}

/-- What is supported at a node is what does not fail there. -/
theorem supports_iff {t : Descriptor} :
    c.Supports t ↔ ∀ failure, ¬ c.FailsAt c.eventually t failure := by
  obtain ⟨id, shape⟩ := t
  cases shape with
  | union alternatives =>
    constructor
    · rintro filled _ ⟨⟩
      exact filled rfl
    · rintro sound rfl
      exact sound _ .emptyUnion
  | extension name payload guard =>
    simp only [Supports, Descriptor.shape, makes_iff]
    constructor
    · rintro ⟨strategy, registered, g, ran⟩ _ failed
      cases failed with
      | noExtension unregistered => cases registered.symm.trans unregistered
      | extension registered' failed =>
        cases registered.symm.trans registered'
        cases ran.symm.trans failed
    · intro sound
      -- that nothing fails here rules out both a missing strategy and one that breaks off
      cases registered : Fields.get? c.strategies name with
      | none => exact absurd (.noExtension registered) (sound _)
      | some strategy =>
        cases ran : (strategy c.maxSize ⟨name, payload, guard⟩).run c.eventually with
        | ok g => exact ⟨strategy, rfl, g, ran⟩
        | error failure => exact absurd (.extension registered ran) (sound failure)
  | constraint underlying predicate correction arguments =>
    simp only [Supports, Descriptor.shape, makes_iff]
    constructor
    · intro supported _ failed
      cases failed with
      | noConstraint marked unregistered =>
        obtain ⟨strategy, registered, _⟩ := supported _ marked
        cases registered.symm.trans unregistered
      | constraint marked registered' failed =>
        obtain ⟨strategy, registered, g, ran⟩ := supported _ marked
        cases registered.symm.trans registered'
        cases ran.symm.trans failed
    · intro sound args marked
      cases registered : Fields.get? c.customConstraints args.tag with
      | none => exact absurd (.noConstraint marked registered) (sound _)
      | some strategy =>
        cases ran : (strategy c.maxSize ⟨underlying, predicate, correction, args⟩).run
            c.eventually with
        | ok g => exact ⟨strategy, rfl, g, ran⟩
        | error failure => exact absurd (.constraint marked registered ran) (sound failure)
  | _ =>
    constructor
    · rintro _ _ ⟨⟩
    · exact fun _ => trivial

/-! ## One step -/

section Step

variable (noRules : c.customRules = []) (noTagged : c.customIntersections = [])
  (here : ∀ s ∈ nodes, ∀ failure, c.FailsAt compile s failure → P failure)

include noRules noTagged here

/-- Whichever built-in rule several intersectees fall to, it compiles no more than they weigh, and
only what is made of their nodes. -/
private theorem candidate_failsOnly_of_nodes {types : List Descriptor} (two : 2 ≤ types.length)
    (made : ∀ s ∈ Descriptor.reachedAll types, s.tag = .intersect ∨ s ∈ nodes)
    (below : ∀ s : Descriptor, s.weight ≤ Descriptor.weightAll types → s.IsMadeOf nodes →
      (Plan.generatorOf s).FailsOnly P compile) :
    (Intersection.candidate c types).FailsOnly P compile := by
  have among : ∀ t ∈ types, t.reached ⊆ Descriptor.reachedAll types :=
    fun t mem s reached => Descriptor.mem_reachedAll.mpr ⟨t, mem, reached⟩
  have each : ∀ t ∈ types, (Plan.generatorOf t).FailsOnly P compile := fun t mem =>
    below t (Descriptor.weight_le_weightAll mem) fun s reached => made s (among t mem reached)
  refine Intersection.candidate_failsOnly ?_ (by simp [noRules]) (by simp [noTagged]) each ?_ ?_
  · rintro ⟨id, shape⟩ mem rfl
    rcases made _ (among _ mem (Descriptor.self_mem_reached _)) with other | mem
    · cases other
    · exact here _ mem _ .emptyUnion
  · intro records entry merged
    refine below _ (Nat.le_of_lt (Intersection.weight_fieldType_lt records two merged)) ?_
    intro s reached
    exact (Intersection.fieldType_isMadeOf merged s reached).elim .inl (made s)
  · intro t mem a alternative
    have part := Intersection.alternativesOf_subset_parts t alternative
    have lighter : a.weight < t.weight := by
      cases t
      exact Descriptor.weight_lt_of_mem_parts part
    have known := Descriptor.weight_le_weightAll mem
    refine below a (by omega) fun s reached => made s (among t mem ?_)
    exact t.reachedFrom_subset (Shape.reached_subset_of_mem_parts part reached)

/-- With nothing registered for intersections, a step of a type made of nodes fails at one of them, or
because a lighter type does that is made of them. -/
theorem step_failsOnly_of_nodes {t : Descriptor} (made : t.IsMadeOf nodes)
    (below : ∀ s : Descriptor, s.weight < t.weight → s.IsMadeOf nodes →
      (Plan.generatorOf s).FailsOnly P compile) :
    (c.step t).FailsOnly P compile := by
  obtain ⟨id, shape⟩ := t
  by_cases plain : shape.tag = .intersect
  · obtain ⟨intersectees, rfl⟩ := Shape.tag_eq_intersect.mp plain
    have light := Descriptor.weightAll_flatten_lt id intersectees
    have inside : ∀ s ∈ Descriptor.reachedAll (Intersection.flatten intersectees),
        s.tag = .intersect ∨ s ∈ nodes := fun s reached =>
      made s (.tail _ (Descriptor.reachedAll_flatten_subset intersectees reached))
    refine Intersection.resolve_failsOnly (fun t mem => ?_) fun two => ?_
    · refine below t (Nat.lt_of_le_of_lt (Descriptor.weight_le_weightAll mem) light) ?_
      exact fun s reached => inside s (Descriptor.mem_reachedAll.mpr ⟨t, mem, reached⟩)
    · exact candidate_failsOnly_of_nodes noRules noTagged here two inside
        fun s le => below s (Nat.lt_of_le_of_lt le light)
  · refine step_failsOnly_of_plain plain ?_ fun part mem => ?_
    · intro failure failed
      rcases made _ (Descriptor.self_mem_reached _) with other | mem
      · exact absurd other plain
      · exact here _ mem failure failed
    · refine below part (Descriptor.weight_lt_of_mem_parts mem) fun s reached => made s ?_
      exact .tail _ (Shape.reached_subset_of_mem_parts mem reached)

end Step

/-! ## Whole compilations -/

/-- A type that does not compile has a node to blame. -/
theorem exists_failsAt (noRules : c.customRules = []) (noTagged : c.customIntersections = []) :
    ∀ t : Descriptor, t.IsMadeOf nodes → ∀ failure, c.eventually t = .error failure →
      ∃ s ∈ nodes, c.FailsAt c.eventually s failure
  | t, made => by
    rw [eventually_eq]
    refine step_failsOnly_of_nodes noRules noTagged ?_ made ?_
    · exact fun s mem failure failed => ⟨s, mem, failed⟩
    · exact fun s _ made => .generatorOf (exists_failsAt noRules noTagged s made)
termination_by t => t.weight

/-- What is abandoned within a bound was abandoned within any lower one. -/
theorem FailsAt.abandoned_of_le {room depth : Nat} (le : room ≤ depth) {t : Descriptor}
    (failed : c.FailsAt (c.compileWithin depth) t .abandoned) :
    c.FailsAt (c.compileWithin room) t .abandoned := by
  have lower : ∀ plan : Plan Generator, plan.run (c.compileWithin depth) = .error .abandoned →
      plan.run (c.compileWithin room) = .error .abandoned := by
    intro plan ran
    by_contra settled
    exact settled ((Plan.run_extends (c.extends_of_le le) plan settled).symm.trans ran)
  cases failed with
  | extension registered failed => exact .extension registered (lower _ failed)
  | constraint marked registered failed => exact .constraint marked registered (lower _ failed)

/-- Where strategies get by with so much room at the nodes of a type, the weight of the type and that
room are bound enough for compiling it. -/
theorem settles_of_nodes (noRules : c.customRules = []) (noTagged : c.customIntersections = [])
    {room : Nat} (settled : ∀ s ∈ nodes, ¬ c.FailsAt (c.compileWithin room) s .abandoned) :
    ∀ t : Descriptor, t.IsMadeOf nodes → ∀ depth, t.weight + room ≤ depth →
      c.compileWithin depth t ≠ .error .abandoned
  | .node id shape, _, 0, enough => by
    rw [Descriptor.weight] at enough
    omega
  | t, made, depth + 1, enough => by
    have weight : 0 < t.weight := by
      cases t
      exact Nat.succ_pos _
    have answered : (c.step t).FailsOnly (· ≠ .abandoned) (c.compileWithin depth) := by
      refine step_failsOnly_of_nodes noRules noTagged ?_ made ?_
      · rintro s mem _ failed rfl
        exact settled s mem (failed.abandoned_of_le (by omega))
      · intro s lighter made
        refine .generatorOf ?_
        rintro _ failed rfl
        exact settles_of_nodes noRules noTagged settled s made depth (by omega) failed
    exact fun failed => answered _ failed rfl
termination_by t => t.weight

/-- With nothing registered for intersections, a descriptor compiles exactly if none of its nodes
fails, and a failure is that of such a node. So an intersection compiles exactly if each intersectee
does by itself, and a kind of type is called unsupported only if it is the name of an extension that
is not registered, unless the strategy says so that a node of the descriptor is handed to.

All this is said of what compilation comes to within any bound on nesting that suffices. `compile`
comes to the same, unless it is abandoned at its bound; and it is not, as long as the strategies that
are called at the nodes of the descriptor get by with the room that is left for them. -/
theorem compilation_decided_at_nodes (c : Compiler) (noRules : c.customRules = [])
    (noTagged : c.customIntersections = []) (t : Descriptor)
    (own : Intersection.HaveOwnIds t.reached) :
    (∀ failure, c.eventually t = .error failure →
      ∃ s ∈ t.reached, c.FailsAt c.eventually s failure) ∧
    ((∃ g, c.eventually t = .ok g) ↔
      ∀ s ∈ t.reached, ∀ failure, ¬ c.FailsAt c.eventually s failure) ∧
    (∀ id intersectees, t = .node id (.intersect intersectees) →
      ((∃ g, c.eventually t = .ok g) ↔ ∀ s ∈ intersectees, ∃ g, c.eventually s = .ok g)) ∧
    (∀ name, c.eventually t = .error (.error (.unsupportedType name)) →
      (∃ id payload guard, .node id (.extension name payload guard) ∈ t.reached ∧
        Fields.get? c.strategies name = none) ∨
          ∃ s ∈ t.reached, c.RaisesAt s (.unsupportedType name)) ∧
    (c.compile t = c.eventually t ∨ c.compile t = .error .abandoned) ∧
    ((∀ s ∈ t.reached, ¬ c.FailsAt (c.compileWithin nestingRoom) s .abandoned) →
      c.compile t = c.eventually t) := by
  have made : t.IsMadeOf t.reached := fun s reached => .inr reached
  have blame := exists_failsAt noRules noTagged t made
  have decided := compilable_iff noRules noTagged own
  simp only [IsDecidedByNodes, compilable_iff_eventually] at decided
  -- abandoning is the only way in which a bound shows
  have agree : c.compile t ≠ .error .abandoned → c.compile t = c.eventually t :=
    fun settled => (c.extends_eventually _ t settled).symm
  refine ⟨blame, ?_, ?_, ?_, ?_, fun settled => agree ?_⟩
  · rw [decided t t.reachedFrom_subset]
    exact forall₂_congr fun s _ => supports_iff
  · rintro id intersectees rfl
    rw [decided _ (Descriptor.reachedFrom_subset _), supportsAll_reached]
    refine (and_iff_right trivial).trans (forall₂_congr fun s mem => ?_)
    refine (decided s fun u reached => ?_).symm
    exact .tail _ (Shape.reached_subset_of_mem_parts mem (s.reachedFrom_subset reached))
  · intro name failed
    obtain ⟨s, mem, failed⟩ := blame _ failed
    -- this error is raised where an extension has no strategy, and else only by a strategy itself
    cases failed with
    | noExtension unregistered => exact .inl ⟨_, _, _, mem, unregistered⟩
    | extension registered failed => exact .inr ⟨_, mem, _, .extension registered, failed⟩
    | constraint marked registered failed =>
      exact .inr ⟨_, mem, _, .constraint marked registered, failed⟩
  · exact or_iff_not_imp_right.mpr agree
  · exact settles_of_nodes noRules noTagged settled t made _ (Nat.le_refl _)

/-- A compiler that knows constraints on how many items of a type an array holds. -/
def counting : Compiler := Contains.register .new

/-- A record and a partial record that declare the same fields, one of them counted. -/
def countedForm (args : Args Descriptor) : Descriptor := .node 0 <| .intersect
  [.node 1 (.record [("size", .node 2 .number),
      ("marks", .node 3 (.constraint (.node 4 (.array (.node 5 .boolean)))
        ⟨"counted", fun _ => true⟩ none (some args)))]),
    .node 6 (.partialRecord [("size", .node 7 .number),
      ("marks", .node 8 (.array (.node 9 .boolean)))])]

/-- What is to be counted. -/
def ticks : Args Descriptor := (Args.new Contains.tag).withType "item" (.node 10 .boolean)

/-- The form compiles, and none of its nodes fails, where it is said what to count. Where it is not,
the error is that of the counted node, although this is compiled as part of a node of its own. -/
theorem counted_form_decided :
    ((∃ g, counting.compile (countedForm ticks) = .ok g) ∧
      ∀ s ∈ (countedForm ticks).reached, ∀ failure,
        ¬ counting.FailsAt counting.eventually s failure) ∧
    counting.compile (countedForm (.new Contains.tag)) =
      .error (.error (.invalidArgs Contains.tag "no `item` type")) ∧
    ∃ s ∈ (countedForm (.new Contains.tag)).reached,
      counting.FailsAt counting.eventually s
        (.error (.invalidArgs Contains.tag "no `item` type")) := by
  constructor
  · obtain ⟨_, sound, _, _, same | cut, _⟩ := compilation_decided_at_nodes counting rfl rfl
      (countedForm ticks) (Intersection.haveOwnIds_of_nodup (by decide))
    · have compiles : ∃ g, counting.compile (countedForm ticks) = .ok g := ⟨_, rfl⟩
      exact ⟨compiles, sound.mp (same ▸ compiles)⟩
    · cases cut
  · obtain ⟨blame, _, _, _, same | cut, _⟩ := compilation_decided_at_nodes counting rfl rfl
      (countedForm (.new Contains.tag)) (Intersection.haveOwnIds_of_nodup (by decide))
    · have failed : counting.compile (countedForm (.new Contains.tag)) =
          .error (.error (.invalidArgs Contains.tag "no `item` type")) := rfl
      exact ⟨failed, blame _ (same.symm.trans failed)⟩
    · cases cut

end Compiler

end Specimen
