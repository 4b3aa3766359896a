import Mathlib.Data.List.Rotate
import Specimen.Proofs.Intersection.Fallback
import Specimen.Proofs.Intersection.Outcome

/-!
# What intersected unions draw

An attempt at an intersection of unions draws a candidate from each pooled alternative and then a
start, and takes the first candidate in cyclic order from there that all unions accept
(`firstKept_eq_some`); it is rejected exactly if they accept none (`firstKept_eq_none`). As every
candidate is the first one from some start, no value that is accepted is out of reach: the outcomes
are those of the alternatives that all unions accept (`outcome_pooled`).

Two things have to be given for that. Each alternative must be able to draw something, since an
attempt waits for all of them. And no tape may be shared between two alternatives: a candidate then
moves the tape on which another depends, and alternatives of which each can be drawn by itself may
never be drawn together.

Neither says how often an alternative is listed or which nodes are shared. So the outcomes stay the
same where unions list the same shapes otherwise, under whatever identities.
-/

namespace Specimen

/-! ## The first value kept -/

section FirstKept

variable {keep : Value → Bool} {drawn : List Value} {start : Nat} {v : Value}

/-- Searching round from a start is searching the rotated list. -/
theorem firstKept_eq_find?_rotate (keep : Value → Bool) (drawn : List Value) (start : Nat) :
    firstKept keep drawn start = (drawn.rotate start).find? keep := by
  rw [List.rotate_eq_drop_append_take_mod]
  rfl

/-- Nothing is found exactly if nothing is kept, wherever the search starts. -/
theorem firstKept_eq_none : firstKept keep drawn start = none ↔ ∀ v ∈ drawn, keep v = false := by
  rw [firstKept_eq_find?_rotate, List.find?_eq_none]
  simp only [List.mem_rotate, Bool.not_eq_true]

/-- What is found is kept, and nothing between the start and it is, going round. -/
theorem firstKept_eq_some : firstKept keep drawn start = some v ↔
    keep v = true ∧ ∃ i < drawn.length, drawn[(i + start) % drawn.length]? = some v ∧
      ∀ j < i, ∀ w, drawn[(j + start) % drawn.length]? = some w → keep w = false := by
  rw [firstKept_eq_find?_rotate, List.find?_eq_some_iff_getElem]
  refine and_congr_right fun _ => ?_
  constructor
  · rintro ⟨i, lt, here, before⟩
    rw [List.length_rotate] at lt
    refine ⟨i, lt, ?_, fun j less w there => ?_⟩
    · rw [← List.getElem?_rotate lt, List.getElem?_eq_some_iff]
      exact ⟨_, here⟩
    · rw [← List.getElem?_rotate (Nat.lt_trans less lt)] at there
      obtain ⟨_, rfl⟩ := List.getElem?_eq_some_iff.mp there
      exact Bool.not_eq_true' _ ▸ before j less
  · rintro ⟨i, lt, here, before⟩
    rw [← List.getElem?_rotate lt] at here
    obtain ⟨lt', same⟩ := List.getElem?_eq_some_iff.mp here
    refine ⟨i, lt', same, fun j less => ?_⟩
    rw [Bool.not_eq_true']
    refine before j less _ ?_
    rw [← List.getElem?_rotate (Nat.lt_trans less lt), List.getElem?_eq_some_iff]
    exact ⟨_, rfl⟩

end FirstKept

namespace Intersection

variable {c : Compiler} {types types' : List Descriptor} {v : Value}

/-! ## Pools -/

private theorem foldl_addToPool_pairwise {alternatives : List Descriptor} :
    ∀ {start : List Descriptor}, (start.Pairwise fun a b => Descriptor.same a b = false) →
      (alternatives.foldl addToPool start).Pairwise fun a b => Descriptor.same a b = false := by
  induction alternatives with
  | nil => exact fun apart => apart
  | cons head rest ih =>
    intro start apart
    refine ih ?_
    unfold addToPool
    split
    case isTrue => exact apart
    case isFalse new =>
      refine List.pairwise_append.mpr ⟨apart, List.pairwise_singleton _ _, fun seen mem t last => ?_⟩
      obtain rfl := List.mem_singleton.mp last
      have unknown := List.any_eq_false.mp (Bool.eq_false_iff.mpr new) seen mem
      exact Bool.eq_false_iff.mpr unknown

/-- No node is in a pool twice. -/
theorem pool_pairwise (types : List Descriptor) :
    (pool types).Pairwise fun a b => Descriptor.same a b = false :=
  foldl_addToPool_pairwise .nil

/-- No tape stands in what two pooled alternatives compile to. -/
def AlternativesApart (c : Compiler) (types : List Descriptor) : Prop :=
  (pool types).Pairwise fun one other => ∀ g h, c.Compiles one g → c.Compiles other h →
    g.tapes.Disjoint h.tapes

/-- Alternatives that are apart as types are apart as generators. -/
theorem apart_of_alternativesApart {candidates : List Generator} (apart : AlternativesApart c types)
    (each : List.Forall₂ c.Compiles (pool types) candidates) : Generator.Apart candidates :=
  each.pairwise (fun _ g _ h compiles compiles' disjoint => disjoint g h compiles compiles') apart

/-! ## Attempts -/

/-- An attempt: a candidate from each, a start, and the first candidate kept from there. -/
def attempt (candidates : List Generator) (keep : Value → Bool) : Draw (Option Value) := do
  let drawn ← Generator.drawAll candidates
  let start ← Draw.below drawn.length
  return firstKept keep drawn start

/-- Only a union has alternatives. -/
theorem union_of_alternatives {t : Descriptor} (some : alternativesOf t ≠ []) : t.tag = .union := by
  obtain ⟨id, shape⟩ := t
  cases shape with
  | union alternatives => rfl
  | _ => exact absurd rfl some

section Unions

variable {intersectees : List Descriptor} {id : Nat} {g : Generator}
  (two : 2 ≤ (flatten intersectees).length)
  (unions : ∀ t ∈ flatten intersectees, alternativesOf t ≠ [])

include two unions

/-- What an intersection of unions compiles to: a search among the pooled alternatives, guarded by
all the unions. -/
theorem compiles_unions : c.Compiles (.node id (.intersect intersectees)) g ↔
    ∃ candidates, List.Forall₂ c.Compiles (pool (flatten intersectees)) candidates ∧
      g = guarded (.rotated candidates "no flattened alternative satisfied every union"
        (Descriptor.guardAll (flatten intersectees))) "intersection guard"
          (flatten intersectees) := by
  have nonempty : flatten intersectees ≠ [] :=
    List.ne_nil_of_length_pos (Nat.lt_of_lt_of_le Nat.zero_lt_two two)
  have compiles : c.Compiles = fun t g => c.eventually t = .ok g := by
    funext t g
    exact propext Compiler.compiles_iff
  rw [compiles_intersect two,
    candidate_of_unions nonempty fun t mem => union_of_alternatives (unions t mem)]
  simp only [Compiler.makes_iff, run_flattenUnions, compiles]
  constructor
  · rintro ⟨_, ⟨_, candidates, each, rfl⟩, rfl⟩
    exact ⟨candidates, each, rfl⟩
  · rintro ⟨candidates, each, rfl⟩
    exact ⟨_, ⟨unions, candidates, each, rfl⟩, rfl⟩

/-- The guard behind the attempts has nothing to reject. -/
theorem alike_attempts (compiles : c.Compiles (.node id (.intersect intersectees)) g) :
    ∃ candidates, List.Forall₂ c.Compiles (pool (flatten intersectees)) candidates ∧
      g.draw.Alike (Draw.untilKept (some "no flattened alternative satisfied every union")
        (attempt candidates (Descriptor.guardAll (flatten intersectees)))) := by
  obtain ⟨candidates, each, rfl⟩ := (compiles_unions two unions).mp compiles
  refine ⟨candidates, each, alike_guarded fun v drawn => ?_⟩
  obtain ⟨_, _, _, accepted⟩ := drawn.of_rotated
  exact accepted

/-- Outcomes are those of the alternatives that all unions accept. -/
theorem outcome_pooled (own : HaveOwnIds ((flatten intersectees).flatMap alternativesOf))
    (draw : AlternativesDraw c (flatten intersectees))
    (apart : AlternativesApart c (flatten intersectees)) :
    c.Outcome (.node id (.intersect intersectees)) v ↔
      (∃ t ∈ flatten intersectees, ∃ alternative ∈ alternativesOf t, c.Outcome alternative v) ∧
        Descriptor.guardAll (flatten intersectees) v = true := by
  have drawn : ∀ alternative ∈ pool (flatten intersectees), ∃ source,
      c.Compiles alternative source ∧ ∃ w, source.Draws w := by
    intro alternative pooled
    obtain ⟨t, mem, among⟩ := List.mem_flatMap.mp (mem_of_mem_pool pooled)
    obtain ⟨source, w, compiles, hw⟩ := draw t mem alternative among
    exact ⟨source, compiles, w, hw⟩
  obtain ⟨candidates, each⟩ : ∃ candidates,
      List.Forall₂ c.Compiles (pool (flatten intersectees)) candidates :=
    List.Forall₂.exists_iff.mpr fun alternative pooled =>
      (drawn alternative pooled).imp fun _ both => both.1
  have compiles : c.Compiles (.node id (.intersect intersectees)) _ :=
    (compiles_unions two unions).mpr ⟨candidates, each, rfl⟩
  -- the search draws from every candidate before it looks, so each of them must be able to
  have all : ∀ candidate ∈ candidates, ∃ w, candidate.Draws w := by
    intro candidate mem
    obtain ⟨alternative, pooled, compiles⟩ := each.exists_of_mem_right mem
    obtain ⟨source, compiles', w, hw⟩ := drawn alternative pooled
    exact ⟨w, compiles'.unique compiles ▸ hw⟩
  -- pooled alternatives and listed ones are the same, each with its one generator
  have some : (∃ candidate ∈ candidates, candidate.Draws v) ↔
      ∃ t ∈ flatten intersectees, ∃ alternative ∈ alternativesOf t, c.Outcome alternative v := by
    constructor
    · rintro ⟨candidate, mem, hv⟩
      obtain ⟨alternative, pooled, compiles⟩ := each.exists_of_mem_right mem
      obtain ⟨t, listed, among⟩ := List.mem_flatMap.mp (mem_of_mem_pool pooled)
      exact ⟨t, listed, alternative, among, candidate, compiles, hv⟩
    · rintro ⟨t, listed, alternative, among, source, compiles, hv⟩
      have pooled := (mem_pool own).mpr (List.mem_flatMap.mpr ⟨t, listed, among⟩)
      obtain ⟨candidate, mem, compiles'⟩ := each.exists_of_mem_left pooled
      exact ⟨candidate, mem, compiles.unique compiles' ▸ hv⟩
  rw [← compiles.draws_iff, guarded, Generator.draws_filtered,
    Generator.draws_rotated (apart_of_alternativesApart apart each), some]
  constructor
  · rintro ⟨⟨_, hv, accepted⟩, _⟩
    exact ⟨hv, accepted⟩
  · rintro ⟨hv, accepted⟩
    exact ⟨⟨all, hv, accepted⟩, accepted⟩

end Unions

/-! ## Other listings -/

/-- Unions that list alternatives of the same shapes, in whatever order, however often, and as
whatever nodes. -/
def Relisted (t t' : Descriptor) : Prop :=
  ∀ shape, (∃ a ∈ alternativesOf t, a.shape = shape) ↔ ∃ a ∈ alternativesOf t', a.shape = shape

/-- A union accepts what one of its alternatives does. -/
theorem guard_of_union {t : Descriptor} (some : alternativesOf t ≠ []) :
    t.guard v = true ↔ ∃ a ∈ alternativesOf t, a.guard v = true := by
  obtain ⟨id, shape⟩ := t
  cases shape with
  | union alternatives => exact Descriptor.guardAny_eq_true
  | _ => exact absurd rfl some

/-- Which node it is does not matter to what a type accepts. -/
theorem guard_of_shape {a b : Descriptor} (same : a.shape = b.shape) : a.guard v = b.guard v := by
  obtain ⟨id, shape⟩ := a
  obtain ⟨other, _⟩ := b
  cases same
  rfl

/-- Nor to its outcomes. -/
theorem outcome_of_shape {a b : Descriptor} (same : a.shape = b.shape) :
    c.Outcome a v ↔ c.Outcome b v := by
  obtain ⟨id, shape⟩ := a
  obtain ⟨other, _⟩ := b
  cases same
  exact Compiler.outcome_node id other shape

theorem Relisted.symm {t t' : Descriptor} (relisted : Relisted t t') : Relisted t' t :=
  fun shape => (relisted shape).symm

theorem Relisted.exists_alternative {t t' a : Descriptor} (relisted : Relisted t t')
    (mem : a ∈ alternativesOf t) : ∃ a' ∈ alternativesOf t', a'.shape = a.shape :=
  (relisted a.shape).mp ⟨a, mem, rfl⟩

/-- Listed otherwise, an alternative draws what it did. -/
theorem exists_outcome_of_relisted (each : List.Forall₂ Relisted types types')
    (drawn : ∃ t ∈ types, ∃ a ∈ alternativesOf t, c.Outcome a v) :
    ∃ t ∈ types', ∃ a ∈ alternativesOf t, c.Outcome a v := by
  obtain ⟨t, mem, a, among, outcome⟩ := drawn
  obtain ⟨t', mem', relisted⟩ := each.exists_of_mem_left mem
  obtain ⟨a', among', same⟩ := relisted.exists_alternative among
  exact ⟨t', mem', a', among', (outcome_of_shape same).mpr outcome⟩

/-- Listed otherwise, unions accept what they did. -/
theorem guardAll_of_relisted (each : List.Forall₂ Relisted types types')
    (unions : ∀ t ∈ types, alternativesOf t ≠ []) (unions' : ∀ t ∈ types', alternativesOf t ≠ [])
    (accepted : Descriptor.guardAll types v = true) : Descriptor.guardAll types' v = true := by
  refine Descriptor.guardAll_eq_true.mpr fun t' mem' => ?_
  obtain ⟨t, mem, relisted⟩ := each.exists_of_mem_right mem'
  obtain ⟨a, among, belongs⟩ :=
    (guard_of_union (unions t mem)).mp (Descriptor.guardAll_eq_true.mp accepted t mem)
  obtain ⟨a', among', same⟩ := relisted.exists_alternative among
  exact (guard_of_union (unions' t' mem')).mpr ⟨a', among', guard_of_shape same ▸ belongs⟩

/-- Whether all alternatives can be drawn is a matter of their shapes. -/
theorem alternativesDraw_of_relisted (each : List.Forall₂ Relisted types types')
    (draw : AlternativesDraw c types) : AlternativesDraw c types' := by
  intro t' mem' a' among'
  obtain ⟨t, mem, relisted⟩ := each.exists_of_mem_right mem'
  obtain ⟨a, among, same⟩ := relisted.symm.exists_alternative among'
  obtain ⟨source, w, compiles, drawn⟩ := draw t mem a among
  obtain ⟨source', compiles', drawn'⟩ := (outcome_of_shape same).mp ⟨source, compiles, drawn⟩
  exact ⟨source', w, compiles', drawn'⟩

/-! ## Literals -/

/-- A literal has itself for its only outcome. -/
theorem outcome_literal {a : Descriptor} {w : Value} (literal : a.shape = .literal w) :
    c.Outcome a v ↔ v = w := by
  obtain ⟨id, _⟩ := a
  cases literal
  have compiles : c.Compiles (.node id (.literal w)) (.constant w) := ⟨1, rfl⟩
  rw [← compiles.draws_iff]
  exact Draw.gives_pure

theorem tapes_of_literal {a : Descriptor} {w : Value} {g : Generator}
    (literal : a.shape = .literal w) (compiles : c.Compiles a g) : g.tapes = [] := by
  obtain ⟨id, _⟩ := a
  cases literal
  have constant : c.Compiles (.node id (.literal w)) (.constant w) := ⟨1, rfl⟩
  rw [compiles.unique constant]
  rfl

section Literals

variable (literals : ∀ t ∈ types, ∀ a ∈ alternativesOf t, ∃ w, a.shape = .literal w)

include literals

theorem alternativesDraw_of_literals : AlternativesDraw c types := by
  intro t mem a among
  obtain ⟨w, literal⟩ := literals t mem a among
  obtain ⟨source, compiles, drawn⟩ := (outcome_literal (c := c) literal).mpr rfl
  exact ⟨source, w, compiles, drawn⟩

/-- Literals are apart, as no tape stands in what they compile to. -/
theorem alternativesApart_of_literals : AlternativesApart c types := by
  refine List.pairwise_of_forall_mem_list fun a pooled b _ g h compiles _ => ?_
  obtain ⟨t, mem, among⟩ := List.mem_flatMap.mp (mem_of_mem_pool pooled)
  obtain ⟨w, literal⟩ := literals t mem a among
  rw [tapes_of_literal literal compiles]
  exact List.disjoint_nil_left _

/-- A union of literals accepts what it lists, up to equality of values. -/
theorem guardAll_of_literals (unions : ∀ t ∈ types, alternativesOf t ≠ []) :
    Descriptor.guardAll types v = true ↔
      ∀ t ∈ types, ∃ a ∈ alternativesOf t, ∃ w, a.shape = .literal w ∧ v.equal w = true := by
  rw [Descriptor.guardAll_eq_true]
  refine forall₂_congr fun t mem => (guard_of_union (unions t mem)).trans ?_
  refine exists_congr fun a => and_congr_right fun among => ?_
  obtain ⟨w, literal⟩ := literals t mem a among
  have guard : a.guard v = v.equal w :=
    guard_of_shape (b := .node 0 (.literal w)) literal
  rw [guard]
  constructor
  · exact fun equal => ⟨w, literal, equal⟩
  · rintro ⟨w', literal', equal⟩
    cases literal.symm.trans literal'
    exact equal

end Literals

/-! ## The whole -/

/-- What an intersection of two or more unions draws, none of which is empty.

Each alternative is pooled once. A draw tries until an attempt succeeds; an attempt draws a
candidate from each pooled alternative and then a start, is rejected exactly if no candidate is
accepted by all unions, and otherwise takes the first in cyclic order from the start that is.

If every alternative can draw something and no two pooled ones share a tape, the outcomes are
exactly those of some alternative of some union which all unions accept. They are the same for
unions that list the same shapes otherwise. For unions of literals they are, without any condition,
the listed literals that every union lists up to equality of values. -/
theorem intersected_unions_draw_the_overlap (c : Compiler) (intersectees types : List Descriptor)
    (id : Nat) (flat : flatten intersectees = types) (two : 2 ≤ types.length)
    (unions : ∀ t ∈ types, alternativesOf t ≠ [])
    (own : HaveOwnIds (types.flatMap alternativesOf)) :
    ((∀ a, a ∈ pool types ↔ ∃ t ∈ types, a ∈ alternativesOf t) ∧
      (pool types).Pairwise fun a b => Descriptor.same a b = false) ∧
    (∀ g, c.Compiles (.node id (.intersect intersectees)) g →
      ∃ candidates, List.Forall₂ c.Compiles (pool types) candidates ∧
        ∀ source run, run.spent ≤ source.budget → g.draw source run =
          Draw.untilKept (some "no flattened alternative satisfied every union")
            (attempt candidates (Descriptor.guardAll types)) source run) ∧
    (∀ drawn start, (firstKept (Descriptor.guardAll types) drawn start = none ↔
        ∀ v ∈ drawn, Descriptor.guardAll types v = false) ∧
      ∀ v, firstKept (Descriptor.guardAll types) drawn start = some v ↔
        Descriptor.guardAll types v = true ∧
          ∃ i < drawn.length, drawn[(i + start) % drawn.length]? = some v ∧
            ∀ j < i, ∀ w, drawn[(j + start) % drawn.length]? = some w →
              Descriptor.guardAll types w = false) ∧
    (AlternativesDraw c types → AlternativesApart c types →
      (∀ v, c.Outcome (.node id (.intersect intersectees)) v ↔
        (∃ t ∈ types, ∃ a ∈ alternativesOf t, c.Outcome a v) ∧
          Descriptor.guardAll types v = true) ∧
      ∀ intersectees' id', List.Forall₂ Relisted types (flatten intersectees') →
        (∀ t ∈ flatten intersectees', alternativesOf t ≠ []) →
        HaveOwnIds ((flatten intersectees').flatMap alternativesOf) →
        AlternativesApart c (flatten intersectees') →
          ∀ v, c.Outcome (.node id' (.intersect intersectees')) v ↔
            c.Outcome (.node id (.intersect intersectees)) v) ∧
    ((∀ t ∈ types, ∀ a ∈ alternativesOf t, ∃ w, a.shape = .literal w) →
      ∀ v, c.Outcome (.node id (.intersect intersectees)) v ↔
        (∃ t ∈ types, ∃ a ∈ alternativesOf t, a.shape = .literal v) ∧
          ∀ t ∈ types, ∃ a ∈ alternativesOf t, ∃ w, a.shape = .literal w ∧ v.equal w = true) := by
  subst flat
  refine ⟨⟨fun a => (mem_pool own).trans List.mem_flatMap, pool_pairwise _⟩, ?_,
    fun drawn start => ⟨firstKept_eq_none, fun v => firstKept_eq_some⟩, ?_, ?_⟩
  · intro g compiles
    obtain ⟨candidates, each, alike⟩ := alike_attempts two unions compiles
    exact ⟨candidates, each, fun source run within => alike within⟩
  · intro draw apart
    have outcomes : ∀ v, c.Outcome (.node id (.intersect intersectees)) v ↔ _ :=
      fun v => outcome_pooled two unions own draw apart
    refine ⟨outcomes, fun intersectees' id' each unions' own' apart' v => ?_⟩
    -- listing the same shapes is symmetric, so one inclusion serves for both
    have back : List.Forall₂ Relisted (flatten intersectees') (flatten intersectees) :=
      each.flip.imp fun _ _ => Relisted.symm
    rw [outcomes, outcome_pooled (each.length_eq ▸ two) unions' own'
      (alternativesDraw_of_relisted each draw) apart']
    constructor
    · rintro ⟨drawn, accepted⟩
      exact ⟨exists_outcome_of_relisted back drawn,
        guardAll_of_relisted back unions' unions accepted⟩
    · rintro ⟨drawn, accepted⟩
      exact ⟨exists_outcome_of_relisted each drawn,
        guardAll_of_relisted each unions unions' accepted⟩
  · intro literals v
    rw [outcome_pooled two unions own (alternativesDraw_of_literals literals)
      (alternativesApart_of_literals literals), guardAll_of_literals literals unions]
    refine and_congr_left fun _ => exists_congr fun t => and_congr_right fun mem => ?_
    refine exists_congr fun a => and_congr_right fun among => ?_
    obtain ⟨w, literal⟩ := literals t mem a among
    rw [outcome_literal literal, literal, Shape.literal.injEq, eq_comm]

/-- Unions of literals that have one in common, as two nodes. -/
def commonNull : List Descriptor :=
  [.node 1 (.union [.node 2 (.literal (.bool true)), .node 3 (.literal .null)]),
    .node 4 (.union [.node 5 (.literal .null), .node 6 (.literal (.string "on"))])]

/-- The same unions over one node, which one of them lists twice. -/
def sharedNull : List Descriptor :=
  [.node 1 (.union [.node 3 (.literal .null), .node 2 (.literal (.bool true)),
      .node 3 (.literal .null)]),
    .node 4 (.union [.node 3 (.literal .null), .node 6 (.literal (.string "on"))])]

theorem sharedNull_relisted : List.Forall₂ Relisted commonNull sharedNull := by
  refine .cons (fun shape => ?_) (.cons (fun shape => ?_) .nil)
  · simp only [alternativesOf, Descriptor.shape, List.mem_cons, List.not_mem_nil, or_false,
      exists_eq_or_imp, exists_eq_left]
    constructor
    · rintro (one | other)
      · exact .inr (.inl one)
      · exact .inl other
    · rintro (one | other | again)
      · exact .inr one
      · exact .inl other
      · exact .inr again
  · simp only [alternativesOf, Descriptor.shape, List.mem_cons, List.not_mem_nil, or_false,
      exists_eq_or_imp, exists_eq_left]

/-- The one they have in common is drawn, and nothing else, however it is listed. -/
theorem commonNull_draws_null :
    (∀ v, Compiler.new.Outcome (.node 0 (.intersect commonNull)) v ↔ v = .null) ∧
      ∀ v, Compiler.new.Outcome (.node 0 (.intersect sharedNull)) v ↔ v = .null := by
  have unions : ∀ t ∈ commonNull, alternativesOf t ≠ [] := by
    simp [commonNull, alternativesOf, Descriptor.shape]
  have literals : ∀ t ∈ commonNull, ∀ a ∈ alternativesOf t, ∃ w, a.shape = .literal w := by
    simp [commonNull, alternativesOf, Descriptor.shape]
  have unions' : ∀ t ∈ sharedNull, alternativesOf t ≠ [] := by
    simp [sharedNull, alternativesOf, Descriptor.shape]
  have literals' : ∀ t ∈ sharedNull, ∀ a ∈ alternativesOf t, ∃ w, a.shape = .literal w := by
    simp [sharedNull, alternativesOf, Descriptor.shape]
  have own' : HaveOwnIds (sharedNull.flatMap alternativesOf) := by
    simp [HaveOwnIds, sharedNull, alternativesOf, Descriptor.shape, Descriptor.same, Descriptor.id]
  obtain ⟨_, _, _, outcomes, overlap⟩ := intersected_unions_draw_the_overlap .new commonNull
    commonNull 0 rfl (by decide) unions (haveOwnIds_of_nodup (by decide))
  obtain ⟨_, others⟩ := outcomes (alternativesDraw_of_literals literals)
    (alternativesApart_of_literals literals)
  have null : ∀ v, Compiler.new.Outcome (.node 0 (.intersect commonNull)) v ↔ v = .null := by
    intro v
    rw [overlap literals]
    simp only [commonNull, alternativesOf, Descriptor.shape, List.mem_cons, List.not_mem_nil,
      or_false, exists_eq_or_imp, exists_eq_left, forall_eq_or_imp, forall_eq,
      Shape.literal.injEq]
    constructor
    · rintro ⟨(rfl | rfl) | rfl | rfl, first, second⟩
      · simp [Value.equal] at second
      · rfl
      · rfl
      · simp [Value.equal] at first
    · rintro rfl
      simp [Value.equal]
  refine ⟨null, fun v => ?_⟩
  rw [others sharedNull 0 sharedNull_relisted unions' own' (alternativesApart_of_literals literals')]
  exact null v

/-! ## A tape that alternatives share -/

/-- Unions with an alternative in common, and another that draws from the same tape. -/
def turnUnions : List Descriptor :=
  [.node 1 (.union [.node 2 (.extension "rise" .null anything),
      .node 3 (.extension "fall" .null anything)]),
    .node 4 (.union [.node 2 (.extension "rise" .null anything)])]

theorem alternativesDraw_turnUnions : AlternativesDraw turning turnUnions := by
  have rise : (twoTurns true).Draws (.array [.bool true, .bool false]) :=
    ⟨⟨fun _ => 0, 0⟩, .start, ⟨0, 0, none, [(0, 2)]⟩, rfl⟩
  have fall : (twoTurns false).Draws (.array [.bool false, .bool true]) :=
    ⟨⟨fun _ => 0, 0⟩, ⟨0, 0, none, [(0, 1)]⟩, ⟨0, 0, none, [(0, 3)]⟩, rfl⟩
  intro t mem a among
  rcases List.mem_pair.mp mem with rfl | rfl
  · rcases List.mem_pair.mp among with rfl | rfl
    · exact ⟨twoTurns true, _, ⟨1, rfl⟩, rise⟩
    · exact ⟨twoTurns false, _, ⟨1, rfl⟩, fall⟩
  · rw [List.mem_singleton.mp among]
    exact ⟨twoTurns true, _, ⟨1, rfl⟩, rise⟩

/-- Each alternative draws what both unions accept, but where one leaves the tape the other cannot
draw, and every attempt waits for both. -/
theorem turnUnions_starve :
    AlternativesDraw turning turnUnions ∧
      (∃ v, (∃ t ∈ turnUnions, ∃ a ∈ alternativesOf t, turning.Outcome a v) ∧
        Descriptor.guardAll turnUnions v = true) ∧
      (∃ g, turning.Compiles (.node 0 (.intersect turnUnions)) g) ∧
      ∀ v, ¬ turning.Outcome (.node 0 (.intersect turnUnions)) v := by
  have compiles : turning.Compiles (.node 0 (.intersect turnUnions))
      (guarded (.rotated [twoTurns true, twoTurns false]
        "no flattened alternative satisfied every union" (Descriptor.guardAll turnUnions))
          "intersection guard" turnUnions) := ⟨2, rfl⟩
  refine ⟨alternativesDraw_turnUnions, ?_, ⟨_, compiles⟩, fun v outcome => ?_⟩
  · obtain ⟨source, w, compiles, drawn⟩ := alternativesDraw_turnUnions _ List.mem_cons_self _
      List.mem_cons_self
    exact ⟨w, ⟨_, List.mem_cons_self, _, List.mem_cons_self, source, compiles, drawn⟩, rfl⟩
  · obtain ⟨rotated, _⟩ := Generator.Draws.of_filtered (compiles.draws_iff.mpr outcome)
    obtain ⟨source, run, after, ran⟩ := Draw.Gives.untilKept rotated
    obtain ⟨_, _, ran, _⟩ := Draw.bind_eq_ok ran
    obtain ⟨_, between, first, ran⟩ := Draw.bind_eq_ok ran
    obtain ⟨_, _, ran, _⟩ := Draw.bind_eq_ok ran
    obtain ⟨_, _, second, _⟩ := Draw.bind_eq_ok ran
    have rises := endsAt_twoTurns true _ _ _ _ first
    have falls := endsAt_twoTurns false _ _ _ _ second
    exact Bool.false_ne_true (falls.1.symm.trans rises.2)

end Intersection

end Specimen
