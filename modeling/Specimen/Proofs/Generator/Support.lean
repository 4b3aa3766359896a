import Mathlib.Data.List.Basic
import Mathlib.Data.List.Forall2
import Specimen.Proofs.Generator.Replay
import Specimen.Proofs.Related

/-!
# What exactly can be drawn

For each combinator a law says in both directions what it draws, in terms of what its parts draw
(`draws_filtered`, `draws_oneOf` and so on). Where several parts are drawn one after the other, what
one draws may decide what another can, but only by a tape they share: if no tape stands in two of
the parts (`Apart`), each draws what it likes (`draws_recordOf`, `draws_rotated`). That is so in
particular where no tape stands anywhere.
-/

namespace Specimen

namespace Generator

variable {g : Generator} {v : Value} {ids : List Nat}

/-! ## The tapes of a generator -/

/-- The identity of a tape. -/
def tape? : Generator → Option Nat
  | .tape id _ => some id
  | _ => none

/-- The tapes that occur in a generator. -/
def tapes (g : Generator) : List Nat := g.nodes.filterMap tape?

/-- Making a generator optional adds no tape. -/
theorem tapes_optional (g : Generator) : (optional g).tapes = g.tapes := by
  have nodes : (optional g).nodes = optional g :: (g.nodes ++ [constant .undefined]) := rfl
  rw [tapes, nodes, List.filterMap_cons_none rfl, List.filterMap_append]
  exact List.append_nil _

/-- Searches are local to what their attempts are local to, so only tapes matter. -/
private theorem admits_local (among : ∀ id, g.tape? = some id → id ∈ ids) :
    Closed.Admits (fun _ => Draw.Local ids) g := by
  cases g with
  | tape id values => exact Draw.local_fromTape (among id rfl)
  | filtered _ _ _ => exact (Draw.closed_local ids).admits_filtered fun _ => Draw.local_untilKept
  | rotated _ _ _ => exact (Draw.closed_local ids).admits_rotated fun _ => Draw.local_untilKept
  | _ => trivial

/-- A draw is local to the tapes that occur in its generator. -/
theorem local_draw (among : g.tapes ⊆ ids) : g.draw.Local ids :=
  (Draw.closed_local ids).draw g fun _ mem =>
    admits_local fun _ same => among (List.mem_filterMap.mpr ⟨_, mem, same⟩)

private theorem among_tapes {gs : List Generator} {h : Generator} (mem : h ∈ nodesAll gs)
    {id : Nat} (same : h.tape? = some id) : id ∈ gs.flatMap tapes := by
  obtain ⟨g, among, mem⟩ := mem_nodesAll.mp mem
  exact List.mem_flatMap.mpr ⟨g, among, List.mem_filterMap.mpr ⟨h, mem, same⟩⟩

/-- Drawing a tuple reads and moves no tapes but those of its components. -/
theorem local_drawAll (gs : List Generator) : (drawAll gs).Local (gs.flatMap tapes) :=
  (Draw.closed_local _).drawAll gs fun _ mem => admits_local fun _ same => among_tapes mem same

/-- Drawing one of several options stays among the tapes of them all, whichever it is. -/
theorem local_drawAt (gs : List Generator) (index : Nat) :
    (drawAt gs index).Local (gs.flatMap tapes) :=
  (Draw.closed_local _).drawAt gs (fun _ mem => admits_local fun _ same => among_tapes mem same)
    index

/-- And drawing the fields of a record among those of the fields. -/
theorem local_drawFields (fields : List (String × Generator)) :
    (drawFields fields).Local ((fields.map Prod.snd).flatMap tapes) := by
  refine (Draw.closed_local _).drawFields fields fun h mem => admits_local fun id same => ?_
  obtain ⟨field, among, mem⟩ := mem_nodesFields.mp mem
  refine among_tapes (mem_nodesAll.mpr ⟨field.2, ?_, mem⟩) same
  exact List.mem_map_of_mem among

/-- No tape stands in two of some generators. -/
def Apart (gs : List Generator) : Prop := gs.Pairwise fun g h => g.tapes.Disjoint h.tapes

/-- The tapes of the first part are none of the tapes of the others: what it draws leaves them as
they were. -/
theorem Apart.disjoint {gs : List Generator} (apart : Apart (g :: gs)) :
    g.tapes.Disjoint (gs.flatMap tapes) := by
  intro id mem among
  obtain ⟨h, other, mem'⟩ := List.mem_flatMap.mp among
  exact List.rel_of_pairwise_cons apart other mem mem'

/-! ### No tapes at all -/

mutual

/-- Whether no tape stands anywhere in a generator. -/
def isTapeless : Generator → Bool
  | .tape _ _ => false
  | .array element _ => isTapeless element
  | .dictionary value _ => isTapeless value
  | .oneOf first others => isTapeless first && areTapeless others
  | .tupleOf components => areTapeless components
  | .recordOf fields => areTapelessFields fields
  | .mapped source _ => isTapeless source
  | .filtered source _ _ => isTapeless source
  | .rotated candidates _ _ => areTapeless candidates
  | .mended base extra _ _ => isTapeless base && isTapeless extra
  | _ => true

/-- Whether no tape stands in any of several generators. -/
def areTapeless : List Generator → Bool
  | [] => true
  | g :: rest => isTapeless g && areTapeless rest

/-- The same of generators with names. -/
def areTapelessFields : List (String × Generator) → Bool
  | [] => true
  | (_, g) :: rest => isTapeless g && areTapelessFields rest

end

theorem areTapeless_eq_true {gs : List Generator} :
    areTapeless gs = true ↔ ∀ g ∈ gs, g.isTapeless = true := by
  induction gs with
  | nil => simp [areTapeless]
  | cons g rest ih => simp [areTapeless, ih]

mutual

/-- The check walks through the generator as its nodes do. -/
theorem isTapeless_eq : ∀ g : Generator, g.isTapeless = g.nodes.all fun h => h.tape?.isNone
  | .constant _ => rfl
  | .boolean => rfl
  | .number => rfl
  | .text => rfl
  | .void => rfl
  | .callable => rfl
  | .json _ => rfl
  | .tape _ _ => rfl
  | .array element _ => isTapeless_eq element
  | .dictionary value _ => isTapeless_eq value
  | .oneOf first others => by
    rw [isTapeless, nodes, List.all_cons, List.all_append, isTapeless_eq first,
      areTapeless_eq others]
    rfl
  | .tupleOf components => areTapeless_eq components
  | .recordOf fields => areTapelessFields_eq fields
  | .mapped source _ => isTapeless_eq source
  | .filtered source _ _ => isTapeless_eq source
  | .rotated candidates _ _ => areTapeless_eq candidates
  | .mended base extra _ _ => by
    rw [isTapeless, nodes, List.all_cons, List.all_append, isTapeless_eq base, isTapeless_eq extra]
    rfl

theorem areTapeless_eq : ∀ gs : List Generator,
    areTapeless gs = (nodesAll gs).all fun h => h.tape?.isNone
  | [] => rfl
  | g :: rest => by
    rw [areTapeless, nodesAll, List.all_append, isTapeless_eq g, areTapeless_eq rest]

theorem areTapelessFields_eq : ∀ fields : List (String × Generator),
    areTapelessFields fields = (nodesFields fields).all fun h => h.tape?.isNone
  | [] => rfl
  | (_, g) :: rest => by
    rw [areTapelessFields, nodesFields, List.all_append, isTapeless_eq g, areTapelessFields_eq rest]

end

/-- What the check says: that no node is a tape. -/
theorem isTapeless_iff : g.isTapeless = true ↔ ∀ h ∈ g.nodes, h.tape? = none := by
  simp only [isTapeless_eq, List.all_eq_true, Option.isNone_iff_eq_none]

theorem tapes_of_isTapeless (tapeless : g.isTapeless = true) : g.tapes = [] :=
  List.filterMap_eq_nil_iff.mpr (isTapeless_iff.mp tapeless)

/-- Parts without tapes are apart, also where one of them is listed twice. -/
theorem apart_of_areTapeless {gs : List Generator} (tapeless : areTapeless gs = true) :
    Apart gs := by
  have each := areTapeless_eq_true.mp tapeless
  refine List.pairwise_of_forall_mem_list fun g mem h _ => ?_
  rw [tapes_of_isTapeless (each g mem)]
  exact List.disjoint_nil_left _

/-! ## What they draw -/

/-- Parts that are apart draw independently: any choice of a value for each is one that a single run
makes. -/
theorem gives_drawAll {gs : List Generator} (apart : Apart gs) {vs : List Value} :
    (drawAll gs).Gives vs ↔ List.Forall₂ Draws gs vs := by
  refine ⟨Draws.of_drawAll, fun each => ?_⟩
  induction each with
  | nil => exact Draw.gives_pure.mpr rfl
  | @cons g _ rest _ head _ ih =>
    have closed := Draw.closed_local (rest.flatMap tapes)
    refine (Draw.Local.gives_bind (local_draw (List.Subset.refl _))
      (fun _ => closed.bind (local_drawAll rest) fun _ => closed.pure _) apart.disjoint).mpr
        ⟨_, head, ?_⟩
    exact Draw.gives_map.mpr ⟨_, ih apart.of_cons, rfl⟩

/-- The same for fields. -/
theorem gives_drawFields {fields : List (String × Generator)}
    (apart : Apart (fields.map Prod.snd)) {members : List (String × Value)} :
    (drawFields fields).Gives members ↔ List.Forall₂ Draws.Member fields members := by
  refine ⟨Draws.of_drawFields, fun each => ?_⟩
  induction each with
  | nil => exact Draw.gives_pure.mpr rfl
  | @cons field member rest _ head _ ih =>
    obtain ⟨name, g⟩ := field
    obtain ⟨_, w⟩ := member
    obtain ⟨rfl, drawn⟩ := head
    have closed := Draw.closed_local ((rest.map Prod.snd).flatMap tapes)
    refine (Draw.Local.gives_bind (local_draw (List.Subset.refl _))
      (fun _ => closed.bind (local_drawFields rest) fun _ => closed.pure _) apart.disjoint).mpr
        ⟨_, drawn, ?_⟩
    exact Draw.gives_map.mpr ⟨_, ih apart.of_cons, rfl⟩

/-- A mapped generator draws the images of what its source draws. -/
theorem draws_mapped {source : Generator} {f : Value → Value} :
    (mapped source f).Draws v ↔ ∃ w, source.Draws w ∧ v = f w := Draw.gives_map

/-- What a record of fields draws, in both directions. Without their being apart only one holds. -/
theorem draws_recordOf {fields : List (String × Generator)}
    (apart : Apart (fields.map Prod.snd)) :
    (recordOf fields).Draws v ↔ ∃ members, List.Forall₂ Draws.Member fields members ∧
      v = .object (Fields.ofPairs members) :=
  Draw.gives_map.trans (exists_congr fun _ => and_congr_left fun _ => gives_drawFields apart)

/-- A filter draws what its source draws and it keeps. For the converse a run is needed whose first
attempt is kept; there is one, as rejections play no part in what a source can draw. -/
theorem draws_filtered {source : Generator} {label : Option String} {keep : Value → Bool} :
    (filtered source label keep).Draws v ↔ source.Draws v ∧ keep v = true := by
  refine ⟨Draws.of_filtered, fun ⟨drawn, kept⟩ => ?_⟩
  have inner := local_draw (g := source) (List.Subset.refl _)
  have closed := Draw.closed_local source.tapes
  refine (Draw.Local.gives_untilKept (closed.bind inner fun _ => closed.pure _)).mpr ?_
  refine Draw.gives_map.mpr ⟨v, drawn, ?_⟩
  rw [if_pos kept]

/-- One draw from an option that is listed. -/
theorem exists_drawAt {gs : List Generator} {g : Generator} (mem : g ∈ gs) (drawn : g.Draws v) :
    ∃ index < gs.length, (drawAt gs index).Gives v := by
  induction gs with
  | nil => cases mem
  | cons head rest ih =>
    rcases List.mem_cons.mp mem with rfl | mem
    · exact ⟨0, Nat.succ_pos _, drawn⟩
    · obtain ⟨index, lt, given⟩ := ih mem
      exact ⟨index + 1, Nat.succ_lt_succ lt, given⟩

theorem draw_oneOf (first : Generator) (others : List Generator) :
    (oneOf first others).draw = Draw.below (others.length + 1) >>= drawAt (first :: others) := by
  refine congrArg (Draw.below (others.length + 1) >>= ·) (funext fun index => ?_)
  cases index <;> rfl

/-- Each of several options can be the one that is drawn. -/
theorem draws_oneOf {first : Generator} {others : List Generator} :
    (oneOf first others).Draws v ↔ ∃ g ∈ first :: others, g.Draws v := by
  refine ⟨Draws.of_oneOf, fun ⟨g, mem, drawn⟩ => ?_⟩
  rw [Draws, draw_oneOf, Draw.gives_below_bind (local_drawAt (first :: others))]
  rcases List.mem_cons.mp mem with rfl | mem
  · exact ⟨0, Draw.gives_below (Nat.succ_pos _), drawn⟩
  · obtain ⟨index, lt, given⟩ := exists_drawAt mem drawn
    exact ⟨index + 1, Draw.gives_below (Nat.succ_lt_succ lt), given⟩

/-- An optional draw can be made of its source as well as left out. -/
theorem draws_optional {source : Generator} :
    (optional source).Draws v ↔ source.Draws v ∨ v = .undefined := by
  refine ⟨Draws.of_optional, fun either => draws_oneOf.mpr ?_⟩
  rcases either with drawn | rfl
  · exact ⟨source, List.mem_cons_self, drawn⟩
  · exact ⟨_, List.mem_cons_of_mem _ List.mem_cons_self, Draw.gives_pure.mpr rfl⟩

/-- Any value that is kept is the first one from some start. -/
theorem exists_start_firstKept {keep : Value → Bool} {drawn : List Value} (mem : v ∈ drawn)
    (kept : keep v = true) : ∃ start, firstKept keep drawn start = some v := by
  obtain ⟨before, after, rfl⟩ := List.append_of_mem mem
  refine ⟨before.length, ?_⟩
  have offset : before.length % (before ++ v :: after).length = before.length :=
    Nat.mod_eq_of_lt (by simp)
  rw [firstKept, offset, List.drop_left, List.cons_append, List.find?_cons_of_pos kept]

section Rotated

variable {candidates : List Generator} {label : String} {keep : Value → Bool}

/-- The draws of a choice among candidates, by what the candidates draw and where it starts. -/
theorem draws_rotated_from (apart : Apart candidates) :
    (rotated candidates label keep).Draws v ↔ ∃ values, List.Forall₂ Draws candidates values ∧
      ∃ start, firstKept keep values start = some v := by
  have each := local_drawAll candidates
  have rest : ∀ (ids : List Nat) (values : List Value),
      (do return firstKept keep values (← Draw.below values.length) : Draw _).Local ids :=
    fun ids _ => (Draw.closed_local ids).bind ((Draw.closed_local ids).below _) fun _ =>
      (Draw.closed_local ids).pure _
  refine (Draw.Local.gives_untilKept ((Draw.closed_local _).bind each (rest _))).trans ?_
  refine (Draw.Local.gives_bind each (rest []) (List.disjoint_nil_right _)).trans
    (exists_congr fun values => ?_)
  refine and_congr (gives_drawAll apart) (Draw.gives_map.trans ?_)
  constructor
  · rintro ⟨start, _, found⟩
    exact ⟨start, found.symm⟩
  · rintro ⟨start, found⟩
    have some : 0 < values.length := List.length_pos_of_mem (Draws.firstKept_some found).1
    refine ⟨start % values.length, Draw.gives_below (Nat.mod_lt _ some), ?_⟩
    rw [← found, firstKept, firstKept, Nat.mod_mod]

/-- A choice among candidates draws what any of them draws and is kept, provided that all of them
draw something: an attempt draws from each. -/
theorem draws_rotated (apart : Apart candidates) :
    (rotated candidates label keep).Draws v ↔ (∀ g ∈ candidates, ∃ w, g.Draws w) ∧
      (∃ g ∈ candidates, g.Draws v) ∧ keep v = true := by
  constructor
  · intro drawn
    obtain ⟨values, draws, found, kept⟩ := Draws.of_rotated drawn
    refine ⟨fun g mem => ?_, draws.exists_of_mem_right found, kept⟩
    obtain ⟨w, _, drawn⟩ := draws.exists_of_mem_left mem
    exact ⟨w, drawn⟩
  · rintro ⟨each, ⟨chosen, among, drawn⟩, kept⟩
    -- the chosen one draws the value, and the others whatever they do
    have together : ∀ g ∈ candidates, ∃ w, g.Draws w ∧ (g = chosen → w = v) := by
      intro g mem
      by_cases same : g = chosen
      · exact ⟨v, same ▸ drawn, fun _ => rfl⟩
      · obtain ⟨w, other⟩ := each g mem
        exact ⟨w, other, fun one => absurd one same⟩
    obtain ⟨values, draws⟩ := List.Forall₂.exists_iff.mpr together
    obtain ⟨w, found, _, same⟩ := draws.exists_of_mem_left among
    obtain ⟨start, first⟩ := exists_start_firstKept (same rfl ▸ found) kept
    exact (draws_rotated_from apart).mpr
      ⟨values, draws.imp fun _ _ both => both.1, start, first⟩

end Rotated

end Generator

end Specimen
