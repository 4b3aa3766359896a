import Specimen.Proofs.Compiler.Depth
import Specimen.Proofs.Intersection.Rules

/-!
# Which types compile

With nothing registered for intersections, whether a type compiles is decided node by node: it does
exactly if each node reached is one the compiler supports (`compilable_iff`). In particular it makes
no difference whether types are compiled one by one or as one intersection, however its rules take
them apart and put parts of them together.

The induction is on weight and not on descriptors, since merging records compiles intersections of
field types that are no part of the descriptor. They are made of its parts, though, and nodes of its
parts are all that identities have to tell apart.

Which error a type that does not compile ends in, and which bound on nesting suffices, is the matter
of `Specimen.Proofs.Compiler.Blame`.
-/

namespace Specimen

/-! ## Weights of parts -/

namespace Descriptor

theorem weight_lt_of_mem_parts {id : Nat} {shape : Shape} {part : Descriptor}
    (mem : part ∈ shape.parts) : part.weight < (node id shape).weight := by
  rw [weight]
  refine Nat.lt_succ_of_le ?_
  cases shape with
  | array element => cases List.mem_singleton.mp mem; exact Nat.le_refl _
  | constraint underlying predicate correction args =>
    cases marked : marking args with
    | some _ =>
      rw [Shape.parts_of_marked marked] at mem
      cases mem
    | none =>
      rw [Shape.parts_of_unmarked marked] at mem
      cases List.mem_singleton.mp mem
      rcases args with _ | ⟨_, _, types⟩
      · exact Nat.le_refl _
      · exact Nat.le_add_right _ _
  | dictionary value => cases List.mem_singleton.mp mem; exact Nat.le_refl _
  | intersect intersectees => exact weight_le_weightAll mem
  | partialRecord fields =>
    obtain ⟨field, among, rfl⟩ := List.mem_map.mp mem
    exact weight_le_weightFields among
  | record fields =>
    obtain ⟨field, among, rfl⟩ := List.mem_map.mp mem
    exact weight_le_weightFields among
  | tuple components => exact weight_le_weightAll mem
  | union alternatives => exact weight_le_weightAll mem
  | _ => cases mem

mutual

/-- Dissolving nested intersections takes weight away. -/
theorem weightAll_flatten_le :
    ∀ types : List Descriptor, weightAll (Intersection.flatten types) ≤ weightAll types
  | [] => Nat.le_refl 0
  | t :: rest => by
    rw [Intersection.flatten, weightAll_append, weightAll]
    have head := weightAll_flattenOne_le t
    have tail := weightAll_flatten_le rest
    omega

theorem weightAll_flattenOne_le :
    ∀ t : Descriptor, weightAll (Intersection.flattenOne t) ≤ t.weight
  | .node id shape => by
    cases shape with
    | intersect types =>
      rw [Intersection.flattenOne, weight, shapeWeight]
      have below := weightAll_flatten_le types
      omega
    | _ => exact Nat.le_refl _

end

/-- What an intersection is of weighs less than it does. -/
theorem weightAll_flatten_lt (id : Nat) (intersectees : List Descriptor) :
    weightAll (Intersection.flatten intersectees) < weight (.node id (.intersect intersectees)) := by
  have flat := weightAll_flatten_le intersectees
  rw [weight, shapeWeight]
  omega

end Descriptor

namespace Compiler

variable {c : Compiler}

/-! ## Support -/

/-- A type for which there is a generator. -/
def Compilable (c : Compiler) (t : Descriptor) : Prop := ∃ g, c.Compiles t g

/-- A node that a compiler has a way to generate, as far as the node itself goes: a union has an
alternative, and what is left to a registered strategy has one that succeeds. -/
def Supports (c : Compiler) (t : Descriptor) : Prop :=
  match t.shape with
  | .union alternatives => alternatives ≠ []
  | .constraint underlying predicate correction arguments =>
    ∀ args, Descriptor.marking arguments = some args →
      ∃ strategy, Fields.get? c.customConstraints args.tag = some strategy ∧
        ∃ g, c.Makes (strategy c.maxSize ⟨underlying, predicate, correction, args⟩) g
  | .extension name payload guard =>
    ∃ strategy, Fields.get? c.strategies name = some strategy ∧
      ∃ g, c.Makes (strategy c.maxSize ⟨name, payload, guard⟩) g
  | _ => True

theorem compilable_iff_eventually {t : Descriptor} :
    c.Compilable t ↔ ∃ g, c.eventually t = .ok g :=
  exists_congr fun _ => compiles_iff

theorem compilable_iff_step {t : Descriptor} :
    c.Compilable t ↔ ∃ g, (c.step t).run c.eventually = .ok g := by
  rw [compilable_iff_eventually, eventually_eq]

/-- Something is made of what there is to make it of. -/
private theorem exists_made {α : Type} {P : α → Prop} {make : α → Generator} :
    (∃ g, ∃ a, P a ∧ g = make a) ↔ ∃ a, P a := by
  constructor
  · rintro ⟨_, a, holds, _⟩
    exact ⟨a, holds⟩
  · rintro ⟨a, holds⟩
    exact ⟨_, a, holds, rfl⟩

/-- A node that is no intersection compiles when it is supported and its parts compile. -/
theorem compilable_node {id : Nat} {shape : Shape} (plain : shape.tag ≠ .intersect) :
    c.Compilable (.node id shape) ↔
      c.Supports (.node id shape) ∧ ∀ part ∈ shape.parts, c.Compilable part := by
  rw [compilable_iff_step]
  simp only [compilable_iff_eventually]
  cases shape with
  | array element =>
    simp only [run_step_array, exists_made, Shape.parts, List.forall_mem_singleton]
    exact (and_iff_right trivial).symm
  | constraint underlying predicate correction arguments =>
    cases marked : Descriptor.marking arguments with
    | none =>
      have supported :
          c.Supports (.node id (.constraint underlying predicate correction arguments)) := by
        intro args other
        cases marked.symm.trans other
      simp only [run_step_unmarked marked, exists_made, Shape.parts_of_unmarked marked,
        List.forall_mem_singleton]
      exact (and_iff_right supported).symm
    | some args =>
      simp only [run_step_marked marked, Shape.parts_of_marked marked, Supports, Descriptor.shape,
        marked, Option.some.injEq, makes_iff]
      constructor
      · rintro ⟨g, strategy, registered, ran⟩
        refine ⟨?_, List.forall_mem_nil _⟩
        rintro _ rfl
        exact ⟨strategy, registered, g, ran⟩
      · rintro ⟨supported, _⟩
        obtain ⟨strategy, registered, g, ran⟩ := supported args rfl
        exact ⟨g, strategy, registered, ran⟩
  | dictionary value =>
    simp only [run_step_dictionary, exists_made, Shape.parts, List.forall_mem_singleton]
    exact (and_iff_right trivial).symm
  | intersect intersectees => exact absurd rfl plain
  | partialRecord fields =>
    simp only [run_step_partialRecord, exists_made, List.Forall₂.exists_iff, exists_fieldCompiled,
      Shape.parts, List.forall_mem_map]
    exact (and_iff_right trivial).symm
  | record fields =>
    simp only [run_step_record, exists_made, List.Forall₂.exists_iff, exists_fieldCompiled,
      Shape.parts, List.forall_mem_map]
    exact (and_iff_right trivial).symm
  | tuple components =>
    simp only [run_step_tuple, exists_made, List.Forall₂.exists_iff, Shape.parts]
    exact (and_iff_right trivial).symm
  | union alternatives =>
    simp only [run_step_union, Shape.parts, Supports, Descriptor.shape]
    constructor
    · rintro ⟨_, first, others, compiled, _⟩
      -- an empty union is the one that fails although all of its alternatives compile
      refine ⟨?_, List.Forall₂.exists_iff.mp ⟨_, compiled⟩⟩
      rintro rfl
      cases compiled
    · rintro ⟨nonempty, each⟩
      obtain ⟨gs, compiled⟩ := List.Forall₂.exists_iff.mpr each
      cases compiled with
      | nil => exact absurd rfl nonempty
      | cons head rest => exact ⟨_, _, _, .cons head rest, rfl⟩
  | extension name payload guard =>
    simp only [run_step_extension, Shape.parts, Supports, Descriptor.shape, makes_iff]
    constructor
    · rintro ⟨g, strategy, registered, ran⟩
      exact ⟨⟨strategy, registered, g, ran⟩, List.forall_mem_nil _⟩
    · rintro ⟨⟨strategy, registered, g, ran⟩, _⟩
      exact ⟨g, strategy, registered, ran⟩
  | _ => exact ⟨fun _ => ⟨trivial, List.forall_mem_nil _⟩, fun _ => ⟨_, rfl⟩⟩

/-! ## Intersections -/

/-- The nodes of a list of types are all supported. -/
def SupportsAll (c : Compiler) (nodes : List Descriptor) : Prop := ∀ s ∈ nodes, c.Supports s

mutual

/-- Dissolving nested intersections leaves out intersections only, and these are supported. -/
theorem supports_flatten : ∀ types : List Descriptor,
    c.SupportsAll (Descriptor.reachedAll (Intersection.flatten types)) ↔
      c.SupportsAll (Descriptor.reachedAll types)
  | [] => Iff.rfl
  | t :: rest => by
    have head := supports_flattenOne t
    have tail := supports_flatten rest
    unfold SupportsAll at head tail ⊢
    rw [Intersection.flatten, Descriptor.reachedAll_append, Descriptor.reachedAll,
      List.forall_mem_append, List.forall_mem_append, head, tail]

theorem supports_flattenOne : ∀ t : Descriptor,
    c.SupportsAll (Descriptor.reachedAll (Intersection.flattenOne t)) ↔ c.SupportsAll t.reached
  | .node id shape => by
    cases shape with
    | intersect types =>
      have below := supports_flatten types
      rw [Intersection.flattenOne, below]
      unfold SupportsAll
      rw [Descriptor.reached, Descriptor.reachedFrom, List.forall_mem_cons]
      exact (and_iff_right trivial).symm
    | _ =>
      rw [Intersection.flattenOne, Descriptor.reachedAll, Descriptor.reachedAll, List.append_nil]
      nofun

end

/-- A type that compiles exactly if all nodes reached from it are supported. -/
def IsDecidedByNodes (c : Compiler) (t : Descriptor) : Prop :=
  c.Compilable t ↔ c.SupportsAll t.reached

theorem supportsAll_reached {t : Descriptor} :
    c.SupportsAll t.reached ↔ c.Supports t ∧ ∀ part ∈ t.shape.parts, c.SupportsAll part.reached := by
  obtain ⟨id, shape⟩ := t
  unfold SupportsAll
  rw [Descriptor.reached, List.forall_mem_cons]
  refine and_congr_right fun _ => ?_
  constructor
  · intro all part mem s reached
    exact all s (Shape.mem_reachedFrom.mpr ⟨part, mem, reached⟩)
  · intro all s mem
    obtain ⟨part, among, reached⟩ := Shape.mem_reachedFrom.mp mem
    exact all part among s reached

theorem supportsAll_reachedAll {types : List Descriptor} :
    c.SupportsAll (Descriptor.reachedAll types) ↔ ∀ t ∈ types, c.SupportsAll t.reached := by
  unfold SupportsAll
  constructor
  · intro all t mem s reached
    exact all s (Descriptor.mem_reachedAll.mpr ⟨t, mem, reached⟩)
  · intro all s mem
    obtain ⟨t, among, reached⟩ := Descriptor.mem_reachedAll.mp mem
    exact all t among s reached

section Intersections

variable {types : List Descriptor}

/-- The generic way compiles the types themselves. -/
private theorem generic_decided (nonempty : types ≠ [])
    (decided : ∀ t ∈ types, c.IsDecidedByNodes t) :
    (∃ g, (Intersection.generic types).run c.eventually = .ok g) ↔
      c.SupportsAll (Descriptor.reachedAll types) := by
  rw [Intersection.exists_run_generic nonempty, supportsAll_reachedAll]
  refine forall₂_congr fun t mem => ?_
  rw [← compilable_iff_eventually]
  exact decided t mem

/-- Flattening compiles the alternatives, none of which the pool leaves out. -/
private theorem flattenUnions_decided (unions : ∀ t ∈ types, t.tag = .union)
    (own : Intersection.HaveOwnIds (types.flatMap Intersection.alternativesOf))
    (decided : ∀ t ∈ types, ∀ part ∈ t.shape.parts, c.IsDecidedByNodes part) :
    (∃ g, (Intersection.flattenUnions types).run c.eventually = .ok g) ↔
      c.SupportsAll (Descriptor.reachedAll types) := by
  have union : ∀ t ∈ types, (c.Supports t ↔ Intersection.alternativesOf t ≠ []) ∧
      t.shape.parts = Intersection.alternativesOf t := by
    rintro ⟨id, shape⟩ mem
    have tag := unions _ mem
    cases shape with
    | union alternatives => exact ⟨Iff.rfl, rfl⟩
    | _ => cases tag
  rw [Intersection.exists_run_flattenUnions, supportsAll_reachedAll]
  constructor
  · rintro ⟨filled, each⟩ t mem
    obtain ⟨supports, parts⟩ := union t mem
    refine supportsAll_reached.mpr ⟨supports.mpr (filled t mem), fun part among => ?_⟩
    have pooled : part ∈ Intersection.pool types :=
      (Intersection.mem_pool own).mpr (List.mem_flatMap.mpr ⟨t, mem, parts ▸ among⟩)
    exact (decided t mem part among).mp (compilable_iff_eventually.mpr (each part pooled))
  · intro all
    refine ⟨fun t mem => (union t mem).1.mp (supportsAll_reached.mp (all t mem)).1, ?_⟩
    intro part pooled
    obtain ⟨t, mem, among⟩ := List.mem_flatMap.mp (Intersection.mem_of_mem_pool pooled)
    rw [← (union t mem).2] at among
    have supported := (supportsAll_reached.mp (all t mem)).2 part among
    exact compilable_iff_eventually.mp ((decided t mem part among).mpr supported)

/-- The node that merging makes adds nothing to what the declared types need. -/
private theorem supportsAll_fieldType {types : List Descriptor} :
    c.SupportsAll (Intersection.fieldType types).reached ↔ ∀ t ∈ types, c.SupportsAll t.reached := by
  unfold Intersection.fieldType
  split
  · rw [List.forall_mem_singleton]
  · exact supportsAll_reached.trans (and_iff_right trivial)

/-- Merging compiles the types that the fields are declared with, some of them as intersections. -/
private theorem mergeRecords_decided (records : ∀ t ∈ types, t.IsRecord)
    (decided : ∀ entry ∈ Intersection.fieldDecls types,
      c.IsDecidedByNodes (Intersection.fieldType entry.2.types)) :
    (∃ g, (Intersection.mergeRecords types).run c.eventually = .ok g) ↔
      c.SupportsAll (Descriptor.reachedAll types) := by
  have record : ∀ t ∈ types, c.Supports t ∧ ∀ part, part ∈ t.shape.parts ↔
      ∃ declaration ∈ Intersection.declarations t, declaration.type = part := by
    rintro ⟨id, shape⟩ mem
    have tag := records _ mem
    cases shape with
    | record fields =>
      exact ⟨trivial, by simp [Shape.parts, Descriptor.shape, Intersection.declarations]⟩
    | partialRecord fields =>
      exact ⟨trivial, by simp [Shape.parts, Descriptor.shape, Intersection.declarations]⟩
    | _ => rcases tag with other | other <;> cases other
  rw [Intersection.exists_run_mergeRecords records, supportsAll_reachedAll]
  constructor
  · intro each t mem
    obtain ⟨supports, parts⟩ := record t mem
    refine supportsAll_reached.mpr ⟨supports, fun part among => ?_⟩
    obtain ⟨declaration, made, rfl⟩ := (parts _).mp among
    obtain ⟨entry, merged, within⟩ := Intersection.exists_mem_fieldDecls.mpr
      ⟨declaration, List.mem_flatMap.mpr ⟨t, mem, made⟩, rfl⟩
    have supported := (decided entry merged).mp (compilable_iff_eventually.mpr (each entry merged))
    exact supportsAll_fieldType.mp supported _ within
  · intro all entry merged
    refine compilable_iff_eventually.mp ((decided entry merged).mpr ?_)
    refine supportsAll_fieldType.mpr fun t within => ?_
    obtain ⟨declaration, made, rfl⟩ := Intersection.exists_mem_fieldDecls.mp ⟨entry, merged, within⟩
    obtain ⟨r, among, made⟩ := List.mem_flatMap.mp made
    exact (supportsAll_reached.mp (all r among)).2 _ (((record r among).2 _).mpr ⟨_, made, rfl⟩)

end Intersections

/-! ## All types -/

/-- An intersection is decided by what is left of it when nested intersections dissolve, whichever
rule that falls to. -/
private theorem intersect_decided (noRules : c.customRules = [])
    (noTagged : c.customIntersections = []) {nodes : List Descriptor}
    (own : Intersection.HaveOwnIds nodes) {id : Nat} {intersectees : List Descriptor}
    (below : Descriptor.reachedAll intersectees ⊆ nodes)
    (decided : ∀ s : Descriptor, s.weight < (Descriptor.node id (.intersect intersectees)).weight →
      Descriptor.reachedFrom s.shape ⊆ nodes → c.IsDecidedByNodes s) :
    c.IsDecidedByNodes (.node id (.intersect intersectees)) := by
  have toFlat : c.SupportsAll (Descriptor.node id (.intersect intersectees)).reached ↔
      c.SupportsAll (Descriptor.reachedAll (Intersection.flatten intersectees)) := by
    rw [supportsAll_reached, supports_flatten, supportsAll_reachedAll]
    exact and_iff_right trivial
  have light := Descriptor.weightAll_flatten_lt id intersectees
  have inside := List.Subset.trans (Descriptor.reachedAll_flatten_subset intersectees) below
  unfold IsDecidedByNodes
  rw [compilable_iff_step, toFlat]
  change (∃ g, (Intersection.resolve c intersectees).run c.eventually = .ok g) ↔ _
  unfold Intersection.resolve
  -- only what is left when nested intersections dissolve matters from here on
  generalize Intersection.flatten intersectees = types at light inside ⊢
  have eachDecided : ∀ t ∈ types, c.IsDecidedByNodes t := by
    intro t mem
    refine decided t (Nat.lt_of_le_of_lt (Descriptor.weight_le_weightAll mem) light) ?_
    intro s reached
    exact inside (Descriptor.mem_reachedAll.mpr ⟨t, mem, t.reachedFrom_subset reached⟩)
  have insideParts : ∀ t ∈ types, ∀ part ∈ t.shape.parts, part.reached ⊆ nodes := by
    intro t mem part among s reached
    have below := Shape.reached_subset_of_mem_parts among reached
    exact inside (Descriptor.mem_reachedAll.mpr ⟨t, mem, t.reachedFrom_subset below⟩)
  split
  case h_1 => exact ⟨fun _ => nofun, fun _ => ⟨_, rfl⟩⟩
  case h_2 only =>
    rw [Plan.exists_run_wrap, supportsAll_reachedAll, List.forall_mem_singleton]
    simp only [Plan.run_generatorOf]
    rw [← compilable_iff_eventually]
    exact eachDecided only List.mem_cons_self
  case h_3 notNil notOne =>
    have two := Intersection.two_le_length notNil notOne
    rw [Plan.exists_run_wrap]
    -- the three ways in which several types can be drawn, in the order in which they are tried
    by_cases records : ∀ t ∈ types, t.IsRecord
    · rw [Intersection.candidate_of_records records]
      refine mergeRecords_decided records fun entry merged => decided _ ?_ ?_
      · exact Nat.lt_trans (Intersection.weight_fieldType_lt records two merged) light
      · exact List.Subset.trans (Intersection.reachedFrom_fieldType_subset merged) inside
    by_cases unions : ∀ t ∈ types, t.tag = .union
    · rw [Intersection.candidate_of_unions notNil unions]
      refine flattenUnions_decided unions (own.of_subset ?_) fun t mem part among => decided _ ?_ ?_
      · intro a pooled
        obtain ⟨t, mem, among⟩ := List.mem_flatMap.mp pooled
        exact insideParts t mem a (Intersection.alternativesOf_subset_parts t among)
          a.self_mem_reached
      · have lighter : part.weight < t.weight := by
          cases t
          exact Descriptor.weight_lt_of_mem_parts among
        have known := Descriptor.weight_le_weightAll mem
        omega
      · exact fun s reached => insideParts t mem part among (part.reachedFrom_subset reached)
    · push Not at records unions
      rw [Intersection.candidate_of_others noRules noTagged records unions]
      exact generic_decided notNil eachDecided

/-- With nothing registered for intersections, a type compiles exactly if all nodes reached from it
are supported, as long as identities tell its parts apart. -/
theorem compilable_iff (noRules : c.customRules = []) (noTagged : c.customIntersections = [])
    {nodes : List Descriptor} (own : Intersection.HaveOwnIds nodes) :
    ∀ t : Descriptor, Descriptor.reachedFrom t.shape ⊆ nodes → c.IsDecidedByNodes t
  | .node id shape, below => by
    have decided : ∀ s : Descriptor, s.weight < (Descriptor.node id shape).weight →
        Descriptor.reachedFrom s.shape ⊆ nodes → c.IsDecidedByNodes s :=
      fun s _ => compilable_iff noRules noTagged own s
    by_cases plain : shape.tag = .intersect
    · obtain ⟨intersectees, rfl⟩ := Shape.tag_eq_intersect.mp plain
      exact intersect_decided noRules noTagged own below decided
    · unfold IsDecidedByNodes
      rw [compilable_node plain, supportsAll_reached]
      refine and_congr_right fun _ => forall₂_congr fun part mem => ?_
      refine decided part (Descriptor.weight_lt_of_mem_parts mem) fun s reached => below ?_
      exact Shape.reached_subset_of_mem_parts mem (part.reachedFrom_subset reached)
termination_by t => t.weight

/-- With nothing registered for intersections, records can be merged exactly if each of them
compiles. -/
theorem exists_makes_mergeRecords (noRules : c.customRules = [])
    (noTagged : c.customIntersections = []) {types : List Descriptor}
    (own : Intersection.HaveOwnIds (Descriptor.reachedAll types))
    (records : ∀ t ∈ types, t.IsRecord) :
    (∃ m, c.Makes (Intersection.mergeRecords types) m) ↔ ∀ t ∈ types, c.Compilable t := by
  have decided := compilable_iff noRules noTagged own
  have ofFields : ∀ entry ∈ Intersection.fieldDecls types,
      c.IsDecidedByNodes (Intersection.fieldType entry.2.types) :=
    fun entry merged => decided _ (Intersection.reachedFrom_fieldType_subset merged)
  simp only [makes_iff]
  rw [mergeRecords_decided records ofFields, supportsAll_reachedAll]
  refine forall₂_congr fun t mem => (decided t fun s reached => ?_).symm
  exact Descriptor.mem_reachedAll.mpr ⟨t, mem, t.reachedFrom_subset reached⟩

end Compiler

end Specimen
