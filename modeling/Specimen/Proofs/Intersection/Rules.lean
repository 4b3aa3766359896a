import Specimen.Proofs.Compiler.Step
import Specimen.Proofs.Descriptor.Reached
import Specimen.Proofs.Intersection.Merge
import Specimen.Proofs.Related

/-!
# Which rule draws an intersection, and what it makes

The kinds present decide the rule: records and partial records are merged, unions are flattened, and
without registered rules everything else is drawn by the generic way (`candidate_of_records`,
`candidate_of_unions`, `candidate_of_others`). For each way a law says when it comes to a generator
and to which one, in terms of the generators of the types it compiles.
-/

namespace Specimen

namespace Intersection

variable {c : Compiler} {compile : Descriptor → Compiled} {types : List Descriptor} {g : Generator}

/-! ## Parts -/

/-- Types of fields are parts of the record that declares them. -/
theorem type_mem_parts {t : Descriptor} {declaration : Declaration}
    (made : declaration ∈ declarations t) : declaration.type ∈ t.shape.parts := by
  obtain ⟨id, shape⟩ := t
  cases shape with
  | record fields =>
    obtain ⟨field, mem, rfl⟩ := List.mem_map.mp made
    exact List.mem_map.mpr ⟨field, mem, rfl⟩
  | partialRecord fields =>
    obtain ⟨field, mem, rfl⟩ := List.mem_map.mp made
    exact List.mem_map.mpr ⟨field, mem, rfl⟩
  | _ => cases made

/-- So are alternatives of their union. -/
theorem alternativesOf_subset_parts (t : Descriptor) : alternativesOf t ⊆ t.shape.parts := by
  obtain ⟨id, shape⟩ := t
  cases shape with
  | union alternatives => exact List.Subset.refl _
  | _ => exact List.nil_subset _

/-- What is reached from a type that a field is declared with is reached from the records. -/
theorem reached_subset_of_declared {entry : String × FieldDecls} (merged : entry ∈ fieldDecls types)
    {t : Descriptor} (declared : t ∈ entry.2.types) : t.reached ⊆ Descriptor.reachedAll types := by
  intro s reached
  obtain ⟨declaration, made, rfl⟩ := exists_mem_fieldDecls.mp ⟨entry, merged, declared⟩
  obtain ⟨record, mem, made⟩ := List.mem_flatMap.mp made
  have below := Shape.reached_subset_of_mem_parts (type_mem_parts made) reached
  exact Descriptor.mem_reachedAll.mpr ⟨record, mem, record.reachedFrom_subset below⟩

/-- Below the type of a merged field there is only what is reached from the records. -/
theorem reachedFrom_fieldType_subset {entry : String × FieldDecls}
    (merged : entry ∈ fieldDecls types) :
    Descriptor.reachedFrom (fieldType entry.2.types).shape ⊆ Descriptor.reachedAll types := by
  intro s reached
  have declared : ∃ t ∈ entry.2.types, s ∈ t.reached := by
    unfold fieldType at reached
    split at reached
    case h_1 only single =>
      exact ⟨only, single ▸ List.mem_cons_self, only.reachedFrom_subset reached⟩
    case h_2 => exact Descriptor.mem_reachedAll.mp reached
  obtain ⟨t, declared, reached⟩ := declared
  exact reached_subset_of_declared merged declared reached

theorem two_le_length (notNil : types ≠ []) (notOne : ∀ only, types ≠ [only]) :
    2 ≤ types.length := by
  match types with
  | [] => exact absurd rfl notNil
  | [only] => exact absurd rfl (notOne only)
  | _ :: _ :: _ => exact Nat.le_add_left _ _

/-! ## The rule that is taken -/

/-- A rule covers types if each is of one of its kinds; not all of its kinds have to be present. -/
theorem covers_kinds {tags : List Tag} :
    covers tags (kinds types) = true ↔ ∀ t ∈ types, t.tag ∈ tags := by
  unfold covers kinds tagSet
  simp only [List.all_eq_true, List.mem_filter, List.contains_iff_mem, List.mem_map]
  constructor
  · intro covered t mem
    exact covered t.tag ⟨by cases t.tag <;> decide, t, mem, rfl⟩
  · rintro covered _ ⟨_, t, mem, rfl⟩
    exact covered t mem

/-- Records and partial records are merged, and no rule of somebody else's comes before. -/
theorem candidate_of_records (records : ∀ t ∈ types, t.IsRecord) :
    candidate c types = mergeRecords types := by
  have covered : covers BuiltIn.mergeRecords.tags (kinds types) = true := by
    refine covers_kinds.mpr fun t mem => ?_
    rcases records t mem with isRecord | isPartial
    · rw [isRecord]; decide
    · rw [isPartial]; decide
  simp only [candidate, rules, BuiltIn.all, List.map_cons, List.cons_append, List.find?_cons,
    covered]
  rfl

/-- Types that are not all of the kinds of a rule are not drawn by it. -/
private theorem not_covered {tags : List Tag} (other : ∃ t ∈ types, t.tag ∉ tags) :
    covers tags (kinds types) = false := by
  obtain ⟨t, mem, apart⟩ := other
  exact Bool.eq_false_iff.mpr fun covered => apart (covers_kinds.mp covered t mem)

/-- Unions alone are flattened. -/
theorem candidate_of_unions (nonempty : types ≠ []) (unions : ∀ t ∈ types, t.tag = .union) :
    candidate c types = flattenUnions types := by
  have covered : covers BuiltIn.flattenUnions.tags (kinds types) = true := by
    refine covers_kinds.mpr fun t mem => ?_
    rw [unions t mem]
    decide
  have passed : covers BuiltIn.mergeRecords.tags (kinds types) = false := by
    refine not_covered ⟨types.head nonempty, List.head_mem nonempty, ?_⟩
    rw [unions _ (List.head_mem nonempty)]
    decide
  simp only [candidate, rules, BuiltIn.all, List.map_cons, List.cons_append, List.find?_cons,
    passed, covered]
  rfl

/-- With nothing registered for intersections, what is neither merged nor flattened is drawn by the
generic way: also constraints, for which no strategy is found. -/
theorem candidate_of_others (noRules : c.customRules = []) (noTagged : c.customIntersections = [])
    (notRecords : ∃ t ∈ types, ¬ t.IsRecord) (notUnions : ∃ t ∈ types, t.tag ≠ .union) :
    candidate c types = generic types := by
  have passedRecords : covers BuiltIn.mergeRecords.tags (kinds types) = false := by
    obtain ⟨t, mem, other⟩ := notRecords
    refine not_covered ⟨t, mem, fun among => other ?_⟩
    rcases List.mem_pair.mp among with isPartial | isRecord
    · exact .inr isPartial
    · exact .inl isRecord
  have passedUnions : covers BuiltIn.flattenUnions.tags (kinds types) = false := by
    obtain ⟨t, mem, other⟩ := notUnions
    exact not_covered ⟨t, mem, fun among => other (List.mem_singleton.mp among)⟩
  have undispatched : dispatch c types = generic types := by
    unfold dispatch
    rw [noTagged]
    cases customTags? types with
    | none => rfl
    | some tags => rfl
  simp only [candidate, rules, BuiltIn.all, noRules, List.map_cons, List.map_nil, List.append_nil,
    List.find?_cons, List.find?_nil, passedRecords, passedUnions]
  cases covers BuiltIn.dispatchConstraints.tags (kinds types) with
  | true => exact undispatched
  | false => rfl

/-- Two or more intersectees are drawn by the rule for them, and guarded once more. -/
theorem resolve_of_several {intersectees : List Descriptor}
    (two : 2 ≤ (flatten intersectees).length) :
    resolve c intersectees = do
      return guarded (← candidate c (flatten intersectees)) "intersection guard"
        (flatten intersectees) := by
  unfold resolve
  split
  case h_1 none => simp [none] at two
  case h_2 only one => simp [one] at two
  case h_3 => rfl

/-! ## What it makes -/

/-- The generic way compiles every type and filters what any of them draws. -/
theorem run_generic (nonempty : types ≠ []) :
    (generic types).run compile = .ok g ↔
      ∃ first others, List.Forall₂ (fun t g => compile t = .ok g) types (first :: others) ∧
        g = guarded (.oneOf first others)
          ("no draw satisfied every intersectee of `" ++ kindsLabel types ++ "`") types := by
  refine Plan.run_bind_eq_ok.trans ?_
  constructor
  · rintro ⟨gs, compiled, ran⟩
    rw [Compiler.run_mapM_generatorOf_eq_ok] at compiled
    cases gs with
    | nil => cases compiled; exact absurd rfl nonempty
    | cons first others => cases ran; exact ⟨first, others, compiled, rfl⟩
  · rintro ⟨first, others, compiled, rfl⟩
    exact ⟨first :: others, Compiler.run_mapM_generatorOf_eq_ok.mpr compiled, rfl⟩

/-- The draws of a merged field, from those of its type. -/
def merged (name : String) (decls : FieldDecls) (source : Generator) : Generator :=
  let field := guarded source ("field `" ++ name ++ "` rejected") decls.types
  if decls.required then field else Generator.optional field

theorem merged_of_required {name : String} {decls : FieldDecls} {source : Generator}
    (required : decls.required = true) :
    merged name decls source = guarded source ("field `" ++ name ++ "` rejected") decls.types := by
  rw [merged, required, if_pos rfl]

theorem merged_of_optional {name : String} {decls : FieldDecls} {source : Generator}
    (optional : decls.required = false) :
    merged name decls source =
      Generator.optional (guarded source ("field `" ++ name ++ "` rejected") decls.types) := by
  rw [merged, optional, if_neg Bool.false_ne_true]

/-- A generator stands under the name of its field, and was made of the field's type. -/
def FieldMerged (compile : Descriptor → Compiled) (entry : String × FieldDecls)
    (field : String × Generator) : Prop :=
  field.1 = entry.1 ∧ ∃ source, compile (fieldType entry.2.types) = .ok source ∧
    field.2 = merged entry.1 entry.2 source

/-- Nothing keeps records and partial records from being merged, and any other type does. -/
theorem mergeFault?_eq_none {t : Descriptor} : mergeFault? t = none ↔ t.IsRecord := by
  obtain ⟨id, shape⟩ := t
  cases shape with
  | record fields => exact iff_of_true rfl (.inl rfl)
  | partialRecord fields => exact iff_of_true rfl (.inr rfl)
  | _ => exact iff_of_false nofun (by rintro (other | other) <;> cases other)

/-- Nothing keeps a union with alternatives from being flattened. A type that is no union has none.
-/
theorem flattenFault?_eq_none {t : Descriptor} :
    flattenFault? t = none ↔ alternativesOf t ≠ [] := by
  obtain ⟨id, shape⟩ := t
  cases shape with
  | union alternatives =>
    cases alternatives with
    | nil => exact iff_of_false nofun fun filled => filled rfl
    | cons first others => exact iff_of_true rfl nofun
  | _ => exact iff_of_false nofun fun filled => filled rfl

/-- The merge takes records only, and compiles one type for each field. -/
theorem run_mergeRecords :
    (mergeRecords types).run compile = .ok g ↔
      (∀ t ∈ types, t.IsRecord) ∧
        ∃ fields, List.Forall₂ (FieldMerged compile) (fieldDecls types) fields ∧
          g = Generator.dropAbsent (.recordOf fields)
            (((fieldDecls types).filter fun entry => !entry.2.required).map Prod.fst) := by
  have each : (fun (entry : String × FieldDecls) (field : String × Generator) =>
      (mergedField entry.1 entry.2).run compile = .ok field) = FieldMerged compile := by
    funext entry field
    obtain ⟨name, source⟩ := field
    unfold mergedField FieldMerged
    rw [Plan.run_bind_eq_ok]
    simp only [Plan.run_generatorOf, Plan.run_pure, Except.ok.injEq, Prod.mk.injEq, eq_iff_iff]
    constructor
    · rintro ⟨source, compiled, rfl, rfl⟩
      exact ⟨rfl, source, compiled, rfl⟩
    · rintro ⟨rfl, source, compiled, rfl⟩
      exact ⟨source, compiled, rfl, rfl⟩
  simp only [← mergeFault?_eq_none, ← List.findSome?_eq_none_iff]
  unfold mergeRecords
  split
  case h_1 fault found => exact ⟨nofun, fun ⟨fit, _⟩ => nomatch found.symm.trans fit⟩
  case h_2 fit =>
    rw [and_iff_right fit]
    refine Plan.run_bind_eq_ok.trans (exists_congr fun fields => ?_)
    rw [Plan.run_mapM_eq_ok, ← each, Plan.run_pure, Except.ok.injEq, eq_comm]

/-- Flattening compiles every pooled alternative, if no union is empty. -/
theorem run_flattenUnions :
    (flattenUnions types).run compile = .ok g ↔
      (∀ t ∈ types, alternativesOf t ≠ []) ∧
        ∃ candidates, List.Forall₂ (fun t g => compile t = .ok g) (pool types) candidates ∧
          g = .rotated candidates "no flattened alternative satisfied every union"
            (Descriptor.guardAll types) := by
  simp only [← flattenFault?_eq_none, ← List.findSome?_eq_none_iff]
  unfold flattenUnions
  split
  case h_1 fault found => exact ⟨nofun, fun ⟨fit, _⟩ => nomatch found.symm.trans fit⟩
  case h_2 fit =>
    rw [and_iff_right fit]
    refine Plan.run_bind_eq_ok.trans (exists_congr fun candidates => ?_)
    rw [Compiler.run_mapM_generatorOf_eq_ok, Plan.run_pure, Except.ok.injEq, eq_comm]

/-! ## Whether it makes anything -/

/-- The fallback compiles exactly if every type does, though it draws from one of them at a time. -/
theorem exists_run_generic (nonempty : types ≠ []) :
    (∃ g, (generic types).run compile = .ok g) ↔ ∀ t ∈ types, ∃ g, compile t = .ok g := by
  rw [← List.Forall₂.exists_iff]
  constructor
  · rintro ⟨g, ran⟩
    obtain ⟨first, others, compiled, _⟩ := (run_generic nonempty).mp ran
    exact ⟨_, compiled⟩
  · rintro ⟨gs, compiled⟩
    cases gs with
    | nil => cases compiled; exact absurd rfl nonempty
    | cons first others => exact ⟨_, (run_generic nonempty).mpr ⟨first, others, compiled, rfl⟩⟩

/-- The merge compiles exactly if the types of each field compile as one. -/
theorem exists_run_mergeRecords (records : ∀ t ∈ types, t.IsRecord) :
    (∃ g, (mergeRecords types).run compile = .ok g) ↔
      ∀ entry ∈ fieldDecls types, ∃ g, compile (fieldType entry.2.types) = .ok g := by
  have each : ∀ entry : String × FieldDecls, (∃ field, FieldMerged compile entry field) ↔
      ∃ g, compile (fieldType entry.2.types) = .ok g := by
    intro entry
    constructor
    · rintro ⟨field, _, source, compiled, _⟩
      exact ⟨source, compiled⟩
    · rintro ⟨source, compiled⟩
      exact ⟨(entry.1, merged entry.1 entry.2 source), rfl, source, compiled, rfl⟩
  simp only [← each]
  rw [← List.Forall₂.exists_iff]
  constructor
  · rintro ⟨g, ran⟩
    obtain ⟨_, fields, made, _⟩ := run_mergeRecords.mp ran
    exact ⟨fields, made⟩
  · rintro ⟨fields, made⟩
    exact ⟨_, run_mergeRecords.mpr ⟨records, fields, made, rfl⟩⟩

/-- Unions are flattened exactly if each has an alternative, and all in the pool compile. -/
theorem exists_run_flattenUnions :
    (∃ g, (flattenUnions types).run compile = .ok g) ↔
      (∀ t ∈ types, alternativesOf t ≠ []) ∧ ∀ t ∈ pool types, ∃ g, compile t = .ok g := by
  rw [← List.Forall₂.exists_iff]
  constructor
  · rintro ⟨g, ran⟩
    obtain ⟨filled, candidates, compiled, _⟩ := run_flattenUnions.mp ran
    exact ⟨filled, candidates, compiled⟩
  · rintro ⟨filled, candidates, compiled⟩
    exact ⟨_, run_flattenUnions.mpr ⟨filled, candidates, compiled, rfl⟩⟩

/-! ## Pools -/

/-- Nodes that can be told apart by their identities, as nodes can that are numbered when they are
made. -/
def HaveOwnIds (nodes : List Descriptor) : Prop :=
  ∀ a ∈ nodes, ∀ b ∈ nodes, Descriptor.same a b = true → a = b

/-- Nodes that are told apart by their identities are so among fewer. -/
theorem HaveOwnIds.of_subset {nodes fewer : List Descriptor} (own : HaveOwnIds nodes)
    (subset : fewer ⊆ nodes) : HaveOwnIds fewer :=
  fun a ha b hb => own a (subset ha) b (subset hb)

theorem haveOwnIds_of_nodup {nodes : List Descriptor} (nodup : (nodes.map Descriptor.id).Nodup) :
    HaveOwnIds nodes :=
  fun _ ha _ hb same => List.inj_on_of_nodup_map nodup ha hb (beq_iff_eq.mp same)

private theorem mem_foldl_addToPool {t : Descriptor} {alternatives : List Descriptor} :
    ∀ {start : List Descriptor}, t ∈ alternatives.foldl addToPool start →
      t ∈ start ∨ t ∈ alternatives := by
  induction alternatives with
  | nil => exact fun mem => .inl mem
  | cons head rest ih =>
    intro start mem
    rcases ih mem with mem | mem
    · unfold addToPool at mem
      split at mem
      · exact .inl mem
      · rcases List.mem_append.mp mem with mem | mem
        · exact .inl mem
        · exact .inr (List.mem_singleton.mp mem ▸ List.mem_cons_self)
    · exact .inr (List.mem_cons_of_mem _ mem)

/-- The pool holds alternatives and nothing else. -/
theorem mem_of_mem_pool {t : Descriptor} (mem : t ∈ pool types) :
    t ∈ types.flatMap alternativesOf :=
  (mem_foldl_addToPool mem).resolve_left List.not_mem_nil

private theorem mem_foldl_addToPool_of_mem {t : Descriptor} {alternatives : List Descriptor} :
    ∀ {start : List Descriptor}, HaveOwnIds (start ++ alternatives) →
      t ∈ start ∨ t ∈ alternatives → t ∈ alternatives.foldl addToPool start := by
  induction alternatives with
  | nil => exact fun _ mem => mem.resolve_right List.not_mem_nil
  | cons head rest ih =>
    intro start own mem
    rw [List.foldl_cons]
    unfold addToPool
    split
    case isTrue known =>
      obtain ⟨seen, among, same⟩ := List.any_eq_true.mp known
      have one : seen = head :=
        own seen (List.mem_append_left _ among) head
          (List.mem_append_right _ List.mem_cons_self) same
      refine ih (own.of_subset ?_) ?_
      · exact List.append_subset.mpr ⟨List.subset_append_left _ _,
          fun a ha => List.mem_append_right _ (List.mem_cons_of_mem _ ha)⟩
      · rcases mem with mem | mem
        · exact .inl mem
        · rcases List.mem_cons.mp mem with rfl | mem
          · exact .inl (one ▸ among)
          · exact .inr mem
    case isFalse =>
      refine ih (by simpa using own) ?_
      rcases mem with mem | mem
      · exact .inl (List.mem_append_left _ mem)
      · rcases List.mem_cons.mp mem with rfl | mem
        · exact .inl (List.mem_append_right _ List.mem_cons_self)
        · exact .inr mem

/-- A pool leaves out no alternative, as long as different nodes have different identities. -/
theorem mem_pool (own : HaveOwnIds (types.flatMap alternativesOf)) {t : Descriptor} :
    t ∈ pool types ↔ t ∈ types.flatMap alternativesOf :=
  ⟨mem_of_mem_pool, fun mem => mem_foldl_addToPool_of_mem own (.inr mem)⟩

end Intersection

end Specimen
