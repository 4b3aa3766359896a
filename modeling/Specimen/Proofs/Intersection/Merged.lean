import Specimen.Proofs.Compiler.Memoryless
import Specimen.Proofs.Descriptor.Guard

/-!
# What merged records draw

A draw of merged records has one member for each merged field, drawn by itself (`of_mergeRecords`,
and `draws_mergeRecords` for the converse, where no two fields share a tape). Each member is
accepted by all types that its field is declared with, so the whole is accepted by all records: the
filter behind the merge rejects nothing (`guardAll_of_mergeRecords`).
-/

namespace Specimen

namespace Intersection

variable {compile : Descriptor → Compiled} {types : List Descriptor} {m : Generator} {v w : Value}

/-! ## One field -/

section Field

variable {name : String} {decls : FieldDecls} {source : Generator}

/-- A merged field is drawn from its type and accepted by all declared types, or may be left out. -/
theorem of_merged (drawn : (merged name decls source).Draws w) :
    (source.Draws w ∧ Descriptor.guardAll decls.types w = true) ∨
      (decls.required = false ∧ w = .undefined) := by
  cases required : decls.required with
  | true =>
    rw [merged_of_required required] at drawn
    exact .inl (Generator.Draws.of_filtered drawn)
  | false =>
    rw [merged_of_optional required] at drawn
    rcases Generator.Draws.of_optional drawn with drawn | absent
    · exact .inl (Generator.Draws.of_filtered drawn)
    · exact .inr ⟨rfl, absent⟩

/-- What a merged field draws: what its source draws and all its types accept, or nothing at all if
no record requires it. -/
theorem draws_merged :
    (merged name decls source).Draws w ↔
      (source.Draws w ∧ Descriptor.guardAll decls.types w = true) ∨
        (decls.required = false ∧ w = .undefined) := by
  refine ⟨of_merged, fun either => ?_⟩
  have filtered : ∀ label, source.Draws w ∧ Descriptor.guardAll decls.types w = true →
      (guarded source label decls.types).Draws w :=
    fun _ => Generator.draws_filtered.mpr
  cases required : decls.required with
  | true =>
    rw [merged_of_required required]
    rcases either with drawn | ⟨optional, _⟩
    · exact filtered _ drawn
    · cases required.symm.trans optional
  | false =>
    rw [merged_of_optional required]
    exact Generator.draws_optional.mpr (either.imp (filtered _) And.right)

/-- Filters and options add no tapes. -/
theorem tapes_merged : (merged name decls source).tapes = source.tapes := by
  unfold merged
  dsimp only
  split
  · rfl
  · exact Generator.tapes_optional _

end Field

/-! ## All fields -/

/-- The fields that no record declares. -/
def optionalNames (types : List Descriptor) : List String :=
  ((fieldDecls types).filter fun entry => !entry.2.required).map Prod.fst

/-- A member stands under the name of a merged field, and was drawn for it. -/
def MemberMerged (compile : Descriptor → Compiled) (entry : String × FieldDecls)
    (member : String × Value) : Prop :=
  member.1 = entry.1 ∧ ∃ source, compile (fieldType entry.2.types) = .ok source ∧
    (merged entry.1 entry.2 source).Draws member.2

theorem keys_of_memberMerged {members : List (String × Value)}
    (each : List.Forall₂ (MemberMerged compile) (fieldDecls types) members) :
    Fields.keys members = Fields.keys (fieldDecls types) :=
  (each.map_eq fun _ _ merges => merges.1.symm).symm

/-- A merged record names each field once, however many records declare it. -/
theorem nodup_of_memberMerged {members : List (String × Value)}
    (each : List.Forall₂ (MemberMerged compile) (fieldDecls types) members) :
    (Fields.keys members).Nodup :=
  keys_of_memberMerged each ▸ fieldDecls_nodup types

theorem of_mergeRecords (made : (mergeRecords types).run compile = .ok m) (drawn : m.Draws v) :
    ∃ members, List.Forall₂ (MemberMerged compile) (fieldDecls types) members ∧
      v = Generator.withoutAbsent (optionalNames types) (.object members) := by
  obtain ⟨_, fields, merges, rfl⟩ := run_mergeRecords.mp made
  obtain ⟨_, full, rfl⟩ := Generator.Draws.of_mapped drawn
  obtain ⟨members, rfl, each⟩ := Generator.Draws.of_recordOf full
  have together : List.Forall₂ (MemberMerged compile) (fieldDecls types) members := by
    refine (merges.comp each).imp ?_
    rintro entry member ⟨field, ⟨named, source, compiled, same⟩, also, drawn⟩
    exact ⟨also.trans named, source, compiled, same ▸ drawn⟩
  refine ⟨members, together, ?_⟩
  rw [Fields.ofPairs_of_nodup (nodup_of_memberMerged together)]
  rfl

/-- No tape stands in what two merged fields compile to. -/
def FieldsApart (compile : Descriptor → Compiled) (types : List Descriptor) : Prop :=
  (fieldDecls types).Pairwise fun one other => ∀ g h,
    compile (fieldType one.2.types) = .ok g → compile (fieldType other.2.types) = .ok h →
      g.tapes.Disjoint h.tapes

/-- Where no tape stands anywhere, fields are apart. -/
theorem fieldsApart_of_tapeless (tapeless : ∀ t g, compile t = .ok g → g.isTapeless = true) :
    FieldsApart compile types := by
  refine List.pairwise_of_forall_mem_list fun one _ other _ g h compiled _ => ?_
  rw [Generator.tapes_of_isTapeless (tapeless _ g compiled)]
  exact List.disjoint_nil_left _

theorem apart_of_fieldsApart {fields : List (String × Generator)}
    (apart : FieldsApart compile types)
    (merges : List.Forall₂ (FieldMerged compile) (fieldDecls types) fields) :
    Generator.Apart (fields.map Prod.snd) := by
  refine List.pairwise_map.mpr (merges.pairwise ?_ apart)
  rintro one field other field' ⟨_, g, compiled, same⟩ ⟨_, h, compiled', same'⟩ disjoint
  rw [same, same', tapes_merged, tapes_merged]
  exact disjoint g h compiled compiled'

/-- Where no two fields share a tape, whatever the fields draw is drawn together. -/
theorem draws_mergeRecords (apart : FieldsApart compile types)
    (made : (mergeRecords types).run compile = .ok m) :
    m.Draws v ↔ ∃ members, List.Forall₂ (MemberMerged compile) (fieldDecls types) members ∧
      v = Generator.withoutAbsent (optionalNames types) (.object members) := by
  refine ⟨of_mergeRecords made, ?_⟩
  rintro ⟨members, together, rfl⟩
  obtain ⟨_, fields, merges, rfl⟩ := run_mergeRecords.mp made
  have each : List.Forall₂ Generator.Draws.Member fields members := by
    refine (merges.flip.comp together).imp ?_
    rintro field member ⟨entry, ⟨named, source, compiled, same⟩, also, other, compiled', drawn⟩
    cases compiled.symm.trans compiled'
    exact ⟨also.trans named.symm, same ▸ drawn⟩
  refine Generator.draws_mapped.mpr
    ⟨_, (Generator.draws_recordOf (apart_of_fieldsApart apart merges)).mpr ⟨members, each, rfl⟩, ?_⟩
  rw [Fields.ofPairs_of_nodup (nodup_of_memberMerged together)]
  rfl

/-! ## The whole -/

/-- A member that is left out for being undefined reads as undefined. -/
theorem member_withoutAbsent {members : List (String × Value)} (nodup : (Fields.keys members).Nodup)
    (names : List String) (name : String) :
    (Generator.withoutAbsent names (.object members)).member name =
      (Value.object members).member name := by
  have sub : ∀ keep, (Fields.keys (members.filter keep)).Nodup := fun keep =>
    nodup.sublist (List.filter_sublist.map Prod.fst)
  unfold Generator.withoutAbsent Value.member
  dsimp only
  cases found : Fields.get? members name with
  | none =>
    rw [Fields.get?_of_notMem fun mem => ?_]
    obtain ⟨⟨_, w⟩, left, rfl⟩ := List.mem_map.mp mem
    cases found.symm.trans (Fields.get?_of_mem nodup (List.mem_filter.mp left).1)
  | some w =>
    have listed := Fields.mem_of_get? found
    cases absent : w.isUndefined && names.contains name with
    | false =>
      rw [Fields.get?_of_mem (sub _) (List.mem_filter.mpr ⟨listed, by rw [absent]; rfl⟩)]
    | true =>
      rw [Fields.get?_of_notMem fun mem => ?_]
      · cases w with
        | undefined => rfl
        | _ => cases absent
      · obtain ⟨⟨_, u⟩, left, rfl⟩ := List.mem_map.mp mem
        obtain ⟨among, kept⟩ := List.mem_filter.mp left
        cases found.symm.trans (Fields.get?_of_mem nodup among)
        rw [absent] at kept
        cases kept

/-- What is drawn for a declared field is accepted by the declared type, unless no record declares the
field and it is left out. -/
theorem exists_member_of_declared {members : List (String × Value)}
    (each : List.Forall₂ (MemberMerged compile) (fieldDecls types) members) {t : Descriptor}
    (mem : t ∈ types) (declaration : Declaration) (made : declaration ∈ declarations t) :
    ∃ w, (declaration.name, w) ∈ members ∧
      (declaration.type.guard w = true ∨ (declaration.required = false ∧ w = .undefined)) := by
  have listed : declaration ∈ types.flatMap declarations := List.mem_flatMap.mpr ⟨t, mem, made⟩
  have here : declaration ∈ (types.flatMap declarations).filter
      fun other => other.name == declaration.name :=
    List.mem_filter.mpr ⟨listed, beq_self_eq_true _⟩
  have typed : declaration.type ∈ (declsOf (types.flatMap declarations) declaration.name).types :=
    List.mem_map_of_mem here
  have entry := mem_fieldDecls.mpr ⟨rfl, List.ne_nil_of_mem typed⟩
  obtain ⟨⟨name, w⟩, among, rfl, source, _, drawn⟩ := each.exists_of_mem_left entry
  refine ⟨w, among, ?_⟩
  rcases of_merged drawn with ⟨_, accepted⟩ | ⟨optional, absent⟩
  · exact .inl (Descriptor.guardAll_eq_true.mp accepted _ typed)
  · refine .inr ⟨Bool.eq_false_iff.mpr fun required => ?_, absent⟩
    exact List.any_eq_false.mp optional declaration here required

/-- The filter behind a merge has nothing to reject. -/
theorem guardAll_of_mergeRecords (made : (mergeRecords types).run compile = .ok m)
    (drawn : m.Draws v) : Descriptor.guardAll types v = true := by
  obtain ⟨records, _⟩ := run_mergeRecords.mp made
  obtain ⟨members, each, rfl⟩ := of_mergeRecords made drawn
  refine Descriptor.guardAll_eq_true.mpr fun t mem => ?_
  have nodup := nodup_of_memberMerged each
  have declared := exists_member_of_declared each mem
  obtain ⟨id, shape⟩ := t
  cases shape with
  | record fields =>
    refine Descriptor.guardRequired_eq_true.mpr fun field among => ?_
    obtain ⟨w, drawn, either⟩ := declared _ (List.mem_map_of_mem among)
    change field.2.guard ((Generator.withoutAbsent _ (.object members)).member field.1) = true
    rw [member_withoutAbsent nodup, Value.member, Fields.get?_of_mem nodup drawn]
    rcases either with accepted | ⟨optional, _⟩
    · exact accepted
    · cases optional
  | partialRecord fields =>
    refine Descriptor.guardOptional_eq_true.mpr fun field among w found => ?_
    have kept := (List.mem_filter.mp (Fields.mem_of_get? found)).1
    obtain ⟨u, drawn, either⟩ := declared _ (List.mem_map_of_mem among)
    cases (Fields.get?_of_mem nodup kept).symm.trans (Fields.get?_of_mem nodup drawn)
    rcases either with accepted | ⟨_, absent⟩
    · exact .inr accepted
    · exact .inl absent
  | _ => rcases records _ mem with other | other <;> cases other

end Intersection

end Specimen
