import Specimen.Proofs.Compiler.Soundness
import Specimen.Proofs.Intersection.Merged
import Specimen.Proofs.Intersection.Outcome

/-!
# Records that share no field

Where no field is declared twice, an intersection of records and partial records draws what one
record of all fields would, each field drawn by its own generator and nothing rejected besides
(`exists_ownRecord`). The guards are still there, that of the intersection and one for each field,
but what they ask is what each generator draws anyway.
-/

namespace Specimen

namespace Intersection

variable {c : Compiler} {types : List Descriptor} {g m : Generator}

/-- The fields of a declaration and of the generator of its type: what is declared by partial
records alone may be left out. -/
def ownField (field : Declaration × Generator) : String × Generator :=
  (field.1.name, if field.1.required then field.2 else Generator.optional field.2)

/-- A record of declared fields, each drawn by a generator of its own. -/
def ownRecord (fields : List (Declaration × Generator)) : Generator :=
  Generator.dropAbsent (.recordOf (fields.map ownField))
    ((fields.filter fun field => !field.1.required).map fun field => field.1.name)

/-- A field is drawn like a declared one by the generator of its type. -/
def DrawnAlone (c : Compiler) (declaration : Declaration) (field : String × Generator) : Prop :=
  ∃ source, c.Compiles declaration.type source ∧ field.1 = declaration.name ∧
    field.2.draw.Alike (ownField (declaration, source)).2.draw

/-- The names that are left out where they are undefined. -/
private def namesLeftOut (made : List Declaration) : List String :=
  (made.filter fun declaration => !declaration.required).map Declaration.name

/-- Fields that are drawn alone make a record of their own. -/
theorem exists_fields_of_drawnAlone {made : List Declaration} {fields : List (String × Generator)}
    (each : List.Forall₂ (DrawnAlone c) made fields) :
    ∃ own, own.map Prod.fst = made ∧ (∀ field ∈ own, c.Compiles field.1.type field.2) ∧
      (Generator.dropAbsent (.recordOf fields) (namesLeftOut made)).draw.Alike
        (ownRecord own).draw := by
  obtain ⟨own, first, compiles, alike⟩ : ∃ own : List (Declaration × Generator),
      own.map Prod.fst = made ∧ (∀ field ∈ own, c.Compiles field.1.type field.2) ∧
        List.Forall₂ (fun field other => field.1 = other.1 ∧ field.2.draw.Alike other.2.draw)
          fields (own.map ownField) := by
    induction each with
    | nil => exact ⟨[], rfl, nofun, .nil⟩
    | @cons declaration _ _ _ head _ ih =>
      obtain ⟨source, compiles, named, alike⟩ := head
      obtain ⟨own, first, others, rest⟩ := ih
      exact ⟨(declaration, source) :: own, congrArg _ first,
        List.forall_mem_cons.mpr ⟨compiles, others⟩, .cons ⟨named, alike⟩ rest⟩
  refine ⟨own, first, compiles, ?_⟩
  have names : (own.filter fun field => !field.1.required).map (fun field => field.1.name) =
      namesLeftOut made := by
    rw [namesLeftOut, ← first, List.filter_map, List.map_map]
    rfl
  rw [ownRecord, names]
  exact Generator.alike_mapped _ (Generator.alike_recordOf alike)

/-! ## One record -/

/-- A record from which nothing is left out is as it is drawn. -/
theorem alike_dropAbsent_nil (source : Generator) :
    source.draw.Alike (Generator.dropAbsent source []).draw := by
  have kept : Generator.withoutAbsent [] = id := by
    funext v
    cases v with
    | object members => simp [Generator.withoutAbsent]
    | _ => rfl
  intro choices run _
  have drawn : (Generator.dropAbsent source []).draw = source.draw >>= pure := by
    rw [Generator.dropAbsent, kept]
    rfl
  rw [drawn, bind_pure]

/-- The fields of a record and those of a partial record are drawn by themselves. -/
theorem drawnAlone_of_record {t : Descriptor} (record : t.IsRecord) (compiles : c.Compiles t g) :
    ∃ fields, List.Forall₂ (DrawnAlone c) (declarations t) fields ∧
      g.draw.Alike
        (Generator.dropAbsent (.recordOf fields) (namesLeftOut (declarations t))).draw := by
  obtain ⟨id, shape⟩ := t
  rw [Compiler.compiles_iff, Compiler.eventually_eq] at compiles
  cases shape with
  | record fields =>
    obtain ⟨entries, each, rfl⟩ := Compiler.run_step_record.mp compiles
    have none : namesLeftOut (declarations (.node id (.record fields))) = [] := by
      simp [namesLeftOut, declarations, Descriptor.shape, List.filter_map, Function.comp_def]
    refine ⟨entries, List.forall₂_map_left_iff.mpr (each.imp ?_), ?_⟩
    · rintro field entry ⟨named, compiled⟩
      exact ⟨entry.2, Compiler.compiles_iff.mpr compiled, named, .refl _⟩
    · rw [none]
      exact alike_dropAbsent_nil _
  | partialRecord fields =>
    obtain ⟨entries, each, rfl⟩ := Compiler.run_step_partialRecord.mp compiles
    have names : namesLeftOut (declarations (.node id (.partialRecord fields))) =
        entries.map Prod.fst := by
      rw [namesLeftOut, ← each.map_eq (f := Prod.fst) fun _ _ compiled => compiled.1.symm]
      simp [declarations, Descriptor.shape, List.filter_map, Function.comp_def]
    refine ⟨entries.map fun entry => (entry.1, Generator.optional entry.2), ?_, ?_⟩
    · refine List.forall₂_map_left_iff.mpr (List.forall₂_map_right_iff.mpr (each.imp ?_))
      rintro field entry ⟨named, compiled⟩
      exact ⟨entry.2, Compiler.compiles_iff.mpr compiled, named, .refl _⟩
    · rw [names]
      exact .refl _
  | _ => rcases record with other | other <;> cases other

/-! ## Several records -/

/-- What is asked of several types is asked of their intersection. -/
theorem answers_fieldType (each : ∀ t ∈ types, c.Answers t) : c.Answers (fieldType types) := by
  unfold fieldType
  split
  case h_1 only => exact each only List.mem_cons_self
  case h_2 => exact .of_parts rfl rfl nofun nofun each

/-- The guard of a field that is declared once asks for what its generator draws. -/
theorem alike_merged {declaration : Declaration} {source : Generator}
    (accepts : ∀ v, source.Draws v → declaration.type.guard v = true) :
    (merged declaration.name ⟨[declaration.type], declaration.required⟩ source).draw.Alike
      (ownField (declaration, source)).2.draw := by
  have idle : (guarded source ("field `" ++ declaration.name ++ "` rejected")
      [declaration.type]).draw.Alike source.draw :=
    alike_guarded fun v drawn =>
      Descriptor.guardAll_eq_true.mpr (List.forall_mem_singleton.mpr (accepts v drawn))
  cases required : declaration.required with
  | true =>
    rw [merged_of_required rfl, ownField, required, if_pos rfl]
    exact idle
  | false =>
    rw [merged_of_optional rfl, ownField, required, if_neg Bool.false_ne_true]
    exact Generator.alike_optional idle

/-- Fields that are declared once each are drawn by themselves. -/
theorem drawnAlone_of_mergeRecords
    (once : ((types.flatMap declarations).map Declaration.name).Nodup)
    (accepts : ∀ declaration ∈ types.flatMap declarations, ∀ source,
      c.Compiles declaration.type source → ∀ v, source.Draws v → declaration.type.guard v = true)
    (made : c.Makes (mergeRecords types) m) :
    ∃ fields, List.Forall₂ (DrawnAlone c) (types.flatMap declarations) fields ∧
      m = Generator.dropAbsent (.recordOf fields) (namesLeftOut (types.flatMap declarations)) := by
  obtain ⟨_, fields, each, rfl⟩ := run_mergeRecords.mp (Compiler.makes_iff.mp made)
  rw [fieldDecls_of_nodup once] at each ⊢
  refine ⟨fields, (List.forall₂_map_left_iff.mp each).imp_of_mem_left ?_, ?_⟩
  · rintro declaration field mem ⟨named, source, compiled, same⟩
    have compiles := Compiler.compiles_iff.mpr compiled
    exact ⟨source, compiles, named, same ▸ alike_merged (accepts declaration mem source compiles)⟩
  · rw [List.filter_map, List.map_map]
    rfl

/-- What is asked of an intersection is asked of what is left when nested ones dissolve. -/
theorem answers_of_mem_flatten {intersectees : List Descriptor} {id : Nat} {t : Descriptor}
    (answers : c.Answers (.node id (.intersect intersectees))) (mem : t ∈ flatten intersectees) :
    c.Answers t :=
  answers.of_subset fun _ below => .tail _ <| Descriptor.reachedAll_flatten_subset intersectees <|
    Descriptor.mem_reachedAll.mpr ⟨t, mem, below⟩

theorem answers_of_declared {intersectees : List Descriptor} {id : Nat} {declaration : Declaration}
    (answers : c.Answers (.node id (.intersect intersectees)))
    (made : declaration ∈ (flatten intersectees).flatMap declarations) :
    c.Answers declaration.type := by
  obtain ⟨t, mem, made⟩ := List.mem_flatMap.mp made
  exact (answers_of_mem_flatten answers mem).of_subset fun _ below => t.reachedFrom_subset
    (Shape.reached_subset_of_mem_parts (type_mem_parts made) below)

/-- An intersection of records and partial records that share no field draws what one record of all
their fields would, if the generators of the fields keep to what the types accept. -/
theorem exists_ownRecord {intersectees : List Descriptor} {id : Nat}
    (nonempty : flatten intersectees ≠ []) (records : ∀ t ∈ flatten intersectees, t.IsRecord)
    (once : (((flatten intersectees).flatMap declarations).map Declaration.name).Nodup)
    (answers : c.Answers (.node id (.intersect intersectees)))
    (compiles : c.Compiles (.node id (.intersect intersectees)) g) :
    ∃ own, own.map Prod.fst = (flatten intersectees).flatMap declarations ∧
      (∀ field ∈ own, c.Compiles field.1.type field.2) ∧ g.draw.Alike (ownRecord own).draw := by
  have each : ∀ t ∈ flatten intersectees, c.Answers t :=
    fun t => answers_of_mem_flatten answers
  suffices alone : ∃ fields,
      List.Forall₂ (DrawnAlone c) ((flatten intersectees).flatMap declarations) fields ∧
        g.draw.Alike (Generator.dropAbsent (.recordOf fields)
          (namesLeftOut ((flatten intersectees).flatMap declarations))).draw by
    obtain ⟨fields, drawn, alike⟩ := alone
    obtain ⟨own, first, compiles, alike'⟩ := exists_fields_of_drawnAlone drawn
    exact ⟨own, first, compiles, alike.trans alike'⟩
  -- a single record is compiled as it is, and several are merged; either way their guard is idle
  by_cases one : ∃ only, flatten intersectees = [only]
  · obtain ⟨only, one⟩ := one
    obtain ⟨source, compiled, rfl⟩ := (compiles_intersect_only one).mp compiles
    rw [one] at each records
    have idle : (guarded source "intersection guard" [only]).draw.Alike source.draw :=
      alike_guarded fun v drawn => Descriptor.guardAll_eq_true.mpr <|
        List.forall_mem_singleton.mpr ((each only List.mem_cons_self).accepts compiled drawn)
    obtain ⟨fields, drawn, alike⟩ :=
      drawnAlone_of_record (records only List.mem_cons_self) compiled
    rw [one, List.flatMap_singleton]
    exact ⟨fields, drawn, idle.trans alike⟩
  · have two := two_le_length nonempty fun only same => one ⟨only, same⟩
    obtain ⟨inner, made, rfl⟩ := (compiles_intersect two).mp compiles
    rw [candidate_of_records records] at made
    have idle : (guarded inner "intersection guard" (flatten intersectees)).draw.Alike inner.draw :=
      alike_guarded fun v drawn => guardAll_of_mergeRecords (Compiler.makes_iff.mp made) drawn
    obtain ⟨fields, drawn, rfl⟩ := drawnAlone_of_mergeRecords once
      (fun declaration mem source compiled v => (answers_of_declared answers mem).accepts compiled)
      made
    exact ⟨fields, drawn, idle⟩

end Intersection

end Specimen
