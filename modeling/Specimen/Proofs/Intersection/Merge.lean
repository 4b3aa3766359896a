import Mathlib.Data.List.Induction
import Specimen.Compiler.Compile
import Specimen.Proofs.Compiler.Tables
import Specimen.Proofs.Fields

/-!
# Merged fields

What the merge of records says of a field is what the records say of it: its types are those it is
declared with, in order, and it is required when a record declares it (`mem_fieldDecls`). All types
of all fields together weigh less than the records, which is why compiling the merge ends although
it makes intersections that stand nowhere in a descriptor (`weight_fieldType_lt`).
-/

namespace Specimen

namespace Descriptor

theorem weight_le_weightAll {t : Descriptor} {types : List Descriptor} (mem : t ∈ types) :
    t.weight ≤ weightAll types := by
  induction types with
  | nil => cases mem
  | cons head rest ih =>
    rw [weightAll]
    rcases List.mem_cons.mp mem with rfl | mem
    · omega
    · have := ih mem
      omega

theorem weight_le_weightFields {field : String × Descriptor}
    {fields : List (String × Descriptor)} (mem : field ∈ fields) :
    field.2.weight ≤ weightFields fields := by
  induction fields with
  | nil => cases mem
  | cons head rest ih =>
    rw [weightFields]
    rcases List.mem_cons.mp mem with rfl | mem
    · omega
    · have := ih mem
      omega

theorem weightAll_append (types others : List Descriptor) :
    weightAll (types ++ others) = weightAll types + weightAll others := by
  induction types with
  | nil => simp [weightAll]
  | cons head rest ih => simp [weightAll, ih, Nat.add_assoc]

theorem weightAll_le_of_sublist {types others : List Descriptor} (sub : types.Sublist others) :
    weightAll types ≤ weightAll others := by
  induction sub with
  | slnil => exact Nat.le_refl 0
  | cons t _ ih => rw [weightAll]; omega
  | cons_cons t _ ih => rw [weightAll, weightAll]; omega

theorem weightFields_eq (fields : List (String × Descriptor)) :
    weightFields fields = weightAll (fields.map Prod.snd) := by
  induction fields with
  | nil => rfl
  | cons field rest ih => rw [weightFields, ih, List.map_cons, weightAll]

/-- Whether a descriptor is a record or a partial record. -/
def IsRecord (t : Descriptor) : Prop := t.tag = .record ∨ t.tag = .partialRecord

end Descriptor

namespace Intersection

/-! ## Declarations -/

/-- A declaration of a field, and whether it is a record that declares it. -/
structure Declaration where
  name : String
  type : Descriptor
  required : Bool

/-- The declarations that a record or a partial record makes. -/
def declarations (t : Descriptor) : List Declaration :=
  match t.shape with
  | .record fields => fields.map fun field => ⟨field.1, field.2, true⟩
  | .partialRecord fields => fields.map fun field => ⟨field.1, field.2, false⟩
  | _ => []

/-- What declarations say of a field. -/
def declsOf (made : List Declaration) (name : String) : FieldDecls :=
  let here := made.filter fun declaration => declaration.name == name
  ⟨here.map Declaration.type, here.any Declaration.required⟩

/-- One more declaration among the merged ones. -/
private def declare (merged : List (String × FieldDecls)) (declaration : Declaration) :
    List (String × FieldDecls) :=
  declareField declaration.required merged (declaration.name, declaration.type)

private theorem fieldDecls_eq (types : List Descriptor) :
    fieldDecls types = (types.flatMap declarations).foldl declare [] := by
  unfold fieldDecls
  rw [List.foldl_flatMap]
  refine congrArg (fun step => types.foldl step []) (funext fun merged => funext fun t => ?_)
  obtain ⟨id, shape⟩ := t
  cases shape with
  | record fields =>
    change fields.foldl (declareField true) merged = (fields.map fun field =>
      (⟨field.1, field.2, true⟩ : Declaration)).foldl declare merged
    rw [List.foldl_map]
    rfl
  | partialRecord fields =>
    change fields.foldl (declareField false) merged = (fields.map fun field =>
      (⟨field.1, field.2, false⟩ : Declaration)).foldl declare merged
    rw [List.foldl_map]
    rfl
  | _ => rfl

private theorem declsOf_append (made : List Declaration) (last : Declaration) (name : String) :
    declsOf (made ++ [last]) name =
      if last.name = name then
        ⟨(declsOf made name).types ++ [last.type], (declsOf made name).required || last.required⟩
      else declsOf made name := by
  unfold declsOf
  rw [List.filter_append]
  split
  case isTrue same => simp [same]
  case isFalse apart => simp [apart]

/-- Where nothing declares a field, nothing is said of it. -/
private theorem declsOf_of_types_nil {made : List Declaration} {name : String}
    (none : (declsOf made name).types = []) : declsOf made name = ⟨[], false⟩ := by
  unfold declsOf at none ⊢
  rw [List.map_eq_nil_iff] at none
  rw [none]
  rfl

/-- The induction is on the declarations from the last one back, as the last was merged last. -/
private theorem foldl_declare (made : List Declaration) :
    (Fields.keys (made.foldl declare [])).Nodup ∧
      ∀ name, Fields.get? (made.foldl declare []) name =
        if (declsOf made name).types = [] then none else some (declsOf made name) := by
  induction made using List.reverseRecOn with
  | nil => exact ⟨List.nodup_nil, fun name => rfl⟩
  | append_singleton made last ih =>
    obtain ⟨nodup, ih⟩ := ih
    have known : (Fields.get? (made.foldl declare []) last.name).getD ⟨[], false⟩ =
        declsOf made last.name := by
      rw [ih]
      split
      case isTrue none => exact (declsOf_of_types_nil none).symm
      case isFalse => rfl
    rw [List.foldl_append, List.foldl_cons, List.foldl_nil, declare, declareField, known]
    refine ⟨Fields.keys_put_nodup nodup, fun name => ?_⟩
    rw [Fields.get?_put, declsOf_append]
    split
    case isTrue same =>
      subst same
      rw [if_neg (List.append_ne_nil_of_right_ne_nil _ (List.cons_ne_nil _ _))]
    case isFalse apart => exact ih name

/-- Each merged field is one that is declared, with all that is declared of it. -/
theorem mem_fieldDecls {types : List Descriptor} {name : String} {decls : FieldDecls} :
    (name, decls) ∈ fieldDecls types ↔
      decls = declsOf (types.flatMap declarations) name ∧ decls.types ≠ [] := by
  obtain ⟨nodup, read⟩ := foldl_declare (types.flatMap declarations)
  rw [fieldDecls_eq]
  constructor
  · intro mem
    have found := Fields.get?_of_mem nodup mem
    rw [read] at found
    split at found
    · cases found
    · cases found
      exact ⟨rfl, by assumption⟩
  · rintro ⟨rfl, some⟩
    exact Fields.mem_of_get? ((read name).trans (if_neg some))

theorem fieldDecls_nodup (types : List Descriptor) : (Fields.keys (fieldDecls types)).Nodup := by
  rw [fieldDecls_eq]
  exact (foldl_declare _).1

/-- The names of declared fields, each where it is declared first. -/
def declaredNames (types : List Descriptor) : List String :=
  ((types.flatMap declarations).map Declaration.name).eraseDups

/-- Merged fields stand in the order in which they are declared first. -/
theorem keys_fieldDecls (types : List Descriptor) :
    Fields.keys (fieldDecls types) = declaredNames types := by
  rw [fieldDecls_eq, declaredNames]
  induction types.flatMap declarations using List.reverseRecOn with
  | nil => rfl
  | append_singleton made last ih =>
    rw [List.foldl_append, List.foldl_cons, List.foldl_nil, List.map_append, List.map_singleton,
      eraseDups_concat, declare, declareField]
    split
    case isTrue known =>
      rw [Fields.keys_put_of_mem, ih]
      rw [ih, List.mem_eraseDups]
      exact List.contains_iff_mem.mp known
    case isFalse new =>
      rw [Fields.put_of_notMem, Fields.keys, List.map_append, ← Fields.keys, ih]
      · rfl
      · rw [ih, List.mem_eraseDups]
        exact fun mem => new (List.contains_iff_mem.mpr mem)

/-- Fields that are declared once each are merged as they are declared. -/
theorem fieldDecls_of_nodup {types : List Descriptor}
    (once : ((types.flatMap declarations).map Declaration.name).Nodup) :
    fieldDecls types = (types.flatMap declarations).map fun declaration =>
      (declaration.name, ⟨[declaration.type], declaration.required⟩) := by
  rw [fieldDecls_eq]
  generalize types.flatMap declarations = made at once
  induction made using List.reverseRecOn with
  | nil => rfl
  | append_singleton made last ih =>
    rw [List.map_append, List.nodup_append] at once
    obtain ⟨once, _, apart⟩ := once
    have new : last.name ∉ Fields.keys (made.foldl declare []) := by
      rw [ih once, Fields.keys, List.map_map]
      exact fun mem => apart _ mem _ List.mem_cons_self rfl
    rw [List.foldl_append, List.foldl_cons, List.foldl_nil, declare, declareField,
      Fields.get?_of_notMem new, Fields.put_of_notMem new, ih once, List.map_append]
    rfl

/-- The types of merged fields are the types that fields are declared with. -/
theorem exists_mem_fieldDecls {types : List Descriptor} {t : Descriptor} :
    (∃ entry ∈ fieldDecls types, t ∈ entry.2.types) ↔
      ∃ declaration ∈ types.flatMap declarations, declaration.type = t := by
  constructor
  · rintro ⟨⟨name, decls⟩, mem, among⟩
    obtain ⟨rfl, _⟩ := mem_fieldDecls.mp mem
    obtain ⟨declaration, made, same⟩ := List.mem_map.mp among
    exact ⟨declaration, (List.mem_filter.mp made).1, same⟩
  · rintro ⟨declaration, made, rfl⟩
    have among : declaration.type ∈
        (declsOf (types.flatMap declarations) declaration.name).types := by
      refine List.mem_map.mpr ⟨declaration, List.mem_filter.mpr ⟨made, ?_⟩, rfl⟩
      exact beq_self_eq_true _
    exact ⟨(declaration.name, _), mem_fieldDecls.mpr ⟨rfl, List.ne_nil_of_mem among⟩, among⟩

/-! ## Weights -/

/-- A record weighs one more than what it declares. -/
private theorem weightAll_declarations {t : Descriptor} (record : t.IsRecord) :
    Descriptor.weightAll ((declarations t).map Declaration.type) + 1 = t.weight := by
  obtain ⟨id, shape⟩ := t
  cases shape with
  | record fields =>
    rw [Descriptor.weight, Descriptor.shapeWeight, Descriptor.weightFields_eq]
    simp [declarations, Descriptor.shape, Function.comp_def]
  | partialRecord fields =>
    rw [Descriptor.weight, Descriptor.shapeWeight, Descriptor.weightFields_eq]
    simp [declarations, Descriptor.shape, Function.comp_def]
  | _ => rcases record with other | other <;> cases other

private theorem weightAll_flatMap {types : List Descriptor} (records : ∀ t ∈ types, t.IsRecord) :
    Descriptor.weightAll ((types.flatMap declarations).map Declaration.type) + types.length =
      Descriptor.weightAll types := by
  induction types with
  | nil => rfl
  | cons t rest ih =>
    obtain ⟨head, tail⟩ := List.forall_mem_cons.mp records
    rw [List.flatMap_cons, List.map_append, Descriptor.weightAll_append, List.length_cons,
      Descriptor.weightAll, ← weightAll_declarations head, ← ih tail]
    omega

/-- The type of a merged field weighs less than an intersection of the records, also where it is an
intersection that merging made. -/
theorem weight_fieldType_lt {types : List Descriptor} {entry : String × FieldDecls}
    (records : ∀ t ∈ types, t.IsRecord) (two : 2 ≤ types.length)
    (mem : entry ∈ fieldDecls types) :
    (fieldType entry.2.types).weight < Descriptor.weightAll types := by
  obtain ⟨name, decls⟩ := entry
  obtain ⟨rfl, _⟩ := mem_fieldDecls.mp mem
  have sub : (declsOf (types.flatMap declarations) name).types.Sublist
      ((types.flatMap declarations).map Declaration.type) :=
    List.filter_sublist.map Declaration.type
  have less := Descriptor.weightAll_le_of_sublist sub
  have all := weightAll_flatMap records
  dsimp only
  unfold fieldType
  split
  case h_1 only single =>
    rw [single, Descriptor.weightAll, Descriptor.weightAll] at less
    omega
  case h_2 several _ =>
    rw [Descriptor.weight, Descriptor.shapeWeight]
    omega

end Intersection

end Specimen
