import Specimen.Proofs.Intersection.Rules

/-!
# What a type demands

A compiler is asked for strategies by the names of extensions and by the tags of marked constraints.
A type demands those that occur in it anywhere, the types in arguments of constraints included, and
also the types that a marked constraint refines. So it demands more than compilation is bound to come
to (`Specimen.Proofs.Descriptor.Reached`): whatever a strategy may do with the node it is handed, it
finds no other names there.

The types that intersections make on the way, out of fields and alternatives of their intersectees,
demand nothing that the intersectees do not.
-/

namespace Specimen

/-- What a compiler looks up for a type. -/
inductive Demand
  | extension (name : String)
  | mark (tag : String)
deriving DecidableEq

namespace Descriptor

/-- The mark that a tag sets; the empty tag sets none. -/
def marks (tag : String) : List Demand := if tag.isEmpty then [] else [.mark tag]

mutual

/-- The extensions and marks that occur in a type. -/
def demands : Descriptor → List Demand
  | .node _ shape => demandsFrom shape

/-- What the parts of a shape demand, and what the shape demands by itself. -/
def demandsFrom : Shape → List Demand
  | .array element => demands element
  | .constraint underlying _ _ none => demands underlying
  | .constraint underlying _ _ (some ⟨tag, _, types⟩) =>
    marks tag ++ (demands underlying ++ demandsFields types)
  | .dictionary value => demands value
  | .extension name _ _ => [.extension name]
  | .intersect intersectees => demandsAll intersectees
  | .partialRecord fields => demandsFields fields
  | .record fields => demandsFields fields
  | .tuple components => demandsAll components
  | .union alternatives => demandsAll alternatives
  | _ => []

/-- What several types demand. -/
def demandsAll : List Descriptor → List Demand
  | [] => []
  | t :: rest => demands t ++ demandsAll rest

/-- What the types of fields demand. -/
def demandsFields : List (String × Descriptor) → List Demand
  | [] => []
  | (_, t) :: rest => demands t ++ demandsFields rest

end

variable {t part : Descriptor} {types : List Descriptor} {m : Demand}

theorem mem_demandsAll : m ∈ demandsAll types ↔ ∃ t ∈ types, m ∈ t.demands := by
  induction types with
  | nil => simp [demandsAll]
  | cons t rest ih => simp [demandsAll, ih]

theorem mem_demandsFields {fields : List (String × Descriptor)} :
    m ∈ demandsFields fields ↔ ∃ field ∈ fields, m ∈ field.2.demands := by
  induction fields with
  | nil => simp [demandsFields]
  | cons field rest ih => simp [demandsFields, ih]

/-- What one of several types demands, they demand. -/
theorem demands_subset_demandsAll (mem : t ∈ types) : t.demands ⊆ demandsAll types :=
  fun _ demanded => mem_demandsAll.mpr ⟨t, mem, demanded⟩

theorem demandsAll_append (others : List Descriptor) :
    demandsAll (types ++ others) = demandsAll types ++ demandsAll others := by
  induction types with
  | nil => rfl
  | cons t rest ih => rw [List.cons_append, demandsAll, ih, demandsAll, List.append_assoc]

mutual

/-- Dissolving nested intersections keeps what is demanded, in order. -/
theorem demandsAll_flatten :
    ∀ types : List Descriptor, demandsAll (Intersection.flatten types) = demandsAll types
  | [] => rfl
  | t :: rest => by
    rw [Intersection.flatten, demandsAll_append, demandsAll_flattenOne t,
      demandsAll_flatten rest, demandsAll]

/-- Flattening changes nothing about what is demanded: an intersection demands nothing by itself. -/
theorem demandsAll_flattenOne :
    ∀ t : Descriptor, demandsAll (Intersection.flattenOne t) = t.demands
  | .node id shape => by
    cases shape with
    | intersect types => exact demandsAll_flatten types
    | _ => exact List.append_nil _

end

/-! ## Constraints -/

variable {underlying : Descriptor} {predicate : Predicate} {correction : Option Correction}
  {arguments : Option (Args Descriptor)} {args : Args Descriptor}

/-- What a marked constraint demands: its mark, and what the types do that its strategy is given. -/
theorem demands_of_marked (marked : marking arguments = some args) :
    demandsFrom (.constraint underlying predicate correction arguments) =
      .mark args.tag :: (underlying.demands ++ demandsFields args.types) := by
  obtain ⟨rfl, nonempty⟩ := Option.filter_eq_some_iff.mp marked
  obtain ⟨tag, params, types⟩ := args
  have set : marks tag = [.mark tag] := if_neg (by simpa using nonempty)
  rw [demandsFrom, set, List.singleton_append]

/-- What a constraint refines is part of what it demands, marked or not. -/
theorem demands_underlying_subset :
    underlying.demands ⊆ demandsFrom (.constraint underlying predicate correction arguments) := by
  intro m demanded
  rcases arguments with _ | ⟨_, _, types⟩
  · exact demanded
  · exact List.mem_append_right _ (List.mem_append_left _ demanded)

/-- A type that carries a tag demands it. -/
theorem demand_of_customTag {tag : String} (carried : t.customTag = some tag) :
    .mark tag ∈ t.demands := by
  obtain ⟨id, shape⟩ := t
  cases shape with
  | constraint underlying predicate correction arguments =>
    obtain ⟨args, marked, rfl⟩ := Option.map_eq_some_iff.mp carried
    rw [demands, demands_of_marked marked]
    exact List.mem_cons_self
  | _ => cases carried

/-! ## Parts -/

/-- The types that a step compiles, or looks into, demand nothing else. -/
theorem demands_subset_of_mem_parts {shape : Shape} (mem : part ∈ shape.parts) :
    part.demands ⊆ demandsFrom shape := by
  cases shape with
  | array element => cases List.mem_singleton.mp mem; exact List.Subset.refl _
  | constraint underlying predicate correction arguments =>
    cases marked : marking arguments with
    | some _ =>
      rw [Shape.parts_of_marked marked] at mem
      cases mem
    | none =>
      rw [Shape.parts_of_unmarked marked] at mem
      cases List.mem_singleton.mp mem
      exact demands_underlying_subset
  | dictionary value => cases List.mem_singleton.mp mem; exact List.Subset.refl _
  | intersect intersectees => exact demands_subset_demandsAll mem
  | partialRecord fields =>
    obtain ⟨field, among, rfl⟩ := List.mem_map.mp mem
    exact fun m demanded => mem_demandsFields.mpr ⟨field, among, demanded⟩
  | record fields =>
    obtain ⟨field, among, rfl⟩ := List.mem_map.mp mem
    exact fun m demanded => mem_demandsFields.mpr ⟨field, among, demanded⟩
  | tuple components => exact demands_subset_demandsAll mem
  | union alternatives => exact demands_subset_demandsAll mem
  | _ => cases mem

end Descriptor

namespace Intersection

variable {types : List Descriptor}

/-- A part of one of several types demands nothing that these do not. -/
theorem demands_subset_of_part {t part : Descriptor} (mem : t ∈ types)
    (made : part ∈ t.shape.parts) : part.demands ⊆ Descriptor.demandsAll types := by
  cases t
  exact List.Subset.trans (Descriptor.demands_subset_of_mem_parts made)
    (Descriptor.demands_subset_demandsAll mem)

/-- The type of a merged field demands what its declarations do, in whichever records they stand. -/
theorem demands_fieldType_subset {entry : String × FieldDecls} (merged : entry ∈ fieldDecls types) :
    (fieldType entry.2.types).demands ⊆ Descriptor.demandsAll types := by
  have declared : ∀ t ∈ entry.2.types, t.demands ⊆ Descriptor.demandsAll types := by
    intro t within
    obtain ⟨declaration, made, rfl⟩ := exists_mem_fieldDecls.mp ⟨entry, merged, within⟩
    obtain ⟨record, mem, made⟩ := List.mem_flatMap.mp made
    exact demands_subset_of_part mem (type_mem_parts made)
  unfold fieldType
  intro m demanded
  split at demanded
  case h_1 only single => exact declared only (single ▸ List.mem_cons_self) demanded
  case h_2 =>
    obtain ⟨t, within, demanded⟩ := Descriptor.mem_demandsAll.mp demanded
    exact declared t within demanded

end Intersection

end Specimen
