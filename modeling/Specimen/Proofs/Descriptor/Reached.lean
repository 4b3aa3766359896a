import Mathlib.Data.List.Nodup
import Mathlib.Tactic.Common
import Specimen.Compiler.Intersection
import Specimen.Proofs.Value.Equality

/-!
# The nodes a descriptor is compiled through

The nodes that the built-in steps of compilation come to, from a descriptor down: through elements,
components, fields, alternatives, intersectees and dictionary values, and through what a constraint
refines unless the constraint is marked, for then its strategy decides what is compiled. What a
compiler has to be trusted with for a descriptor is asked at these nodes only.

A descriptor is tidy when its records name each field once and the values of its literals are
objects in earnest. A list of fields that repeats a name describes nothing.
-/

namespace Specimen

namespace Descriptor

mutual

/-- A descriptor and the nodes its compilation comes to. -/
def reached : Descriptor → List Descriptor
  | .node id shape => .node id shape :: reachedFrom shape

/-- The nodes below a node of a shape. -/
def reachedFrom : Shape → List Descriptor
  | .array element => reached element
  | .constraint underlying _ _ args => if (marking args).isSome then [] else reached underlying
  | .dictionary value => reached value
  | .intersect intersectees => reachedAll intersectees
  | .partialRecord fields => reachedFields fields
  | .record fields => reachedFields fields
  | .tuple components => reachedAll components
  | .union alternatives => reachedAll alternatives
  | _ => []

/-- The nodes that several types are compiled through. -/
def reachedAll : List Descriptor → List Descriptor
  | [] => []
  | t :: rest => reached t ++ reachedAll rest

/-- The nodes that the types of fields are compiled through. -/
def reachedFields : List (String × Descriptor) → List Descriptor
  | [] => []
  | (_, t) :: rest => reached t ++ reachedFields rest

end

/-- A type is compiled through itself to begin with. -/
theorem self_mem_reached (t : Descriptor) : t ∈ t.reached := by
  cases t
  exact List.mem_cons_self

theorem mem_reachedAll {s : Descriptor} {types : List Descriptor} :
    s ∈ reachedAll types ↔ ∃ t ∈ types, s ∈ t.reached := by
  induction types with
  | nil => simp [reachedAll]
  | cons t rest ih => simp [reachedAll, ih]

theorem mem_reachedFields {s : Descriptor} {fields : List (String × Descriptor)} :
    s ∈ reachedFields fields ↔ ∃ field ∈ fields, s ∈ field.2.reached := by
  induction fields with
  | nil => simp [reachedFields]
  | cons field rest ih => simp [reachedFields, ih]

theorem reachedAll_append (types others : List Descriptor) :
    reachedAll (types ++ others) = reachedAll types ++ reachedAll others := by
  induction types with
  | nil => rfl
  | cons t rest ih => rw [List.cons_append, reachedAll, ih, reachedAll, List.append_assoc]

/-- What is reached below a node is reached from it. -/
theorem reachedFrom_subset (t : Descriptor) : reachedFrom t.shape ⊆ t.reached := by
  cases t
  exact fun _ mem => .tail _ mem

mutual

/-- Dissolving nested intersections reaches nothing new. -/
theorem reachedAll_flatten_subset :
    ∀ types : List Descriptor, reachedAll (Intersection.flatten types) ⊆ reachedAll types
  | [] => List.Subset.refl _
  | t :: rest => by
    rw [Intersection.flatten, reachedAll_append, reachedAll]
    exact List.append_subset.mpr
      ⟨fun _ mem => List.mem_append_left _ (reachedAll_flattenOne_subset t mem),
        fun _ mem => List.mem_append_right _ (reachedAll_flatten_subset rest mem)⟩

/-- Flattening leaves out nodes of intersections and adds none. -/
theorem reachedAll_flattenOne_subset :
    ∀ t : Descriptor, reachedAll (Intersection.flattenOne t) ⊆ t.reached
  | .node id shape => by
    cases shape with
    | intersect types => exact fun _ mem => .tail _ (reachedAll_flatten_subset types mem)
    | _ => exact fun _ mem => (List.mem_append.mp mem).resolve_right List.not_mem_nil

end

end Descriptor

namespace Shape

/-- The types that the step for a shape compiles, or looks into. -/
def parts : Shape → List Descriptor
  | .array element => [element]
  | .constraint underlying _ _ args =>
    if (Descriptor.marking args).isSome then [] else [underlying]
  | .dictionary value => [value]
  | .intersect intersectees => intersectees
  | .partialRecord fields => fields.map Prod.snd
  | .record fields => fields.map Prod.snd
  | .tuple components => components
  | .union alternatives => alternatives
  | _ => []

theorem tag_eq_intersect {shape : Shape} :
    shape.tag = .intersect ↔ ∃ intersectees, shape = .intersect intersectees := by
  constructor
  · intro tag
    cases shape with
    | intersect intersectees => exact ⟨intersectees, rfl⟩
    | _ => cases tag
  · rintro ⟨intersectees, rfl⟩
    rfl

/-- Below a constraint that is not marked stands what it refines. -/
theorem parts_of_unmarked {underlying : Descriptor} {predicate : Predicate}
    {correction : Option Correction} {args : Option (Args Descriptor)}
    (unmarked : Descriptor.marking args = none) :
    (constraint underlying predicate correction args).parts = [underlying] := by
  rw [parts, unmarked]
  rfl

/-- Below a marked one stands nothing: what is compiled there is for its strategy to say. -/
theorem parts_of_marked {underlying : Descriptor} {predicate : Predicate}
    {correction : Option Correction} {arguments : Option (Args Descriptor)}
    {args : Args Descriptor} (marked : Descriptor.marking arguments = some args) :
    (constraint underlying predicate correction arguments).parts = [] := by
  rw [parts, marked]
  rfl

/-- What is reached from a shape is what is reached from its parts. -/
theorem mem_reachedFrom {s : Descriptor} {shape : Shape} :
    s ∈ Descriptor.reachedFrom shape ↔ ∃ part ∈ shape.parts, s ∈ part.reached := by
  cases shape with
  | array element => simp [Descriptor.reachedFrom, parts]
  | constraint underlying predicate correction args =>
    cases h : (Descriptor.marking args).isSome with
    | true => simp [Descriptor.reachedFrom, parts, h]
    | false => simp [Descriptor.reachedFrom, parts, h]
  | dictionary value => simp [Descriptor.reachedFrom, parts]
  | intersect intersectees => exact Descriptor.mem_reachedAll
  | partialRecord fields =>
    simp only [Descriptor.reachedFrom, parts, Descriptor.mem_reachedFields, List.mem_map,
      exists_exists_and_eq_and]
  | record fields =>
    simp only [Descriptor.reachedFrom, parts, Descriptor.mem_reachedFields, List.mem_map,
      exists_exists_and_eq_and]
  | tuple components => exact Descriptor.mem_reachedAll
  | union alternatives => exact Descriptor.mem_reachedAll
  | _ => simp [Descriptor.reachedFrom, parts]

/-- What is reached from a part is reached from the whole. -/
theorem reached_subset_of_mem_parts {part : Descriptor} {shape : Shape} (mem : part ∈ shape.parts) :
    part.reached ⊆ Descriptor.reachedFrom shape :=
  fun _ reached => mem_reachedFrom.mpr ⟨part, mem, reached⟩

/-! ## Tidiness -/

/-- Whether a shape names each field once, and what it holds as a value is one. -/
def isTidy : Shape → Bool
  | .literal value => value.isTidy
  | .partialRecord fields => decide (Fields.keys fields).Nodup
  | .record fields => decide (Fields.keys fields).Nodup
  | _ => true

/-- Whether a shape is no literal in which a not-a-number stands. -/
def isFreeOfNaN : Shape → Bool
  | .literal value => value.isFreeOfNaN
  | _ => true

end Shape

namespace Descriptor

/-- Whether all nodes that compilation comes to are tidy. -/
def isTidy (t : Descriptor) : Bool := t.reached.all fun s => s.shape.isTidy

/-- Whether no literal that compilation comes to has a not-a-number in it. -/
def isFreeOfNaN (t : Descriptor) : Bool := t.reached.all fun s => s.shape.isFreeOfNaN

end Descriptor

end Specimen
