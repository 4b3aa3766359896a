import Mathlib.Data.List.Forall2
import Mathlib.Tactic.Common
import Specimen.Compiler.Intersection
import Specimen.Proofs.Fields

/-!
# Laws of guards

What the guards of lists of types say of their members, and why an intersection may be judged after
its nested intersections dissolved: the guards of the types that are left say together what the
guards of the listed types said (`guardAll_flatten`).
-/

namespace Specimen

namespace Descriptor

variable {v : Value}

/-! ## Lists of types -/

theorem guardAll_eq_true {types : List Descriptor} :
    guardAll types v = true ↔ ∀ t ∈ types, t.guard v = true := by
  induction types with
  | nil => simp [guardAll]
  | cons t rest ih => simp [guardAll, ih]

/-- A union accepts what one alternative accepts. That alternative need not be the one the value was
drawn from. -/
theorem guardAny_eq_true {types : List Descriptor} :
    guardAny types v = true ↔ ∃ t ∈ types, t.guard v = true := by
  induction types with
  | nil => simp [guardAny]
  | cons t rest ih => simp [guardAny, ih]

theorem guardAll_append (types others : List Descriptor) :
    guardAll (types ++ others) v = (guardAll types v && guardAll others v) := by
  induction types with
  | nil => simp [guardAll]
  | cons t rest ih => simp [guardAll, ih, Bool.and_assoc]

/-- A tuple accepts as many items as it has components, each in its place. -/
theorem guardEach_eq_true {components : List Descriptor} {items : List Value} :
    guardEach components items = true ↔
      List.Forall₂ (fun t item => t.guard item = true) components items := by
  induction components generalizing items with
  | nil => cases items <;> simp [guardEach]
  | cons t rest ih => cases items <;> simp [guardEach, ih]

/-- An object belongs to a record when each field's type accepts what its name reads. -/
theorem guardRequired_eq_true {fields : List (String × Descriptor)}
    {members : List (String × Value)} :
    guardRequired fields members = true ↔
      ∀ field ∈ fields, field.2.guard ((Fields.get? members field.1).getD .undefined) = true := by
  induction fields with
  | nil => simp [guardRequired]
  | cons field rest ih => simp [guardRequired, ih]

/-- An object belongs to a partial record when each field's type accepts what its name reads, unless
that is missing or undefined. -/
theorem guardOptional_eq_true {fields : List (String × Descriptor)}
    {members : List (String × Value)} :
    guardOptional fields members = true ↔
      ∀ field ∈ fields, ∀ w, Fields.get? members field.1 = some w →
        w = .undefined ∨ field.2.guard w = true := by
  induction fields with
  | nil => simp [guardOptional]
  | cons field rest ih =>
    obtain ⟨name, t⟩ := field
    simp only [guardOptional, Bool.and_eq_true, ih, List.forall_mem_cons]
    refine and_congr_left fun _ => ?_
    cases Fields.get? members name with
    | none => simp
    | some w => cases w <;> simp

/-! ## Intersections -/

mutual

/-- Laying intersections flat changes nothing about what they accept. -/
theorem guardAll_flatten :
    ∀ types : List Descriptor, guardAll (Intersection.flatten types) v = guardAll types v
  | [] => rfl
  | t :: rest => by
    rw [Intersection.flatten, guardAll_append, guardAll_flattenOne t, guardAll_flatten rest]
    rfl

/-- An intersection is as strict as its intersectees, and any other type is its own only part. -/
theorem guardAll_flattenOne :
    ∀ t : Descriptor, guardAll (Intersection.flattenOne t) v = t.guard v
  | .node id shape => by
    cases shape with
    | intersect types => exact guardAll_flatten types
    | _ => exact Bool.and_true _

end

end Descriptor

end Specimen
