import Mathlib.Data.List.Nodup
import Specimen.Proofs.Fields
import Specimen.Proofs.Related
import Specimen.Value.Basic

/-!
# Values up to the order of members

Two values that differ at most in the order in which objects, at any depth, list their members
(`Reordered`). Nothing else may differ: numbers are the same numbers and items of arrays stand in the
same order.

The relation is generated by single changes, so it is an equivalence at once. Members that are named
once may be compared name by name, wherever they stand (`exists_perm_of_names`).
-/

namespace Specimen

namespace Value

/-- The same value, but for the order of members. -/
inductive Reordered : Value → Value → Prop
  | refl (v : Value) : Reordered v v
  | trans {u v w : Value} : Reordered u v → Reordered v w → Reordered u w
  /-- Members of an object in another order. -/
  | members {ms ns : List (String × Value)} : ms.Perm ns → Reordered (.object ms) (.object ns)
  /-- A change within one member. -/
  | member {before after : List (String × Value)} {name : String} {v w : Value} :
    Reordered v w →
      Reordered (.object (before ++ (name, v) :: after)) (.object (before ++ (name, w) :: after))
  /-- A change within one item. -/
  | item {before after : List Value} {v w : Value} :
    Reordered v w → Reordered (.array (before ++ v :: after)) (.array (before ++ w :: after))

variable {v w : Value}

theorem Reordered.symm (same : Reordered v w) : Reordered w v := by
  induction same with
  | refl => exact .refl _
  | trans _ _ ih ih' => exact .trans ih' ih
  | members perm => exact .members perm.symm
  | member _ ih => exact .member ih
  | item _ ih => exact .item ih

theorem Reordered.isUndefined_eq (same : Reordered v w) : v.isUndefined = w.isUndefined := by
  induction same with
  | refl => rfl
  | trans _ _ ih ih' => exact ih.trans ih'
  | members | member | item => rfl

/-- Members that are changed one by one, the ones before them having been changed. -/
private theorem reordered_append {ms ns : List (String × Value)}
    (each : Fields.Alike Reordered ms ns) :
    ∀ before, Reordered (.object (before ++ ms)) (.object (before ++ ns)) := by
  induction each with
  | nil => exact fun _ => .refl _
  | @cons m n ms ns head _ ih =>
    intro before
    obtain ⟨name, v⟩ := m
    obtain ⟨_, w⟩ := n
    obtain ⟨rfl, same⟩ := head
    refine .trans (.member same) ?_
    have rest := ih (before ++ [(name, w)])
    rwa [List.append_assoc, List.append_assoc, List.singleton_append, List.singleton_append] at rest

theorem reordered_of_alike {ms ns : List (String × Value)} (each : Fields.Alike Reordered ms ns) :
    Reordered (.object ms) (.object ns) :=
  reordered_append each []

/-- Members that are named once and found, up to reordering, among others of the same names. -/
theorem exists_perm_of_names {ms ns : List (String × Value)} (nodup : (Fields.keys ms).Nodup)
    (nodup' : (Fields.keys ns).Nodup) (names : ∀ name ∈ Fields.keys ms, name ∈ Fields.keys ns)
    (each : ∀ n ∈ ns, ∃ m ∈ ms, m.1 = n.1 ∧ Reordered m.2 n.2) :
    ∃ found, ms.Perm found ∧ Fields.Alike Reordered found ns := by
  obtain ⟨found, related⟩ := List.Forall₂.exists_iff.mpr each
  have inner : ∀ m ∈ found, m ∈ ms := fun m mem => by
    obtain ⟨n, _, among, _⟩ := related.exists_of_mem_right mem
    exact among
  have alike : Fields.Alike Reordered found ns := related.flip.imp fun _ _ same => same.2
  have nodupFound : (Fields.keys found).Nodup := alike.keys_eq ▸ nodup'
  have outer : ∀ m ∈ ms, m ∈ found := by
    intro m mem
    have named : m.1 ∈ Fields.keys found := by
      rw [alike.keys_eq]
      exact names m.1 (List.mem_map_of_mem mem)
    obtain ⟨other, among, same⟩ := List.mem_map.mp named
    have one : other = m := List.inj_on_of_nodup_map nodup (inner other among) mem same
    exact one ▸ among
  refine ⟨found, (List.perm_ext_iff_of_nodup nodup.of_map nodupFound.of_map).mpr fun m => ?_, alike⟩
  exact ⟨outer m, inner m⟩

end Value

end Specimen
