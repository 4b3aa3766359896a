import Mathlib.Data.List.Perm.Subperm
import Specimen.Proofs.Related
import Specimen.Proofs.Value.Bridge
import Specimen.Proofs.Value.Reordered

/-!
# Equality of values

Equality of values compares numbers as numbers and objects name by name, so it is not identity: the
two zeros are one number, and members may stand in any order. It is symmetric (`equal_symm`) and
transitive (`equal_trans`) all the same, and a value equals itself exactly if no not-a-number stands
in it (`equal_self_iff`).

The comparison of objects looks for each member on the left on the right and compares their numbers.
It comes to a comparison of what each name reads, where a name that reads undefined is not a name
that reads nothing (`equal_object_iff`): distinct names that are found among as many others are
these, but for their order. This is what makes the comparison symmetric, and it is why objects are
asked to hold each name once.
-/

namespace Specimen

namespace Number

variable {x y z : Number}

/-- Numbers are equal if they are numbers and have one key. Both noughts have the same, so the sign
of nought does not tell numbers apart. -/
theorem equal_eq_true : x.equal y = true ↔ x.isNaN = false ∧ y.isNaN = false ∧ x.key = y.key := by
  simp [equal, and_assoc]

/-- Symmetry needs tidy objects: of a name that is repeated only the first member would be found. -/
theorem equal_symm (same : x.equal y = true) : y.equal x = true := by
  obtain ⟨left, right, key⟩ := equal_eq_true.mp same
  exact equal_eq_true.mpr ⟨right, left, key.symm⟩

/-- Transitivity needs no care for what is not a number, as it is equal to nothing. -/
theorem equal_trans (same : x.equal y = true) (same' : y.equal z = true) : x.equal z = true := by
  obtain ⟨left, _, key⟩ := equal_eq_true.mp same
  obtain ⟨_, right, key'⟩ := equal_eq_true.mp same'
  exact equal_eq_true.mpr ⟨left, right, key.trans key'⟩

end Number

namespace Value

variable {u v w : Value} {items others : List Value} {ms ns : List (String × Value)}

/-! ## One level -/

/-- Arrays are compared place by place and have to be as long as each other. -/
theorem equalItems_eq_true :
    equalItems items others = true ↔ List.Forall₂ (fun v w => v.equal w = true) items others := by
  induction items generalizing others with
  | nil => cases others <;> simp [equalItems]
  | cons v rest ih => cases others <;> simp [equalItems, ih]

/-- Objects are compared by name: as many members, and each found on the other side with a value
equal to its own. The order of members plays no part. -/
theorem equal_object_eq_true : (object ms).equal (object ns) = true ↔
    ms.length = ns.length ∧ ∀ member ∈ ms,
      ∃ other, Fields.get? ns member.1 = some other ∧ member.2.equal other = true := by
  rw [equal, Bool.and_eq_true, beq_iff_eq, equalMembers_eq_true]

/-- The ways in which two values are equal: as one value with nothing in it, as numbers, item by
item, or member by member. -/
inductive Match : Value → Value → Prop
  | same {v : Value} (noItems : v.asArray? = none) (noMembers : v.asObject? = none) : Match v v
  | numbers {x y : Number} (equal : x.equal y = true) : Match (.number x) (.number y)
  | arrays {items others : List Value}
      (each : List.Forall₂ (fun v w => v.equal w = true) items others) :
      Match (.array items) (.array others)
  | objects {ms ns : List (String × Value)} (length : ms.length = ns.length)
      (each : ∀ member ∈ ms,
        ∃ other, Fields.get? ns member.1 = some other ∧ member.2.equal other = true) :
      Match (.object ms) (.object ns)

/-- What two equal values have in common, by cases. The laws of equality are proved from this. -/
theorem match_of_equal (same : v.equal w = true) : Match v w := by
  cases v with
  | undefined => cases w <;> first | exact .same rfl rfl | cases same
  | null => cases w <;> first | exact .same rfl rfl | cases same
  | bool b =>
    cases w with
    | bool c => exact beq_iff_eq.mp same ▸ .same rfl rfl
    | _ => cases same
  | number x =>
    cases w with
    | number y => exact .numbers same
    | _ => cases same
  | string s =>
    cases w with
    | string t => exact beq_iff_eq.mp same ▸ .same rfl rfl
    | _ => cases same
  | array items =>
    cases w with
    | array others => exact .arrays (equalItems_eq_true.mp same)
    | _ => cases same
  | object ms =>
    cases w with
    | object ns =>
      obtain ⟨length, each⟩ := equal_object_eq_true.mp same
      exact .objects length each
    | _ => cases same
  | callable f =>
    cases w with
    | callable g =>
      obtain ⟨seed⟩ := f
      obtain ⟨seed'⟩ := g
      obtain rfl : seed = seed' := beq_iff_eq.mp same
      exact .same rfl rfl
    | _ => cases same

/-! ## Objects -/

/-- Distinct names that are found among as many others are these, in some order. -/
theorem keys_perm_of_equal (nodup : (Fields.keys ms).Nodup)
    (same : (object ms).equal (object ns) = true) :
    (Fields.keys ms).Perm (Fields.keys ns) := by
  obtain ⟨length, each⟩ := equal_object_eq_true.mp same
  have found : Fields.keys ms ⊆ Fields.keys ns := by
    intro name mem
    obtain ⟨member, among, rfl⟩ := List.mem_map.mp mem
    obtain ⟨other, read, _⟩ := each member among
    exact List.mem_map.mpr ⟨_, Fields.mem_of_get? read, rfl⟩
  refine (List.subperm_of_subset nodup found).perm_of_length_le ?_
  simp [Fields.keys, length]

/-- A name that reads nothing in one object reads nothing in an equal one. -/
theorem get?_eq_none_of_equal {name : String} (nodup : (Fields.keys ms).Nodup)
    (same : (object ms).equal (object ns) = true) (read : Fields.get? ms name = none) :
    Fields.get? ns name = none := by
  refine Fields.get?_of_notMem fun known => ?_
  obtain ⟨v, there⟩ := Fields.exists_get? ((keys_perm_of_equal nodup same).mem_iff.mpr known)
  cases read.symm.trans there

/-- Objects are equal when each name reads equal values in both, or nothing in either. -/
theorem equal_object_iff (nodup : (Fields.keys ms).Nodup) (nodup' : (Fields.keys ns).Nodup) :
    (object ms).equal (object ns) = true ↔ ∀ name,
      Option.Rel (fun v w => v.equal w = true) (Fields.get? ms name) (Fields.get? ns name) := by
  constructor
  · intro same name
    obtain ⟨_, each⟩ := equal_object_eq_true.mp same
    cases read : Fields.get? ms name with
    | some v =>
      obtain ⟨w, read', equal⟩ := each _ (Fields.mem_of_get? read)
      rw [read']
      exact .some equal
    | none =>
      rw [get?_eq_none_of_equal nodup same read]
      exact .none
  · intro each
    -- both know the same names, as each name reads something in both or in neither
    have known : ∀ name, name ∈ Fields.keys ms ↔ name ∈ Fields.keys ns := by
      intro name
      rw [← Fields.has_eq_true, ← Fields.has_eq_true, Fields.has, Fields.has]
      have related := each name
      cases read : Fields.get? ms name with
      | some v =>
        rw [read] at related
        cases read' : Fields.get? ns name with
        | some w => rfl
        | none =>
          rw [read'] at related
          cases related
      | none =>
        rw [read] at related
        cases read' : Fields.get? ns name with
        | some w =>
          rw [read'] at related
          cases related
        | none => rfl
    have names := (List.perm_ext_iff_of_nodup nodup nodup').mpr known
    refine equal_object_eq_true.mpr ⟨by simpa [Fields.keys] using names.length_eq, ?_⟩
    intro member mem
    have related := each member.1
    rw [Fields.get?_of_mem nodup mem] at related
    cases read : Fields.get? ns member.1 with
    | some w =>
      rw [read] at related
      cases related with
      | some equal => exact ⟨w, rfl, equal⟩
    | none =>
      rw [read] at related
      cases related

/-! ## Symmetry and transitivity -/

/-- The step for arrays, with the law for their items as a hypothesis. -/
private theorem equalItems_symm (tidy : ∀ item ∈ items, item.isTidy = true)
    (tidy' : ∀ item ∈ others, item.isTidy = true)
    (ih : ∀ item ∈ items, ∀ {w : Value}, item.isTidy = true → w.isTidy = true →
      item.equal w = true → w.equal item = true)
    (each : List.Forall₂ (fun v w => v.equal w = true) items others) :
    List.Forall₂ (fun v w => v.equal w = true) others items := by
  refine (each.imp_of_mem fun v w mem mem' same => ?_).flip
  exact ih v mem (tidy v mem) (tidy' w mem') same

/-- The names are the same in both objects, so each member on the right was looked for too. -/
private theorem equalMembers_symm (tidy : (object ms).isTidy = true)
    (tidy' : (object ns).isTidy = true)
    (ih : ∀ member ∈ ms, ∀ {w : Value}, member.2.isTidy = true → w.isTidy = true →
      member.2.equal w = true → w.equal member.2 = true)
    (same : (object ms).equal (object ns) = true) : (object ns).equal (object ms) = true := by
  obtain ⟨nodup, each⟩ := isTidy_object.mp tidy
  obtain ⟨nodup', each'⟩ := isTidy_object.mp tidy'
  refine equal_object_eq_true.mpr ⟨(equal_object_eq_true.mp same).1.symm, fun other mem => ?_⟩
  have known : other.1 ∈ Fields.keys ms :=
    (keys_perm_of_equal nodup same).mem_iff.mpr (List.mem_map_of_mem mem)
  obtain ⟨v, read⟩ := Fields.exists_get? known
  have among := Fields.mem_of_get? read
  obtain ⟨w, read', equal⟩ := (equal_object_eq_true.mp same).2 _ among
  obtain rfl : other.2 = w := Option.some.inj ((Fields.get?_of_mem nodup' mem).symm.trans read')
  exact ⟨v, read, ih _ among (each _ among) (each' _ mem) equal⟩

theorem equal_symm (tidy : v.isTidy = true) (tidy' : w.isTidy = true) (same : v.equal w = true) :
    w.equal v = true := by
  induction v using induction_parts generalizing w with
  | leaf v noItems noMembers =>
    cases match_of_equal same with
    | same => exact same
    | numbers equal => exact Number.equal_symm equal
    | arrays => cases noItems
    | objects => cases noMembers
  | array items ih =>
    cases match_of_equal same with
    | same noItems => cases noItems
    | arrays each =>
      rw [isTidy_array] at tidy tidy'
      exact equalItems_eq_true.mpr (equalItems_symm tidy tidy' ih each)
  | object ms ih =>
    cases match_of_equal same with
    | same _ noMembers => cases noMembers
    | objects => exact equalMembers_symm tidy tidy' ih same

theorem equal_comm (tidy : v.isTidy = true) (tidy' : w.isTidy = true) : v.equal w = w.equal v :=
  Bool.eq_iff_iff.mpr ⟨equal_symm tidy tidy', equal_symm tidy' tidy⟩

/-- The step for arrays. -/
private theorem equalItems_trans {last : List Value}
    (ih : ∀ item ∈ items, ∀ {v w : Value}, item.equal v = true → v.equal w = true →
      item.equal w = true)
    (each : List.Forall₂ (fun v w => v.equal w = true) items others)
    (each' : List.Forall₂ (fun v w => v.equal w = true) others last) :
    List.Forall₂ (fun v w => v.equal w = true) items last := by
  refine (each.comp each').imp_of_mem_left fun v w mem between => ?_
  obtain ⟨u, same, same'⟩ := between
  exact ih v mem same same'

/-- Transitivity asks nothing of the objects, whose members are looked up from left to right. -/
theorem equal_trans (same : u.equal v = true) (same' : v.equal w = true) : u.equal w = true := by
  induction u using induction_parts generalizing v w with
  | leaf u noItems noMembers =>
    cases match_of_equal same with
    | same => exact same'
    | numbers equal =>
      cases match_of_equal same' with
      | same => exact same
      | numbers equal' => exact Number.equal_trans equal equal'
    | arrays => cases noItems
    | objects => cases noMembers
  | array items ih =>
    cases match_of_equal same with
    | same noItems => cases noItems
    | arrays each =>
      cases match_of_equal same' with
      | same noItems => cases noItems
      | arrays each' => exact equalItems_eq_true.mpr (equalItems_trans ih each each')
  | object ms ih =>
    cases match_of_equal same with
    | same _ noMembers => cases noMembers
    | objects length each =>
      cases match_of_equal same' with
      | same _ noMembers => cases noMembers
      | objects length' each' =>
        refine equal_object_eq_true.mpr ⟨length.trans length', fun member mem => ?_⟩
        obtain ⟨v, read, equal⟩ := each member mem
        obtain ⟨w, read', equal'⟩ := each' _ (Fields.mem_of_get? read)
        exact ⟨w, read', ih member mem equal equal'⟩

/-! ## What equals itself -/

theorem isFreeOfNaN_of_equal_self (tidy : v.isTidy = true) (same : v.equal v = true) :
    v.isFreeOfNaN = true := by
  induction v using induction_parts with
  | leaf v noItems noMembers =>
    cases v with
    | number x =>
      have number := (Number.equal_eq_true.mp same).1
      simp [isFreeOfNaN, allNumbers, number]
    | array items => cases noItems
    | object members => cases noMembers
    | _ => rfl
  | array items ih =>
    rw [isTidy_array] at tidy
    have each := List.forall₂_same.mp (equalItems_eq_true.mp same)
    exact allNumbersItems_eq_true.mpr fun item mem => ih item mem (tidy item mem) (each item mem)
  | object ms ih =>
    obtain ⟨nodup, tidy⟩ := isTidy_object.mp tidy
    obtain ⟨_, each⟩ := equal_object_eq_true.mp same
    refine allNumbersMembers_eq_true.mpr fun member mem => ih member mem (tidy member mem) ?_
    obtain ⟨other, read, equal⟩ := each member mem
    obtain rfl := Option.some.inj ((Fields.get?_of_mem nodup mem).symm.trans read)
    exact equal

/-- Equality is reflexive but for what is not a number. -/
theorem equal_self_iff (tidy : v.isTidy = true) : v.equal v = true ↔ v.isFreeOfNaN = true :=
  ⟨isFreeOfNaN_of_equal_self tidy, equal_self v tidy⟩

/-! ## The order of members -/

/-- Equality goes through one item of an array. -/
private theorem equalItems_congr {before after : List Value} (inner : ∀ u, v.equal u = w.equal u) :
    equalItems (before ++ v :: after) others = equalItems (before ++ w :: after) others := by
  induction before generalizing others with
  | nil =>
    cases others with
    | nil => rfl
    | cons u rest => simp only [List.nil_append, equalItems, inner u]
  | cons b before ih =>
    cases others with
    | nil => rfl
    | cons u rest => simp only [List.cons_append, equalItems, ih]

/-- And through the value of one member of an object. -/
private theorem equalMembers_congr {before after : List (String × Value)} {name : String}
    (inner : ∀ u, v.equal u = w.equal u) :
    equalMembers (before ++ (name, v) :: after) ns =
      equalMembers (before ++ (name, w) :: after) ns := by
  rw [Bool.eq_iff_iff, equalMembers_eq_true, equalMembers_eq_true]
  simp only [List.forall_mem_append, List.forall_mem_cons, inner]

/-- The order of members, at any depth, makes no difference to what a value equals. -/
theorem equal_of_reordered (reordered : Reordered v w) : ∀ u, v.equal u = w.equal u := by
  induction reordered with
  | refl => exact fun _ => rfl
  | trans _ _ ih ih' => exact fun u => (ih u).trans (ih' u)
  | @members ms ns perm =>
    intro u
    cases u with
    | object others =>
      have each : equalMembers ms others = equalMembers ns others := by
        rw [Bool.eq_iff_iff, equalMembers_eq_true, equalMembers_eq_true]
        exact ⟨fun each m mem => each m (perm.mem_iff.mpr mem),
          fun each m mem => each m (perm.mem_iff.mp mem)⟩
      rw [equal, equal, perm.length_eq, each]
    | _ => rfl
  | @member before after name v w _ ih =>
    intro u
    cases u with
    | object others =>
      rw [equal, equal, equalMembers_congr ih, List.length_append, List.length_append]
      rfl
    | _ => rfl
  | item _ ih =>
    intro u
    cases u with
    | array others => exact equalItems_congr ih
    | _ => rfl

end Value

end Specimen
