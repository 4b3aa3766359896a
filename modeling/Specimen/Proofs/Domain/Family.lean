import Specimen.Domain.Family
import Specimen.Proofs.Descriptor.Guard
import Specimen.Proofs.Generator.LeastChange

/-!
# The correction of families

No filter sees what a correction makes, so that the type of consistent families is only as good as
its correction. It is right on every family (`correction_repairs_families`): the repaired family is
consistent, and a family still, whatever its type is and whoever its members are.

A repair goes by the type, and changes the members alone, so it wants as many spouses of the
repaired family as it wanted of the family. That is why it changes nothing the second time.
-/

namespace Specimen

namespace Family

variable {wanted : Nat} {members : List Value} {fields : List (String × Value)}

/-! ## Members -/

theorem isSpouse_newSpouse : isSpouse newSpouse = true := by decide

/-- Nobody comes in by a repair but a new spouse. -/
theorem mem_repairMembers {m : Value} (mem : m ∈ repairMembers wanted members) :
    m = newSpouse ∨ m ∈ members := by
  have kept := (keepFirst_sublist isSpouse wanted members).subset
  unfold repairMembers at mem
  dsimp only at mem
  split at mem
  · exact (List.mem_cons.mp mem).imp_right fun mem => kept mem
  · exact .inr (kept mem)

/-- Afterwards there are as many spouses as are wanted, since that is one at most. -/
theorem countP_repairMembers (one : wanted ≤ 1) (members : List Value) :
    (repairMembers wanted members).countP isSpouse = wanted := by
  have kept := countP_keepFirst isSpouse wanted members
  unfold repairMembers
  dsimp only
  split
  case isTrue few =>
    rw [List.countP_cons_of_pos isSpouse_newSpouse, kept]
    omega
  case isFalse enough =>
    rw [kept]
    omega

/-- Members among whom there are as many spouses as wanted are left alone. -/
theorem repairMembers_of_countP (right : members.countP isSpouse = wanted) :
    repairMembers wanted members = members := by
  unfold repairMembers
  dsimp only
  rw [if_neg (by omega)]
  exact keepFirst_of_le (Nat.le_of_eq right)

/-- Who is no spouse stays, in order. -/
theorem filter_repairMembers (wanted : Nat) (members : List Value) :
    (repairMembers wanted members).filter (fun m => !isSpouse m) =
      members.filter fun m => !isSpouse m := by
  unfold repairMembers
  dsimp only
  split
  · rw [List.filter_cons_of_neg (by simp [isSpouse_newSpouse]), filter_rejected_keepFirst]
  · exact filter_rejected_keepFirst isSpouse wanted members

/-- Where there are spouses enough, none is put in. -/
theorem repairMembers_of_le (enough : wanted ≤ members.countP isSpouse) :
    repairMembers wanted members = withoutSurplus isSpouse wanted members := by
  unfold repairMembers
  dsimp only
  rw [if_neg (Nat.not_lt.mpr enough)]
  exact keepFirst_eq_withoutSurplus isSpouse wanted members

/-- When one spouse may stay, it is the first. -/
theorem filter_isSpouse_withoutSurplus {first : Value}
    (found : members.find? isSpouse = some first) :
    (withoutSurplus isSpouse 1 members).filter isSpouse = [first] := by
  rw [← keepFirst_eq_withoutSurplus, filter_accepted_keepFirst]
  rw [← List.head?_filter] at found
  obtain ⟨rest, spouses⟩ := List.head?_eq_some_iff.mp found
  rw [spouses]
  rfl

/-! ## Families -/

/-- No type of family asks for more than one. -/
theorem wantedSpouses_le (family : Value) : wantedSpouses family ≤ 1 := by
  unfold wantedSpouses
  split <;> omega

theorem spouseCount_object (read : Fields.get? fields "members" = some (.array members)) :
    spouseCount (.object fields) = members.countP isSpouse := by
  rw [spouseCount, Value.member, read]
  rfl

/-- A repair changes the members of a family and nothing else in it. -/
theorem repair_object (read : Fields.get? fields "members" = some (.array members)) :
    repair (.object fields) = .object (Fields.put fields "members"
      (.array (repairMembers (wantedSpouses (.object fields)) members))) := by
  simp only [repair, read]

theorem get?_put_members (fields : List (String × Value)) (v : Value) :
    Fields.get? (Fields.put fields "members" v) "members" = some v := by
  rw [Fields.get?_put, if_pos rfl]

/-- The type of a family is no matter of its members. -/
theorem member_type_put (fields : List (String × Value)) (v : Value) :
    (Value.object (Fields.put fields "members" v)).member "type" =
      (Value.object fields).member "type" := by
  rw [Value.member, Value.member, Fields.get?_put, if_neg (by decide)]

/-- How many spouses are wanted is read off the type, so new members do not change it. -/
theorem wantedSpouses_put (fields : List (String × Value)) (v : Value) :
    wantedSpouses (.object (Fields.put fields "members" v)) = wantedSpouses (.object fields) := by
  rw [wantedSpouses, wantedSpouses, isEspoused, isEspoused, member_type_put]

/-- A repaired family has as many spouses as its type asks for. -/
theorem isConsistent_repair (read : Fields.get? fields "members" = some (.array members)) :
    isConsistent (repair (.object fields)) = true := by
  rw [repair_object read, isConsistent, spouseCount_object (get?_put_members fields _),
    wantedSpouses_put, countP_repairMembers (wantedSpouses_le _)]
  exact beq_self_eq_true _

/-- A family that has them is left as it is, down to the order of its fields. -/
theorem repair_of_isConsistent (read : Fields.get? fields "members" = some (.array members))
    (right : isConsistent (.object fields) = true) :
    repair (.object fields) = .object fields := by
  rw [isConsistent, spouseCount_object read, beq_iff_eq] at right
  rw [repair_object read, repairMembers_of_countP right, Fields.put_of_get? read]

/-! ## The type -/

/-- An array is read where the type of an array accepts what is read: nothing at all is no array. -/
theorem guard_members {member : Descriptor} {place : Nat} {found : Option Value} :
    (Descriptor.node place (.array member)).guard (found.getD .undefined) = true ↔
      ∃ members, found = some (.array members) ∧ ∀ m ∈ members, member.guard m = true := by
  constructor
  · intro accepted
    cases found with
    | none => cases accepted
    | some w =>
      cases w with
      | array members => exact ⟨members, rfl, List.all_eq_true.mp accepted⟩
      | _ => cases accepted
  · rintro ⟨members, rfl, all⟩
    exact List.all_eq_true.mpr all

/-- What a record of a type and members accepts. -/
theorem guard_family {type member : Descriptor} {own place : Nat} {v : Value} :
    (Descriptor.node own (.record
        [("type", type), ("members", .node place (.array member))])).guard v = true ↔
      ∃ fields members, v = .object fields ∧ type.guard (v.member "type") = true ∧
        Fields.get? fields "members" = some (.array members) ∧
        ∀ m ∈ members, member.guard m = true := by
  constructor
  · intro accepted
    cases v with
    | object fields =>
      have each : ∀ field ∈ [("type", type), ("members", .node place (.array member))],
          field.2.guard ((Fields.get? fields field.1).getD .undefined) = true :=
        Descriptor.guardRequired_eq_true.mp accepted
      obtain ⟨typed, held⟩ := List.forall_mem_cons.mp each
      obtain ⟨members, read, all⟩ := guard_members.mp (held _ (List.mem_singleton_self _))
      exact ⟨fields, members, rfl, typed, read, all⟩
    | _ => cases accepted
  · rintro ⟨fields, members, rfl, typed, read, all⟩
    refine Descriptor.guardRequired_eq_true.mpr (List.forall_mem_cons.mpr ⟨typed, ?_⟩)
    exact List.forall_mem_singleton.mpr (guard_members.mpr ⟨members, read, all⟩)

/-- What consistent families are made of: families, a predicate, and a correction. A new spouse may
be a member. -/
theorem consistentFamily_eq (next : Nat) : ∃ id own place type member,
    (consistentFamily.run next).1 = .node id (.constraint (.node own (.record
      [("type", type), ("members", .node place (.array member))])) consistent
        (some keepSpouse) none) ∧
    member.guard newSpouse = true :=
  ⟨_, _, _, _, _, rfl, rfl⟩

/-- The correction of families is right on every value that belongs to their type: what it makes
belongs to the type of consistent families. A consistent family stays as it is, so repairing twice
is repairing once. Nothing but the members changes, whoever is no spouse stays in order, and of the
spouses of the espoused the first stays. -/
theorem correction_repairs_families (next : Nat) :
    ∃ id family, (consistentFamily.run next).1 =
        .node id (.constraint family consistent (some keepSpouse) none) ∧
      ∀ v, family.guard v = true →
        (consistentFamily.run next).1.guard (keepSpouse.apply v) = true ∧
        (consistent.test v = true → keepSpouse.apply v = v) ∧
        keepSpouse.apply (keepSpouse.apply v) = keepSpouse.apply v ∧
        ∃ fields members repaired, v = .object fields ∧
          Fields.get? fields "members" = some (.array members) ∧
          keepSpouse.apply v = .object (Fields.put fields "members" (.array repaired)) ∧
          (repaired.filter fun m => !isSpouse m) = members.filter (fun m => !isSpouse m) ∧
          (isEspoused v = true → ∀ first, members.find? isSpouse = some first →
            repaired = withoutSurplus isSpouse 1 members ∧
            repaired.filter isSpouse = [first]) := by
  obtain ⟨id, own, place, type, member, made, spouseAccepted⟩ := consistentFamily_eq next
  refine ⟨id, _, made, fun v accepted => ?_⟩
  obtain ⟨fields, members, rfl, typed, read, all⟩ := guard_family.mp accepted
  have repaired := repair_object read
  have right : isConsistent (repair (.object fields)) = true := isConsistent_repair read
  refine ⟨?_, repair_of_isConsistent read, ?_, fields, members, _, rfl, read, repaired,
    filter_repairMembers _ members, fun espoused first found => ?_⟩
  · -- the type is untouched, and a member is an old one or the new spouse
    rw [made]
    refine Bool.and_eq_true_iff.mpr ⟨guard_family.mpr ?_, right⟩
    refine ⟨_, _, repaired, ?_, get?_put_members fields _, fun m mem => ?_⟩
    · rw [show keepSpouse.apply (.object fields) = _ from repaired, member_type_put]
      exact typed
    · rcases mem_repairMembers mem with rfl | mem
      · exact spouseAccepted
      · exact all m mem
  · show repair (repair (.object fields)) = repair (.object fields)
    rw [repaired] at right ⊢
    exact repair_of_isConsistent (get?_put_members fields _) right
  · have wanted : wantedSpouses (.object fields) = 1 := if_pos espoused
    -- a first spouse means that none has to be put in
    have some_spouse : 1 ≤ members.countP isSpouse :=
      List.countP_pos_iff.mpr ⟨first, List.mem_of_find?_eq_some found, List.find?_some found⟩
    rw [wanted, repairMembers_of_le some_spouse]
    exact ⟨rfl, filter_isSpouse_withoutSurplus found⟩

/-- An espoused family with two spouses, a child between them, and a key no family asks for. -/
def crowd : Value :=
  .object
    [("pets", .array []),
      ("members", .array [newSpouse, .object [("role", .string "child"), ("fio", .object [])],
        .object [("role", .string "spouse"), ("fio", .object [("firstname", .string "Bo")])]]),
      ("type", .string "espoused")]

/-- A crowd is a family, though not a consistent one, until it is repaired. -/
theorem crowd_is_repaired :
    ∃ family : Descriptor, family.guard crowd = true ∧
      (consistentFamily.run 0).1.guard crowd = false ∧
      (consistentFamily.run 0).1.guard (keepSpouse.apply crowd) = true := by
  obtain ⟨id, family, made, right⟩ := correction_repairs_families 0
  have belongs : family.guard crowd = true := by
    cases made
    decide
  exact ⟨family, belongs, by decide, (right crowd belongs).1⟩

end Family

end Specimen
