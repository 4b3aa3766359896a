import Specimen.Proofs.Number.Nearest
import Specimen.Proofs.Value.Json

/-!
# What JSON loses of a value

Exactly this is lost when a value is put down as JSON and read again
(`saying_loses_only_the_unsayable`): members that are undefined or callable are left out, at every
depth, and whatever else is undefined, callable or a number that is not finite becomes null. The
description (`Value.pruned`) is made of two changes that each know one rule, where the two
recursions that put down and read apply both at once.

So nothing is lost if and only if nothing of the kind stands in the value. What has been read from
JSON has none of it, and can be put down and read for good; a whole number has by then become the
nearest number.
-/

namespace Specimen

namespace Value

/-! ## Induction -/

/-- Induction over what stands in a value: a list of items, a list of members, or nothing. -/
@[elab_as_elim]
theorem induction_parts {motive : Value → Prop}
    (leaf : ∀ v : Value, v.asArray? = none → v.asObject? = none → motive v)
    (array : ∀ items : List Value, (∀ item ∈ items, motive item) → motive (.array items))
    (object : ∀ members : List (String × Value), (∀ member ∈ members, motive member.2) →
      motive (.object members)) (v : Value) : motive v := by
  cases v with
  | array items =>
    apply array items
    intro item mem
    have smaller : sizeOf item < sizeOf items := List.sizeOf_lt_of_mem mem
    exact induction_parts leaf array object item
  | object members =>
    apply object members
    intro member mem
    obtain ⟨name, v⟩ := member
    have smaller : sizeOf v < sizeOf members := by
      have below := List.sizeOf_lt_of_mem mem
      simp only [Prod.mk.sizeOf_spec] at below
      omega
    exact induction_parts leaf array object v
  | _ => exact leaf _ rfl rfl
termination_by sizeOf v

/-! ## The loss -/

mutual

/-- A value without the members, at any depth, that fail a test. -/
def sift (keep : Value → Bool) : Value → Value
  | .array items => .array (siftItems keep items)
  | .object members => .object (siftMembers keep members)
  | v => v

/-- The items of an array all stay; what is left out is left out of them. -/
def siftItems (keep : Value → Bool) : List Value → List Value
  | [] => []
  | item :: rest => sift keep item :: siftItems keep rest

/-- Members stay if their values are to be kept, and are sifted further. -/
def siftMembers (keep : Value → Bool) : List (String × Value) → List (String × Value)
  | [] => []
  | (name, member) :: rest =>
    if keep member then (name, sift keep member) :: siftMembers keep rest
    else siftMembers keep rest

end

mutual

/-- A value with all in it changed that has nothing in it. -/
def mapLeaves (f : Value → Value) : Value → Value
  | .array items => .array (mapLeavesItems f items)
  | .object members => .object (mapLeavesMembers f members)
  | v => f v

/-- Items, each with its leaves changed. -/
def mapLeavesItems (f : Value → Value) : List Value → List Value
  | [] => []
  | item :: rest => mapLeaves f item :: mapLeavesItems f rest

/-- Members, each with the leaves of its value changed. -/
def mapLeavesMembers (f : Value → Value) : List (String × Value) → List (String × Value)
  | [] => []
  | (name, member) :: rest => (name, mapLeaves f member) :: mapLeavesMembers f rest

end

/-- Whether JSON has a form of this value, whatever stands in it. -/
def isPlain : Value → Bool
  | .undefined => false
  | .callable _ => false
  | .number x => x.isFinite
  | _ => true

/-- Undefined and callable members are left out, and whatever else has no form in JSON becomes
null. -/
def pruned (v : Value) : Value :=
  (v.sift isSayable).mapLeaves fun leaf => if leaf.isPlain then leaf else .null

theorem siftItems_eq (keep : Value → Bool) (items : List Value) :
    siftItems keep items = items.map (sift keep) := by
  induction items with
  | nil => rfl
  | cons item rest ih => rw [siftItems, ih, List.map_cons]

theorem mapLeavesItems_eq (f : Value → Value) (items : List Value) :
    mapLeavesItems f items = items.map (mapLeaves f) := by
  induction items with
  | nil => rfl
  | cons item rest ih => rw [mapLeavesItems, ih, List.map_cons]

/-- Sifting members is a filter and then a map, in which form it is met in writing. -/
theorem siftMembers_eq (keep : Value → Bool) (members : List (String × Value)) :
    siftMembers keep members =
      (members.filter fun member => keep member.2).map fun member =>
        (member.1, member.2.sift keep) := by
  induction members with
  | nil => rfl
  | cons member rest ih =>
    rw [siftMembers, ih, List.filter_cons]
    split
    · rw [List.map_cons]
    · rfl

theorem mapLeavesMembers_eq (f : Value → Value) (members : List (String × Value)) :
    mapLeavesMembers f members = members.map fun member => (member.1, member.2.mapLeaves f) := by
  induction members with
  | nil => rfl
  | cons member rest ih => rw [mapLeavesMembers, ih, List.map_cons]

/-- What pruning does to each kind of value: the two changes in one. -/
theorem pruned_array (items : List Value) :
    (array items).pruned = .array (items.map pruned) := by
  rw [pruned, sift, mapLeaves, siftItems_eq, mapLeavesItems_eq, List.map_map]
  rfl

theorem pruned_object (members : List (String × Value)) :
    (object members).pruned =
      .object ((members.filter fun member => member.2.isSayable).map fun member =>
        (member.1, member.2.pruned)) := by
  rw [pruned, sift, mapLeaves, siftMembers_eq, mapLeavesMembers_eq, List.map_map]
  rfl

/-- A leaf that JSON can say stays, and any other becomes null. -/
theorem pruned_leaf {v : Value} (items : v.asArray? = none) (members : v.asObject? = none) :
    v.pruned = if v.isPlain then v else .null := by
  cases v with
  | array => cases items
  | object => cases members
  | _ => rfl

/-! ## What stands in a value -/

mutual

/-- The values that stand in a value, itself the first. -/
def parts : Value → List Value
  | .array items => .array items :: partsItems items
  | .object members => .object members :: partsMembers members
  | v => [v]

/-- Everything that stands in the items of an array. -/
def partsItems : List Value → List Value
  | [] => []
  | item :: rest => parts item ++ partsItems rest

/-- Everything that stands in the members of an object. -/
def partsMembers : List (String × Value) → List Value
  | [] => []
  | (_, member) :: rest => parts member ++ partsMembers rest

end

theorem mem_partsItems {v : Value} {items : List Value} :
    v ∈ partsItems items ↔ ∃ item ∈ items, v ∈ item.parts := by
  induction items with
  | nil => simp [partsItems]
  | cons item rest ih => simp [partsItems, ih]

theorem mem_partsMembers {v : Value} {members : List (String × Value)} :
    v ∈ partsMembers members ↔ ∃ member ∈ members, v ∈ member.2.parts := by
  induction members with
  | nil => simp [partsMembers]
  | cons member rest ih => simp [partsMembers, ih]

/-- Whether JSON has a form of all that stands in a value. -/
def IsPlainThroughout (v : Value) : Prop := ∀ part ∈ v.parts, part.isPlain = true

/-- Nothing but itself stands in a leaf. -/
theorem parts_leaf {v : Value} (items : v.asArray? = none) (members : v.asObject? = none) :
    v.parts = [v] := by
  cases v with
  | array => cases items
  | object => cases members
  | _ => rfl

theorem isPlainThroughout_leaf {v : Value} (items : v.asArray? = none)
    (members : v.asObject? = none) : v.IsPlainThroughout ↔ v.isPlain = true := by
  rw [IsPlainThroughout, parts_leaf items members, List.forall_mem_singleton]

/-- An array is plain throughout if its items are: an array itself is always plain. -/
theorem isPlainThroughout_array {items : List Value} :
    (array items).IsPlainThroughout ↔ ∀ item ∈ items, item.IsPlainThroughout := by
  constructor
  · intro plain item mem part inner
    exact plain part (List.mem_cons_of_mem _ (mem_partsItems.mpr ⟨item, mem, inner⟩))
  · intro plain part mem
    rcases List.mem_cons.mp mem with rfl | mem
    · rfl
    · obtain ⟨item, mem, inner⟩ := mem_partsItems.mp mem
      exact plain item mem part inner

/-- The same of objects, whose names play no part in it. -/
theorem isPlainThroughout_object {members : List (String × Value)} :
    (object members).IsPlainThroughout ↔ ∀ member ∈ members, member.2.IsPlainThroughout := by
  constructor
  · intro plain member mem part inner
    exact plain part (List.mem_cons_of_mem _ (mem_partsMembers.mpr ⟨member, mem, inner⟩))
  · intro plain part mem
    rcases List.mem_cons.mp mem with rfl | mem
    · rfl
    · obtain ⟨member, mem, inner⟩ := mem_partsMembers.mp mem
      exact plain member mem part inner

/-! ## Putting down and reading -/

/-- A leaf that is put down and read is pruned. With the laws for arrays and objects this makes
saying and pruning the same. -/
theorem said_leaf {v : Value} (items : v.asArray? = none) (members : v.asObject? = none) :
    v.said = if v.isPlain then v else .null := by
  cases v with
  | number x =>
    rw [isPlain]
    split
    case isTrue finite => exact said_number finite
    case isFalse endless =>
      rw [said, json, Json.ofNumber_of_not_finite endless]
      rfl
  | array => cases items
  | object => cases members
  | _ => rfl

/-- What is said of a value is what is left when it is pruned. -/
theorem said_eq_pruned (v : Value) : v.said = v.pruned := by
  induction v using induction_parts with
  | leaf v items members => rw [said_leaf items members, pruned_leaf items members]
  | array items each =>
    rw [said_array, pruned_array, List.map_congr_left each]
  | object members each =>
    rw [said_object, pruned_object, saidMembers]
    congr 1
    apply List.map_congr_left
    intro member mem
    rw [each member (List.mem_of_mem_filter mem)]

/-- What was read from JSON can be put down again. -/
theorem isSayable_said (v : Value) : v.said.isSayable = true := Json.value_isSayable v.json

/-- If as many members were said as there are, none was left out. -/
theorem filter_isSayable_eq_self {members : List (String × Value)}
    (length : (saidMembers members).length = members.length) :
    members.filter (fun member => member.2.isSayable) = members := by
  rw [saidMembers, List.length_map] at length
  exact List.filter_sublist.eq_of_length length

theorem map_eq_self_iff {α : Type} {f : α → α} {items : List α} :
    items.map f = items ↔ ∀ item ∈ items, f item = item := by
  calc items.map f = items ↔ items.map f = items.map id := by rw [List.map_id]
    _ ↔ ∀ item ∈ items, f item = item := List.map_inj_left

/-- Members come back as they were exactly if the value of each does; one that is left out makes
them fewer. -/
theorem saidMembers_eq_self_iff {members : List (String × Value)} :
    saidMembers members = members ↔ ∀ member ∈ members, member.2.said = member.2 := by
  constructor
  · intro same member mem
    have all := filter_isSayable_eq_self (congrArg List.length same)
    rw [saidMembers, all] at same
    exact congrArg Prod.snd (map_eq_self_iff.mp same member mem)
  · intro same
    have all : members.filter (fun member => member.2.isSayable) = members := by
      apply List.filter_eq_self.mpr
      intro member mem
      exact same member mem ▸ isSayable_said member.2
    rw [saidMembers, all]
    exact map_eq_self_iff.mpr fun member mem => Prod.ext rfl (same member mem)

/-- A value is said as it is if and only if all in it has a form in JSON. -/
theorem said_eq_self_iff (v : Value) : v.said = v ↔ v.IsPlainThroughout := by
  induction v using induction_parts with
  | leaf v items members =>
    rw [said_leaf items members, isPlainThroughout_leaf items members]
    constructor
    · intro same
      by_contra unsayable
      rw [if_neg unsayable] at same
      exact unsayable (same ▸ rfl)
    · exact fun plain => if_pos plain
  | array items each =>
    rw [said_array, array.injEq, map_eq_self_iff, isPlainThroughout_array]
    exact forall₂_congr each
  | object members each =>
    rw [said_object, object.injEq, saidMembers_eq_self_iff, isPlainThroughout_object]
    exact forall₂_congr each

/-! ## Equality as values -/

theorem equalItems_map {f : Value → Value} {items : List Value} :
    equalItems (items.map f) items = true ↔ ∀ item ∈ items, (f item).equal item = true := by
  induction items with
  | nil => simp [equalItems]
  | cons item rest ih => simp [equalItems, ih]

/-- Each member has its like under the same name among the others. That the others have no more is
not part of it. -/
theorem equalMembers_eq_true {members others : List (String × Value)} :
    equalMembers members others = true ↔ ∀ member ∈ members,
      ∃ other, Fields.get? others member.1 = some other ∧ member.2.equal other = true := by
  induction members with
  | nil => simp [equalMembers]
  | cons member rest ih =>
    rw [equalMembers, Bool.and_eq_true, ih, List.forall_mem_cons]
    cases Fields.get? others member.1 <;> simp

/-- Nothing that is said differently equals what it was. -/
theorem plain_of_equal_said {v : Value} (tidy : v.isTidy = true) (same : v.said.equal v = true) :
    v.IsPlainThroughout := by
  induction v using induction_parts with
  | leaf v items members =>
    rw [said_leaf items members] at same
    rw [isPlainThroughout_leaf items members]
    by_contra unsayable
    rw [if_neg unsayable] at same
    cases v with
    | null => exact unsayable rfl
    | _ => cases same
  | array items each =>
    rw [said_array, equal, equalItems_map] at same
    rw [isTidy_array] at tidy
    rw [isPlainThroughout_array]
    exact fun item mem => each item mem (tidy item mem) (same item mem)
  | object members each =>
    obtain ⟨nodup, tidy⟩ := isTidy_object.mp tidy
    rw [said_object, equal, Bool.and_eq_true, beq_iff_eq, equalMembers_eq_true] at same
    obtain ⟨length, same⟩ := same
    rw [isPlainThroughout_object]
    intro member mem
    apply each member mem (tidy member mem)
    have kept : member.2.isSayable = true :=
      List.filter_eq_self.mp (filter_isSayable_eq_self length) member mem
    obtain ⟨other, found, same⟩ :=
      same (member.1, member.2.said) (mem_saidMembers.mpr ⟨member, mem, kept, rfl⟩)
    rw [Fields.get?_of_mem nodup mem, Option.some.injEq] at found
    exact found ▸ same

/-- Plain numbers are finite, so a value that is plain throughout is free of what is not a number.
-/
theorem isFreeOfNaN_of_plain {v : Value} (plain : v.IsPlainThroughout) : v.isFreeOfNaN = true := by
  induction v using induction_parts with
  | leaf v items members =>
    rw [isPlainThroughout_leaf items members] at plain
    cases v with
    | number x =>
      have finite := of_decide_eq_true plain
      exact Bool.not_eq_true' _ ▸ decide_eq_false (Nat.not_lt_of_lt finite)
    | array => cases items
    | object => cases members
    | _ => rfl
  | array items each =>
    rw [isPlainThroughout_array] at plain
    exact allNumbersItems_eq_true.mpr fun item mem => each item mem (plain item mem)
  | object members each =>
    rw [isPlainThroughout_object] at plain
    exact allNumbersMembers_eq_true.mpr fun member mem => each member mem (plain member mem)

/-- A tidy value equals what is said of it if and only if all in it has a form in JSON. -/
theorem equal_said_iff {v : Value} (tidy : v.isTidy = true) :
    v.said.equal v = true ↔ v.IsPlainThroughout := by
  constructor
  · exact plain_of_equal_said tidy
  · intro plain
    rw [(said_eq_self_iff v).mpr plain]
    exact equal_self v tidy (isFreeOfNaN_of_plain plain)

end Value

/-! ## From JSON and back -/

theorem Numeral.isFinite_number (n : Numeral) : n.number.isFinite = true := by
  cases n with
  | integer i fits => exact (Number.isNearest_ofInt (by omega)).finite
  | float x finite => exact finite

namespace Json

mutual

/-- What has been read from JSON is plain throughout. -/
theorem said_value : ∀ j : Json, j.value.said = j.value
  | .null => rfl
  | .bool _ => rfl
  | .number n => Value.said_number n.isFinite_number
  | .string _ => rfl
  | .array items => by
    rw [value, Value.said_array, said_valueItems items]
  | .object members => by
    rw [value, Value.said_object, said_valueMembers members]

/-- What has been read loses nothing when it is put down and read once more. -/
theorem said_valueItems : ∀ items : List Json,
    (valueItems items).map Value.said = valueItems items
  | [] => rfl
  | j :: rest => by
    rw [valueItems, List.map_cons, said_value j, said_valueItems rest]

/-- The same of members, none of which is left out. -/
theorem said_valueMembers : ∀ members : List (String × Json),
    Value.saidMembers (valueMembers members) = valueMembers members
  | [] => rfl
  | (name, j) :: rest => by
    have ih := said_valueMembers rest
    rw [Value.saidMembers] at ih ⊢
    rw [valueMembers, List.filter_cons, if_pos (value_isSayable j), List.map_cons, ih, said_value j]

end

end Json

/-- The bridge between values and JSON loses what it must and no more. A value that is put down and
read again is pruned; this leaves it as it was if and only if nothing undefined, no callable and no
number that is not finite stands in it, be it compared as a datum or as a value; and it is put down
as before. What JSON denotes is put down and read as it is, a whole number in it having become the
nearest number. -/
theorem saying_loses_only_the_unsayable :
    (∀ v : Value, v.json.value = v.pruned ∧ (v.json.value = v ↔ v.IsPlainThroughout) ∧
      (v.isTidy = true → (v.json.value.equal v = true ↔ v.IsPlainThroughout)) ∧
      v.json.value.json = v.json) ∧
    (∀ j : Json, j.value.json.value = j.value) ∧
    ∀ i fits, ∃ x, (Json.number (.integer i fits)).value = .number x ∧ x.IsNearest i := by
  refine ⟨fun v => ?_, Json.said_value, fun i fits => ⟨Number.ofInt i, rfl, ?_⟩⟩
  · exact ⟨v.said_eq_pruned, v.said_eq_self_iff, Value.equal_said_iff, v.json_said⟩
  · exact Number.isNearest_ofInt (by omega)

/-- A value with something of everything that JSON cannot say, and a nought that it can. -/
def oddments : Value := .object
  [("gone", .undefined), ("answer", .callable ⟨7⟩), ("share", .number .nan),
    ("stops", .array [.undefined, .bool true, .callable ⟨8⟩]),
    ("below", .number Number.zero.negate)]

/-- What is left of oddments, which do not equal it; and the least natural that is no number becomes
the nearest one. -/
theorem oddments_said :
    oddments.isTidy = true ∧ oddments.json.value = .object
      [("share", .null), ("stops", .array [.null, .bool true, .null]),
        ("below", .number Number.zero.negate)] ∧
      oddments.json.value.equal oddments = false ∧
      (∃ fits x, (Json.number (.integer 0x20000000000001 fits)).value = .number x ∧
        x.IsNearest (0x20000000000001 : Int)) := by
  obtain ⟨values, _, integers⟩ := saying_loses_only_the_unsayable
  obtain ⟨left, _, equal, _⟩ := values oddments
  have tidy : oddments.isTidy = true := by decide
  have unsayable : ¬ oddments.IsPlainThroughout := by
    intro plain
    exact absurd (plain .undefined (by simp [oddments, Value.parts, Value.partsMembers])) (by decide)
  refine ⟨tidy, left.trans rfl, ?_, ⟨by decide, integers 0x20000000000001 (by decide)⟩⟩
  exact Bool.eq_false_iff.mpr fun same => unsayable ((equal tidy).mp same)

end Specimen
