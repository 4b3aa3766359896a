import Mathlib.Tactic.Common
import Specimen.Proofs.Value.Equality
import Specimen.Value.Json

/-!
# What JSON keeps of a value

A value is said by putting it down as JSON and reading that again: undefined and callable members are
gone, any other undefined or callable is null, and so is a number that is not finite. Saying what was
said changes nothing any more (`json_said`), and what equals a value that JSON denotes is said as it
is (`said_of_equal`), if its numbers are finite.
-/

namespace Specimen

/-! ## Lists -/

namespace Value

theorem jsonItems_eq (items : List Value) : jsonItems items = items.map json := by
  induction items with
  | nil => rfl
  | cons item rest ih => rw [jsonItems, ih, List.map_cons]

/-- What cannot be said in JSON is left out of an object, while in an array it stands as null. -/
theorem jsonMembers_eq (members : List (String × Value)) :
    jsonMembers members =
      (members.filter fun member => member.2.isSayable).map fun member =>
        (member.1, member.2.json) := by
  induction members with
  | nil => rfl
  | cons member rest ih =>
    obtain ⟨name, v⟩ := member
    rw [jsonMembers, ih, List.filter_cons]
    split
    · rw [List.map_cons]
    · rfl

end Value

namespace Json

theorem valueItems_eq (items : List Json) : valueItems items = items.map value := by
  induction items with
  | nil => rfl
  | cons item rest ih => rw [valueItems, ih, List.map_cons]

theorem valueMembers_eq (members : List (String × Json)) :
    valueMembers members = members.map fun member => (member.1, member.2.value) := by
  induction members with
  | nil => rfl
  | cons member rest ih => rw [valueMembers, ih, List.map_cons]

/-- What is read from JSON has nothing in it that JSON cannot say at the top. -/
theorem value_isSayable (j : Json) : j.value.isSayable = true := by
  cases j <;> rfl

/-- Reading an object keeps its names apart from its values. -/
theorem get?_valueMembers (members : List (String × Json)) (name : String) :
    Fields.get? (valueMembers members) name = (Fields.get? members name).map value := by
  induction members with
  | nil => rfl
  | cons member rest ih =>
    rw [valueMembers, Fields.get?, Fields.get?, ih]
    split
    · rfl
    · rfl

end Json

/-! ## Numbers -/

theorem Json.ofNumber_of_finite {x : Number} (finite : x.isFinite = true) :
    Json.ofNumber x = .number (.float x finite) := by
  unfold Json.ofNumber Numeral.ofNumber?
  rw [dif_pos finite]
  rfl

/-- JSON has no infinities and nothing that is not a number: they are written as null. -/
theorem Json.ofNumber_of_not_finite {x : Number} (endless : ¬ x.isFinite = true) :
    Json.ofNumber x = .null := by
  unfold Json.ofNumber Numeral.ofNumber?
  rw [dif_neg endless]
  rfl

namespace Value

/-- Whether all numbers in a value are finite. -/
def isFinite (v : Value) : Bool := v.allNumbers Number.isFinite

theorem allNumbersItems_eq_true {test : Number → Bool} {items : List Value} :
    allNumbersItems test items = true ↔ ∀ item ∈ items, item.allNumbers test = true := by
  induction items with
  | nil => simp [allNumbersItems]
  | cons item rest ih => simp [allNumbersItems, ih]

theorem allNumbersMembers_eq_true {test : Number → Bool} {members : List (String × Value)} :
    allNumbersMembers test members = true ↔
      ∀ member ∈ members, member.2.allNumbers test = true := by
  induction members with
  | nil => simp [allNumbersMembers]
  | cons member rest ih => simp [allNumbersMembers, ih]

theorem areTidy_eq_true {items : List Value} :
    areTidy items = true ↔ ∀ item ∈ items, item.isTidy = true := by
  induction items with
  | nil => simp [areTidy]
  | cons item rest ih => simp [areTidy, ih]

/-- The members of an object are tidy if their values are; that no name is repeated is asked of the
object itself. -/
theorem areTidyMembers_eq_true {members : List (String × Value)} :
    areTidyMembers members = true ↔ ∀ member ∈ members, member.2.isTidy = true := by
  induction members with
  | nil => simp [areTidyMembers]
  | cons member rest ih => simp [areTidyMembers, ih]

theorem isFinite_array {items : List Value} :
    (array items).isFinite = true ↔ ∀ item ∈ items, item.isFinite = true :=
  allNumbersItems_eq_true

theorem isFinite_object {members : List (String × Value)} :
    (object members).isFinite = true ↔ ∀ member ∈ members, member.2.isFinite = true :=
  allNumbersMembers_eq_true

theorem isTidy_array {items : List Value} :
    (array items).isTidy = true ↔ ∀ item ∈ items, item.isTidy = true :=
  areTidy_eq_true

/-- A tidy object names each member once, as a map does. -/
theorem isTidy_object {members : List (String × Value)} :
    (object members).isTidy = true ↔
      (Fields.keys members).Nodup ∧ ∀ member ∈ members, member.2.isTidy = true := by
  rw [isTidy, Bool.and_eq_true, decide_eq_true_iff, areTidyMembers_eq_true]

/-! ## Saying -/

/-- What is left of a value when it has been put down as JSON and read again. -/
def said (v : Value) : Value := v.json.value

/-- A finite number survives being written and read. -/
theorem said_number {x : Number} (finite : x.isFinite = true) : said (.number x) = .number x := by
  rw [said, json, Json.ofNumber_of_finite finite]
  rfl

theorem said_array (items : List Value) : said (.array items) = .array (items.map said) := by
  rw [said, json, Json.value, jsonItems_eq, Json.valueItems_eq, List.map_map]
  rfl

/-- The members that JSON keeps. -/
def saidMembers (members : List (String × Value)) : List (String × Value) :=
  (members.filter fun member => member.2.isSayable).map fun member => (member.1, member.2.said)

/-- What an object becomes when it is written and read: its sayable members, each so changed. -/
theorem said_object (members : List (String × Value)) :
    said (.object members) = .object (saidMembers members) := by
  rw [said, json, Json.value, jsonMembers_eq, Json.valueMembers_eq, List.map_map]
  rfl

/-- No member comes to be by writing and reading, and only the unsayable are lost. -/
theorem mem_saidMembers {members : List (String × Value)} {entry : String × Value} :
    entry ∈ saidMembers members ↔
      ∃ member ∈ members, member.2.isSayable = true ∧ (member.1, member.2.said) = entry := by
  simp only [saidMembers, List.mem_map, List.mem_filter, and_assoc]

/-- Where names are distinct, a name reads what is said of its member, if that can be said. -/
theorem get?_saidMembers {name : String} :
    ∀ {members : List (String × Value)}, (Fields.keys members).Nodup →
      Fields.get? (saidMembers members) name =
        ((Fields.get? members name).filter isSayable).map said
  | [], _ => rfl
  | (k, v) :: rest, nodup => by
    obtain ⟨fresh, nodup⟩ := List.nodup_cons.mp nodup
    have ih : Fields.get? (saidMembers rest) name =
        ((Fields.get? rest name).filter isSayable).map said := get?_saidMembers nodup
    have skipped : v.isSayable = false → saidMembers ((k, v) :: rest) = saidMembers rest := by
      intro lost
      rw [saidMembers, List.filter_cons, lost]
      rfl
    have kept : v.isSayable = true →
        saidMembers ((k, v) :: rest) = (k, v.said) :: saidMembers rest := by
      intro sayable
      rw [saidMembers, List.filter_cons, sayable]
      rfl
    rw [Fields.get?]
    by_cases same : k = name
    · subst same
      cases sayable : v.isSayable with
      | true => simp [kept sayable, Fields.get?, Option.filter, sayable]
      | false => simp [skipped sayable, ih, Fields.get?_of_notMem fresh, Option.filter, sayable]
    · cases sayable : v.isSayable with
      | true => simp [kept sayable, Fields.get?, same, ih]
      | false => simp [skipped sayable, same, ih]

mutual

/-- Saying what was said changes nothing any more. -/
theorem json_said : ∀ v : Value, v.said.json = v.json
  | .undefined => rfl
  | .null => rfl
  | .bool _ => rfl
  | .number x => by
    by_cases finite : x.isFinite = true
    · rw [said_number finite]
    · rw [said, json, Json.ofNumber_of_not_finite finite]
      rfl
  | .string _ => rfl
  | .array items => by rw [said, json, Json.value, json, json_saidItems items]
  | .object members => by rw [said, json, Json.value, json, json_saidMembers members]
  | .callable _ => rfl

/-- Writing, reading and writing again gives the first text. -/
theorem json_saidItems : ∀ items : List Value,
    jsonItems (Json.valueItems (jsonItems items)) = jsonItems items
  | [] => rfl
  | v :: rest => by
    rw [jsonItems, Json.valueItems, jsonItems, json_saidItems rest]
    exact congrArg (· :: _) (json_said v)

theorem json_saidMembers : ∀ members : List (String × Value),
    jsonMembers (Json.valueMembers (jsonMembers members)) = jsonMembers members
  | [] => rfl
  | (name, v) :: rest => by
    have ih := json_saidMembers rest
    rw [jsonMembers]
    split
    · rw [Json.valueMembers, jsonMembers, if_pos (Json.value_isSayable _), ih]
      exact congrArg (fun j => (name, j) :: _) (json_said v)
    · exact ih

end

mutual

/-- What equals a value that JSON denotes is said as it is. -/
theorem said_of_equal : ∀ (v : Value) (j : Json), v.isFinite = true → v.equal j.value = true →
    v.said = v
  | .undefined, j, _, same => by cases j <;> cases same
  | .null, _, _, _ => rfl
  | .bool _, _, _, _ => rfl
  | .number _, _, finite, _ => said_number finite
  | .string _, _, _, _ => rfl
  | .array items, j, finite, same => by
    cases j with
    | array js => rw [said, json, Json.value, saidItems_of_equal items js finite same]
    | _ => cases same
  | .object members, j, finite, same => by
    cases j with
    | object js =>
      simp only [Json.value, equal, Bool.and_eq_true] at same
      rw [said, json, Json.value, saidMembers_of_equal members js finite same.2]
    | _ => cases same
  | .callable _, j, _, same => by cases j <;> cases same

/-- Values equal to some that were read from JSON are said without loss. Only the finite are asked
for here, since equality already rules out what JSON cannot say. -/
theorem saidItems_of_equal : ∀ (items : List Value) (js : List Json),
    allNumbersItems Number.isFinite items = true →
    equalItems items (Json.valueItems js) = true → Json.valueItems (jsonItems items) = items
  | [], _, _, _ => rfl
  | v :: rest, [], _, same => by cases same
  | v :: rest, j :: js, finite, same => by
    rw [allNumbersItems, Bool.and_eq_true] at finite
    rw [Json.valueItems, equalItems, Bool.and_eq_true] at same
    rw [jsonItems, Json.valueItems, saidItems_of_equal rest js finite.2 same.2]
    exact congrArg (· :: _) (said_of_equal v j finite.1 same.1)

/-- The same of members, in which each name of one object is looked up in the other. -/
theorem saidMembers_of_equal : ∀ (members : List (String × Value)) (js : List (String × Json)),
    allNumbersMembers Number.isFinite members = true →
    equalMembers members (Json.valueMembers js) = true →
      Json.valueMembers (jsonMembers members) = members
  | [], _, _, _ => rfl
  | (name, v) :: rest, js, finite, same => by
    rw [allNumbersMembers, Bool.and_eq_true] at finite
    rw [equalMembers, Bool.and_eq_true, Json.get?_valueMembers] at same
    cases found : Fields.get? js name with
    | none =>
      rw [found] at same
      cases same.1
    | some j =>
      rw [found] at same
      have kept := said_of_equal v j finite.1 same.1
      have sayable : v.isSayable = true := kept ▸ Json.value_isSayable v.json
      rw [jsonMembers, if_pos sayable, Json.valueMembers,
        saidMembers_of_equal rest js finite.2 same.2]
      exact congrArg (fun w => (name, w) :: rest) kept

end

end Value

end Specimen
