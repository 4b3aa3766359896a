import Specimen.Json.Reader
import Specimen.Proofs.Fields
import Specimen.Proofs.Related

/-!
# Laws of readings

A reading has a JSON value exactly if it has no fault, and going on with the value is going on with
the reading, as far as its objects name each member once (`reading_of_settle`). A reading that broke
off has a fault (`breaksOff`), so a value that has been read has an end in the text.
-/

namespace Specimen

namespace Reading

/-- The items or members of a reading. -/
def parts : Reading → List Reading
  | .array items => items
  | .object members _ => members.map Prod.snd
  | _ => []

/-- What holds of a reading whose parts it holds of, holds of every reading. -/
theorem part_induction {P : Reading → Prop} (step : ∀ r, (∀ part ∈ r.parts, P part) → P r) (r) :
    P r := by
  refine step r fun part mem => ?_
  have smaller : sizeOf part < sizeOf r := by
    cases r with
    | array items =>
      have below : sizeOf part < sizeOf items := List.sizeOf_lt_of_mem mem
      simp only [array.sizeOf_spec]
      omega
    | object members stop =>
      obtain ⟨⟨name, member⟩, among, rfl⟩ := List.mem_map.mp mem
      have below := List.sizeOf_lt_of_mem among
      simp only [object.sizeOf_spec, Prod.mk.sizeOf_spec] at below ⊢
      omega
    | _ => cases mem
  exact part_induction step part
termination_by sizeOf r

/-! ## Settling -/

theorem settleItems_eq_ok {items : List Reading} {js : List Json} :
    settleItems items = .ok js ↔ List.Forall₂ (fun r j => r.settle = .ok j) items js := by
  induction items generalizing js with
  | nil => cases js <;> simp [settleItems]
  | cons item rest ih =>
    constructor
    · intro settled
      unfold settleItems at settled
      split at settled
      case h_1 => cases settled
      case h_2 j here =>
        split at settled
        case h_1 => cases settled
        case h_2 js there =>
          cases settled
          exact .cons here (ih.mp there)
    · rintro (_ | ⟨here, there⟩)
      rw [settleItems, here, ih.mpr there]

/-- Settling goes member by member and keeps every name, also one that is repeated: which of the two
counts is for the object to say. -/
theorem settleMembers_eq_ok {members : List (String × Reading)} {js : List (String × Json)} :
    settleMembers members = .ok js ↔ Fields.Alike (fun r j => r.settle = .ok j) members js := by
  induction members generalizing js with
  | nil => cases js <;> simp [settleMembers, Fields.Alike]
  | cons member rest ih =>
    obtain ⟨name, member⟩ := member
    constructor
    · intro settled
      unfold settleMembers at settled
      split at settled
      case h_1 => cases settled
      case h_2 j here =>
        split at settled
        case h_1 => cases settled
        case h_2 js there =>
          cases settled
          exact .cons ⟨rfl, here⟩ (ih.mp there)
    · rintro (_ | @⟨_, entry, _, _, head, there⟩)
      obtain ⟨name', j⟩ := entry
      obtain ⟨rfl, here⟩ := head
      rw [settleMembers, here, ih.mpr there]

/-- An array settles exactly if each of its items does. -/
theorem settle_array_eq_ok {items : List Reading} {j : Json} :
    (array items).settle = .ok j ↔
      ∃ js, List.Forall₂ (fun r j => r.settle = .ok j) items js ∧ j = .array js := by
  simp only [← settleItems_eq_ok]
  unfold settle
  cases settleItems items with
  | ok js => simp [eq_comm]
  | error fault => simp

/-- An object settles exactly if it was read to its end and each of its members settles. A repeated
name then has the value of its last member, at the place of its first. -/
theorem settle_object_eq_ok {members : List (String × Reading)} {stop : Option Fault} {j : Json} :
    (object members stop).settle = .ok j ↔
      stop = none ∧ ∃ js, Fields.Alike (fun r j => r.settle = .ok j) members js ∧
        j = .object (Fields.ofPairs js) := by
  simp only [← settleMembers_eq_ok]
  unfold settle
  cases settleMembers members with
  | ok js => cases stop <;> simp [eq_comm]
  | error fault => simp

theorem array_settles {items : List Reading} (each : ∀ item ∈ items, ∃ j, item.settle = .ok j) :
    ∃ j, (array items).settle = .ok j := by
  obtain ⟨js, each⟩ := List.Forall₂.exists_iff.mpr each
  exact ⟨_, settle_array_eq_ok.mpr ⟨js, each, rfl⟩⟩

theorem object_settles {members : List (String × Reading)}
    (each : ∀ member ∈ members, ∃ j, member.2.settle = .ok j) :
    ∃ j, (object members none).settle = .ok j := by
  have entries : ∀ member ∈ members, ∃ entry : String × Json,
      member.1 = entry.1 ∧ member.2.settle = .ok entry.2 := by
    intro member mem
    obtain ⟨j, settled⟩ := each member mem
    exact ⟨(member.1, j), rfl, settled⟩
  obtain ⟨js, each⟩ := List.Forall₂.exists_iff.mpr entries
  exact ⟨_, settle_object_eq_ok.mpr ⟨rfl, js, each, rfl⟩⟩

/-- Of whether a reading settles, without the value: a single bad item spoils an array. -/
theorem array_settles_iff {items : List Reading} :
    (∃ j, (array items).settle = .ok j) ↔ ∀ item ∈ items, ∃ j, item.settle = .ok j := by
  refine ⟨?_, array_settles⟩
  rintro ⟨j, settled⟩
  obtain ⟨js, each, _⟩ := settle_array_eq_ok.mp settled
  exact List.Forall₂.exists_iff.mp ⟨js, each⟩

/-- The same of objects, where having broken off spoils the object as well. -/
theorem object_settles_iff {members : List (String × Reading)} {stop : Option Fault} :
    (∃ j, (object members stop).settle = .ok j) ↔
      stop = none ∧ ∀ member ∈ members, ∃ j, member.2.settle = .ok j := by
  constructor
  · rintro ⟨j, settled⟩
    obtain ⟨whole, js, each, _⟩ := settle_object_eq_ok.mp settled
    refine ⟨whole, fun member mem => ?_⟩
    obtain ⟨entry, _, _, settled⟩ := each.exists_of_mem_left mem
    exact ⟨entry.2, settled⟩
  · rintro ⟨rfl, each⟩
    exact object_settles each

/-- A fault is answered exactly where there is no value to answer. -/
theorem fault?_eq_none {r : Reading} : r.fault? = none ↔ ∃ j, r.settle = .ok j := by
  unfold fault?
  cases r.settle with
  | ok j => simp
  | error fault => simp

end Reading

namespace Json

theorem readingItems_eq (items : List Json) : readingItems items = items.map reading := by
  induction items with
  | nil => rfl
  | cons item rest ih => rw [readingItems, ih, List.map_cons]

/-- A value read back is a reading that did not break off anywhere. -/
theorem readingMembers_eq (members : List (String × Json)) :
    readingMembers members = members.map fun member => (member.1, member.2.reading) := by
  induction members with
  | nil => rfl
  | cons member rest ih => rw [readingMembers, ih, List.map_cons]

end Json

namespace Reading

/-! ## Repeated names -/

mutual

/-- Whether every object in a reading names each member once. -/
def namesOnce : Reading → Bool
  | .array items => allNameOnce items
  | .object members _ => decide (Fields.keys members).Nodup && membersNameOnce members
  | _ => true

/-- Whether no reading of several repeats a name anywhere within. -/
def allNameOnce : List Reading → Bool
  | [] => true
  | r :: rest => namesOnce r && allNameOnce rest

/-- The same of the values of members. That the members' own names differ is asked apart from it. -/
def membersNameOnce : List (String × Reading) → Bool
  | [] => true
  | (_, r) :: rest => namesOnce r && membersNameOnce rest

end

theorem allNameOnce_eq_true {items : List Reading} :
    allNameOnce items = true ↔ ∀ item ∈ items, item.namesOnce = true := by
  induction items with
  | nil => simp [allNameOnce]
  | cons item rest ih => simp [allNameOnce, ih]

theorem membersNameOnce_eq_true {members : List (String × Reading)} :
    membersNameOnce members = true ↔ ∀ member ∈ members, member.2.namesOnce = true := by
  induction members with
  | nil => simp [membersNameOnce]
  | cons member rest ih => simp [membersNameOnce, ih]

/-- Where each member is named once, the value says all that the reading does. -/
theorem reading_of_settle (r : Reading) : ∀ {j : Json}, r.namesOnce = true → r.settle = .ok j →
    j.reading = r := by
  induction r using part_induction with
  | step r ih =>
    intro j once settled
    cases r with
    | array items =>
      have once := allNameOnce_eq_true.mp once
      obtain ⟨js, each, rfl⟩ := settle_array_eq_ok.mp settled
      have same : List.Forall₂ (fun item j => id item = Json.reading j) items js :=
        each.imp_of_mem_left fun item j mem settled => (ih item mem (once item mem) settled).symm
      rw [Json.reading, Json.readingItems_eq, ← same.map_eq fun _ _ same => same, List.map_id]
    | object members stop =>
      rw [namesOnce, Bool.and_eq_true, decide_eq_true_iff] at once
      obtain ⟨nodup, once⟩ := once
      have once := membersNameOnce_eq_true.mp once
      obtain ⟨rfl, js, each, rfl⟩ := settle_object_eq_ok.mp settled
      have same : List.Forall₂ (fun member entry => id member = (entry.1, Json.reading entry.2))
          members js := by
        refine each.imp_of_mem_left fun member entry mem settled => Prod.ext settled.1 ?_
        exact (ih member.2 (List.mem_map_of_mem mem) (once member mem) settled.2).symm
      rw [Fields.ofPairs_of_nodup (each.keys_eq ▸ nodup), Json.reading, Json.readingMembers_eq,
        ← same.map_eq fun _ _ same => same, List.map_id]
    | broken fault => cases settled
    | _ => cases settled; rfl

end Reading

/-! ## Reading texts -/

namespace Json

/-- A reading that has come to a stop without a rest stands for no value. -/
theorem not_settled_of_stopped {fault : Fault} {r : Reading} (ran : stopped fault = (r, none))
    (j : Json) : r.settle ≠ .ok j := by
  cases ran
  nofun

/-- A word that is cut short, such as the beginning of null, stands for none either. -/
theorem not_settled_of_word {text : String} {value r : Reading} {cs : List Char}
    (ran : word text value cs = (r, none)) (j : Json) : r.settle ≠ .ok j := by
  unfold word at ran
  split at ran
  · cases ran
  · exact not_settled_of_stopped ran j

/-- What reading breaks off in, within so much fuel, has a fault. -/
structure BreaksOff (fuel : Nat) : Prop where
  value : ∀ {depth cs r}, readValue fuel depth cs = (r, none) → ∀ j, r.settle ≠ .ok j
  items : ∀ {depth cs items}, readItems fuel depth cs = (items, none) →
    ∀ js, Reading.settleItems items ≠ .ok js
  members : ∀ {depth cs members}, readMembers fuel depth cs = (members, none, none) →
    ∀ js, Reading.settleMembers members ≠ .ok js

section Steps

variable {fuel depth : Nat} {cs : List Char}

/-- Without fuel nothing is read, so nothing that was read can settle. -/
theorem BreaksOff.zero : BreaksOff 0 where
  value := by
    rintro depth cs r ⟨⟩
    nofun
  items := by
    rintro depth cs items ⟨⟩
    nofun
  members := by rintro depth cs members ⟨⟩

/-- A value that could not be read to its end has broken off in one of its parts, or at its own
bracket. -/
theorem BreaksOff.readValue_succ {r : Reading} (below : BreaksOff fuel)
    (ran : readValue (fuel + 1) depth cs = (r, none)) (j : Json) : r.settle ≠ .ok j := by
  unfold readValue at ran
  split at ran
  · exact not_settled_of_stopped ran j
  · split at ran
    · cases ran
    · exact not_settled_of_stopped ran j
  -- an array
  · split at ran
    · exact not_settled_of_stopped ran j
    · split at ran
      · cases ran
      · rename_i depth _ _
        rcases read : readItems fuel depth (skipBlanks _) with ⟨items, after⟩
        rw [read] at ran
        cases ran
        intro settled
        obtain ⟨js, each, _⟩ := Reading.settle_array_eq_ok.mp settled
        exact below.items read js (Reading.settleItems_eq_ok.mpr each)
  -- an object
  · split at ran
    · exact not_settled_of_stopped ran j
    · split at ran
      · cases ran
      · rename_i depth _ _
        rcases read : readMembers fuel depth (skipBlanks _) with ⟨members, stop, after⟩
        rw [read] at ran
        cases ran
        intro settled
        obtain ⟨rfl, js, each, _⟩ := Reading.settle_object_eq_ok.mp settled
        exact below.members read js (Reading.settleMembers_eq_ok.mpr each)
  · exact not_settled_of_word ran j
  · exact not_settled_of_word ran j
  · exact not_settled_of_word ran j
  -- a number
  · split at ran
    · exact not_settled_of_stopped ran j
    · split at ran
      · cases ran
      · exact not_settled_of_stopped ran j

/-- Of items, the last one that was begun is the one that broke off. -/
theorem BreaksOff.readItems_succ {items : List Reading} (below : BreaksOff fuel)
    (ran : readItems (fuel + 1) depth cs = (items, none)) (js : List Json) :
    Reading.settleItems items ≠ .ok js := by
  intro settled
  have each := Reading.settleItems_eq_ok.mp settled
  unfold readItems at ran
  split at ran
  case h_1 read =>
    cases ran
    cases each with
    | cons head _ => exact below.value read _ head
  case h_2 =>
    split at ran
    · rcases read : readItems fuel depth _ with ⟨items, after⟩
      rw [read] at ran
      cases ran
      cases each with
      | cons _ tail => exact below.items read _ (Reading.settleItems_eq_ok.mpr tail)
    · cases ran
    · cases ran
      cases each with
      | cons _ tail => cases tail with
        | cons broken _ => cases broken

/-- Of members, either a name or the value under it. -/
theorem BreaksOff.readMembers_succ {members : List (String × Reading)} (below : BreaksOff fuel)
    (ran : readMembers (fuel + 1) depth cs = (members, none, none)) (js : List (String × Json)) :
    Reading.settleMembers members ≠ .ok js := by
  intro settled
  have each := Reading.settleMembers_eq_ok.mp settled
  unfold readMembers at ran
  split at ran
  case h_2 => cases ran
  case h_1 =>
    split at ran
    case h_1 => cases ran
    case h_2 =>
      split at ran
      -- no colon after the name
      case h_2 =>
        cases ran
        cases each with
        | cons head _ => cases head.2
      case h_1 =>
        split at ran
        case h_1 read =>
          cases ran
          cases each with
          | cons head _ => exact below.value read _ head.2
        case h_2 =>
          split at ran
          · rcases read : readMembers fuel depth _ with ⟨members, stop, after⟩
            rw [read] at ran
            cases ran
            cases each with
            | cons _ tail => exact below.members read _ (Reading.settleMembers_eq_ok.mpr tail)
          · cases ran
          · cases ran

end Steps

/-- A reading that leaves no rest never settles: the three laws together, by induction on the fuel
they share. -/
theorem breaksOff (fuel : Nat) : BreaksOff fuel := by
  induction fuel with
  | zero => exact .zero
  | succ fuel below => exact ⟨below.readValue_succ, below.readItems_succ, below.readMembers_succ⟩

/-! ### Whole texts -/

variable {text : String} {j : Json}

/-- A text that has a first value is that value if only blanks follow it. -/
theorem parse_of_settle {first : Reading} {rest : List Char}
    (ran : readFirst text = (first, some rest)) (settled : first.settle = .ok j) :
    parse text = if (skipBlanks rest).isEmpty then .ok j else .error .malformed := by
  rw [parse, ran]
  simp only [settled]

/-- A text that is a JSON document begins with a value, and that is the value of the document. What
may follow it is blank, which this does not say. -/
theorem settle_of_parse (parsed : parse text = .ok j) :
    ∃ first rest, readFirst text = (first, some rest) ∧ first.settle = .ok j := by
  rcases ran : readFirst text with ⟨first, _ | rest⟩
  · rw [parse, ran] at parsed
    exact absurd parsed ((breaksOff _).value ran j)
  · cases settled : first.settle with
    | error fault =>
      rw [parse, ran] at parsed
      simp only [settled, reduceCtorEq] at parsed
    | ok j' =>
      rw [parse_of_settle ran settled] at parsed
      split at parsed
      · cases parsed
        exact ⟨first, rest, rfl, settled⟩
      · cases parsed

end Json

end Specimen
