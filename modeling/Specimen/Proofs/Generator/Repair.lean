import Mathlib.Data.List.Basic
import Mathlib.Tactic.Common
import Specimen.Generator.Repair

/-!
# The count of a repaired list

A repair goes one of three ways, by how the number of accepted items compares with the wanted count.
Each way is followed by what it does to that number: an insertion adds one if its item is accepted
(`countP_insertAt`), so splicing accepted extras adds as many as there are (`countP_spliceAll`), and
keeping the first accepted items leaves the wanted count of them (`countP_keepFirst`). Given extras
that are all accepted, and as many of them and of slots as are wanted, the three ways meet in the
wanted count (`countP_repairItems`), whatever the items and wherever the slots point.

No item comes from elsewhere (`mem_of_mem_repairItems`).
-/

namespace Specimen

variable {α : Type} {accepts : α → Bool} {x : α} {count : Nat}

/-! ## One insertion -/

theorem mem_insertAt {items : List α} {place : Nat} {item : α} :
    x ∈ insertAt items place item ↔ x = item ∨ x ∈ items := by
  have parts : x ∈ items ↔ x ∈ items.take place ∨ x ∈ items.drop place := by
    rw [← List.mem_append, List.take_append_drop]
  rw [insertAt, List.mem_append, List.mem_cons, parts]
  exact or_left_comm

/-- Inserting an item adds it to the count if it is accepted, wherever it is put: a place beyond the
end is a place at the end. -/
theorem countP_insertAt (items : List α) (place : Nat) (item : α) :
    (insertAt items place item).countP accepts =
      items.countP accepts + if accepts item = true then 1 else 0 := by
  have parts : items.countP accepts =
      (items.take place).countP accepts + (items.drop place).countP accepts := by
    rw [← List.countP_append, List.take_append_drop]
  rw [insertAt, List.countP_append, List.countP_cons, parts, Nat.add_assoc]

/-! ## Splicing -/

/-- Splicing loses nothing and brings nothing but the extras. -/
theorem mem_spliceAll : ∀ {extras : List (α × Nat)} {items : List α},
    x ∈ spliceAll items extras ↔ x ∈ extras.map Prod.fst ∨ x ∈ items
  | [], items => by simp [spliceAll]
  | (extra, slot) :: rest, items => by
    rw [spliceAll, mem_spliceAll, mem_insertAt, List.map_cons, List.mem_cons]
    exact or_left_comm.trans or_assoc.symm

/-- Each extra that is accepted counts once, so the count of a list that lacks some is brought up by
exactly their number. -/
theorem countP_spliceAll : ∀ {extras : List (α × Nat)} (items : List α),
    (∀ extra ∈ extras, accepts extra.1 = true) →
      (spliceAll items extras).countP accepts = items.countP accepts + extras.length
  | [], _, _ => rfl
  | (extra, slot) :: rest, items, matching => by
    have first : accepts extra = true := matching _ List.mem_cons_self
    have others : ∀ extra ∈ rest, accepts extra.1 = true := fun _ mem =>
      matching _ (List.mem_cons_of_mem _ mem)
    rw [spliceAll, countP_spliceAll _ others, countP_insertAt, if_pos first, List.length_cons]
    omega

/-! ## Dropping the surplus -/

/-- An item that is not accepted stays, however many have been kept. -/
theorem keepFirst_rejected {xs : List α} (rejected : ¬accepts x = true) :
    keepFirst accepts count (x :: xs) = x :: keepFirst accepts count xs := by
  cases count with
  | zero => rw [keepFirst, if_neg rejected]
  | succ count => rw [keepFirst, if_neg rejected]

/-- Surplus items are taken out; nothing is moved. -/
theorem keepFirst_sublist (accepts : α → Bool) : ∀ (count : Nat) (items : List α),
    (keepFirst accepts count items).Sublist items
  | _, [] => by simp [keepFirst]
  | count, x :: xs => by
    by_cases accepted : accepts x = true
    · cases count with
      | zero =>
        rw [keepFirst, if_pos accepted]
        exact (keepFirst_sublist accepts 0 xs).cons x
      | succ count =>
        rw [keepFirst, if_pos accepted]
        exact (keepFirst_sublist accepts count xs).cons_cons x
    · rw [keepFirst_rejected accepted]
      exact (keepFirst_sublist accepts count xs).cons_cons x

/-- What is left has as many accepted items as were to be kept, or all there were. -/
theorem countP_keepFirst (accepts : α → Bool) : ∀ (count : Nat) (items : List α),
    (keepFirst accepts count items).countP accepts = min count (items.countP accepts)
  | count, [] => by simp [keepFirst]
  | count, x :: xs => by
    by_cases accepted : accepts x = true
    · cases count with
      | zero =>
        have dropped := countP_keepFirst accepts 0 xs
        rw [keepFirst, if_pos accepted, dropped, Nat.zero_min, Nat.zero_min]
      | succ count =>
        have kept := countP_keepFirst accepts count xs
        rw [keepFirst, if_pos accepted, List.countP_cons_of_pos accepted,
          List.countP_cons_of_pos accepted, kept]
        omega
    · have kept := countP_keepFirst accepts count xs
      rw [keepFirst_rejected accepted, List.countP_cons_of_neg accepted,
        List.countP_cons_of_neg accepted, kept]

/-- The items that are not accepted all stay. -/
theorem filter_rejected_keepFirst (accepts : α → Bool) : ∀ (count : Nat) (items : List α),
    (keepFirst accepts count items).filter (fun x => !accepts x) =
      items.filter fun x => !accepts x
  | _, [] => by simp [keepFirst]
  | count, x :: xs => by
    by_cases accepted : accepts x = true
    · cases count with
      | zero => simp [keepFirst, accepted, filter_rejected_keepFirst accepts 0 xs]
      | succ count => simp [keepFirst, accepted, filter_rejected_keepFirst accepts count xs]
    · rw [keepFirst_rejected accepted]
      simp [accepted, filter_rejected_keepFirst accepts count xs]

/-- Of those accepted it is the first that are kept. -/
theorem filter_accepted_keepFirst (accepts : α → Bool) : ∀ (count : Nat) (items : List α),
    (keepFirst accepts count items).filter accepts = (items.filter accepts).take count
  | _, [] => by simp [keepFirst]
  | count, x :: xs => by
    by_cases accepted : accepts x = true
    · cases count with
      | zero => simp [keepFirst, accepted, filter_accepted_keepFirst accepts 0 xs]
      | succ count => simp [keepFirst, accepted, filter_accepted_keepFirst accepts count xs]
    · rw [keepFirst_rejected accepted]
      simp [accepted, filter_accepted_keepFirst accepts count xs]

/-- Where there is no surplus nothing is dropped. -/
theorem keepFirst_of_le {items : List α} (few : items.countP accepts ≤ count) :
    keepFirst accepts count items = items := by
  refine (keepFirst_sublist accepts count items).eq_of_length ?_
  have accepted := countP_keepFirst accepts count items
  have rejected := congrArg List.length (filter_rejected_keepFirst accepts count items)
  rw [← List.countP_eq_length_filter, ← List.countP_eq_length_filter] at rejected
  have before := items.length_eq_countP_add_countP accepts
  have after := (keepFirst accepts count items).length_eq_countP_add_countP accepts
  simp only [Bool.not_eq_true, Bool.decide_eq_false] at before after
  omega

/-! ## The whole repair -/

theorem mem_of_mem_repairItems {items extras : List α} {slots : List Nat}
    (mem : x ∈ repairItems accepts count items extras slots) : x ∈ extras ∨ x ∈ items := by
  unfold repairItems at mem
  dsimp only at mem
  split at mem
  · rcases mem_spliceAll.mp mem with spliced | kept
    · obtain ⟨pair, among, rfl⟩ := List.mem_map.mp spliced
      exact .inl (List.of_mem_zip (List.mem_of_mem_take among)).1
    · exact .inr kept
  · split at mem
    · exact .inr ((keepFirst_sublist accepts count items).mem mem)
    · exact .inr mem

/-- A repaired list has the wanted count of accepted items. -/
theorem countP_repairItems {extras : List α} {slots : List Nat} (items : List α)
    (matching : ∀ extra ∈ extras, accepts extra = true) (enough : extras.length = count)
    (placed : slots.length = count) :
    (repairItems accepts count items extras slots).countP accepts = count := by
  unfold repairItems
  dsimp only
  by_cases few : items.countP accepts < count
  · have spliced : ∀ pair ∈ (extras.zip slots).take (count - items.countP accepts),
        accepts pair.1 = true := fun pair mem =>
      matching _ (List.of_mem_zip (List.mem_of_mem_take mem)).1
    rw [if_pos few, countP_spliceAll items spliced, List.length_take, List.length_zip, enough,
      placed]
    omega
  · rw [if_neg few]
    by_cases many : count < items.countP accepts
    · rw [if_pos many, countP_keepFirst]
      omega
    · rw [if_neg many]
      omega

end Specimen
