import Mathlib.Data.List.Perm.Basic
import Specimen.Compiler.Contains
import Specimen.Proofs.Generator.Repair

/-!
# A repair changes as little as possible

What a repair of a count does to an array, element by element (`repair_changes_least`). Of too few
matches, the missing ones are put in, and every insertion has a place within the list as it then is
(`Splices`). Of too many, the elements that stay are told by their positions, since the first match
and a later one may be alike (`keepFirst_eq_filter`). In all other cases nothing happens.

That the old elements come back when the new ones are deleted is seen on marked elements: splicing
does not look at what it splices (`map_spliceAll`), so it may as well carry a mark for the new ones
along.
-/

namespace Specimen

variable {α β : Type} {accepts : α → Bool}

/-! ## Splicing -/

/-- Extras go into a list one after the other. Each has a place in the list as it then is: in front
of it stand as many elements as its slot comes to, counted round the list. -/
inductive Splices : List α → List (α × Nat) → List α → Prop
  | done (items : List α) : Splices items [] items
  | step {front back result : List α} {extra : α} {slot : Nat} {rest : List (α × Nat)}
      (placed : front.length = slot % ((front ++ back).length + 1))
      (others : Splices (front ++ extra :: back) rest result) :
    Splices (front ++ back) ((extra, slot) :: rest) result

/-- No place is out of range. -/
theorem splices_spliceAll : ∀ (extras : List (α × Nat)) (items : List α),
    Splices items extras (spliceAll items extras)
  | [], items => .done items
  | (extra, slot) :: rest, items => by
    let place := slot % (items.length + 1)
    have within : place ≤ items.length := Nat.lt_succ_iff.mp (Nat.mod_lt _ (Nat.succ_pos _))
    have parts : items.take place ++ items.drop place = items := List.take_append_drop _ _
    have placed : (items.take place).length =
        slot % ((items.take place ++ items.drop place).length + 1) := by
      rw [parts, List.length_take, Nat.min_eq_left within]
    have others := splices_spliceAll rest (items.take place ++ extra :: items.drop place)
    have whole := Splices.step placed others
    rw [parts] at whole
    exact whole

theorem map_spliceAll (f : α → β) : ∀ (extras : List (α × Nat)) (items : List α),
    (spliceAll items extras).map f = spliceAll (items.map f) (extras.map (Prod.map f id))
  | [], _ => rfl
  | (extra, slot) :: rest, items => by
    have inserted (place : Nat) : (insertAt items place extra).map f =
        insertAt (items.map f) place (f extra) := by
      rw [insertAt, insertAt, List.map_append, List.map_cons, List.map_take, List.map_drop]
    rw [spliceAll, map_spliceAll, List.map_cons, spliceAll, inserted, List.length_map]
    rfl

/-- Extras that a test rejects are not seen by it. -/
theorem filter_spliceAll : ∀ {extras : List (α × Nat)} (items : List α),
    (∀ extra ∈ extras, accepts extra.1 = false) →
      (spliceAll items extras).filter accepts = items.filter accepts
  | [], _, _ => rfl
  | (extra, slot) :: rest, items, rejected => by
    obtain ⟨first, others⟩ := List.forall_mem_cons.mp rejected
    have inserted (place : Nat) : (insertAt items place extra).filter accepts =
        items.filter accepts := by
      rw [insertAt, List.filter_append, List.filter_cons_of_neg (by simp [first]),
        ← List.filter_append, List.take_append_drop]
    rw [spliceAll, filter_spliceAll _ others, inserted]

theorem spliceAll_perm : ∀ (extras : List (α × Nat)) (items : List α),
    (spliceAll items extras).Perm (extras.map Prod.fst ++ items)
  | [], _ => .refl _
  | (extra, slot) :: rest, items => by
    let place := slot % (items.length + 1)
    have inserted : (insertAt items place extra).Perm (extra :: items) := by
      refine List.perm_middle.trans ?_
      rw [List.take_append_drop]
    have others : (spliceAll (insertAt items place extra) rest).Perm
        (rest.map Prod.fst ++ insertAt items place extra) := spliceAll_perm rest _
    exact others.trans ((inserted.append_left _).trans List.perm_middle)

/-- A list with others put into it here and there: some marks tell which elements are new. The old
ones come back, in order, when the new ones are deleted. -/
def PutInto (items added result : List α) : Prop :=
  ∃ marked : List (α × Bool), marked.map Prod.fst = result ∧
    (marked.filter fun entry => !entry.2).map Prod.fst = items ∧
    ((marked.filter fun entry => entry.2).map Prod.fst).Perm added

theorem putInto_spliceAll (items : List α) (extras : List (α × Nat)) :
    PutInto items (extras.map Prod.fst) (spliceAll items extras) := by
  let old : List (α × Bool) := items.map fun x => (x, false)
  let new : List ((α × Bool) × Nat) := extras.map fun extra => ((extra.1, true), extra.2)
  have ofNew : ∀ extra ∈ new, extra.1.2 = true := by
    rintro _ mem
    obtain ⟨extra, _, rfl⟩ := List.mem_map.mp mem
    rfl
  have ofOld : ∀ entry ∈ old, entry.2 = false := by
    rintro _ mem
    obtain ⟨x, _, rfl⟩ := List.mem_map.mp mem
    rfl
  have oldItems : old.map Prod.fst = items := by simp [old, Function.comp_def]
  have newExtras : new.map (Prod.map Prod.fst id) = extras := by simp [new, Function.comp_def]
  have newItems : (new.map Prod.fst).map Prod.fst = extras.map Prod.fst := by simp [new]
  refine ⟨spliceAll old new, ?_, ?_, ?_⟩
  · rw [map_spliceAll, oldItems, newExtras]
  · have kept : old.filter (fun entry => !entry.2) = old :=
      List.filter_eq_self.mpr fun entry mem => by simp [ofOld entry mem]
    rw [filter_spliceAll old fun extra mem => by simp [ofNew extra mem], kept, oldItems]
  · have perm := (spliceAll_perm new old).filter fun entry => entry.2
    have noneOld : old.filter (fun entry => entry.2) = [] :=
      List.filter_eq_nil_iff.mpr fun entry mem => by simp [ofOld entry mem]
    have allNew : (new.map Prod.fst).filter (fun entry => entry.2) = new.map Prod.fst := by
      refine List.filter_eq_self.mpr fun entry mem => ?_
      obtain ⟨extra, among, rfl⟩ := List.mem_map.mp mem
      exact ofNew extra among
    rw [List.filter_append, noneOld, allNew, List.append_nil] at perm
    rw [← newItems]
    exact perm.map Prod.fst

/-! ## Dropping the surplus -/

/-- A list without its surplus: an element stays unless it is accepted and enough accepted ones
stand in front of it. -/
def withoutSurplus (accepts : α → Bool) (count : Nat) (items : List α) : List α :=
  (items.zipIdx.filter fun entry =>
    !accepts entry.1 || decide ((items.take entry.2).countP accepts < count)).map Prod.fst

/-- The induction is on what is still to be seen, and `seen` stands in front of it: as many are
still to be kept as are wanted beyond the accepted ones that have been seen. -/
private theorem keepFirst_eq_filter (accepts : α → Bool) (count : Nat) : ∀ seen items : List α,
    keepFirst accepts (count - seen.countP accepts) items =
      ((items.zipIdx seen.length).filter fun entry => !accepts entry.1 ||
        decide (((seen ++ items).take entry.2).countP accepts < count)).map Prod.fst
  | _, [] => by simp [keepFirst]
  | seen, x :: xs => by
    have rest := keepFirst_eq_filter accepts count (seen ++ [x]) xs
    rw [List.append_assoc, List.singleton_append, List.length_append, List.length_singleton,
      List.countP_append, List.countP_singleton] at rest
    rw [List.zipIdx_cons]
    by_cases accepted : accepts x = true
    · rw [if_pos accepted] at rest
      by_cases more : seen.countP accepts < count
      · have left : count - seen.countP accepts = count - (seen.countP accepts + 1) + 1 := by omega
        rw [left, keepFirst, if_pos accepted, rest, List.filter_cons_of_pos (by simp [more])]
        rfl
      · have enough : count - seen.countP accepts = 0 := by omega
        have still : count - (seen.countP accepts + 1) = 0 := by omega
        rw [still] at rest
        rw [enough, keepFirst, if_pos accepted, rest,
          List.filter_cons_of_neg (by simp [accepted, more])]
    · rw [if_neg accepted, Nat.add_zero] at rest
      rw [keepFirst_rejected accepted, rest, List.filter_cons_of_pos (by simp [accepted])]
      rfl

theorem keepFirst_eq_withoutSurplus (accepts : α → Bool) (count : Nat) (items : List α) :
    keepFirst accepts count items = withoutSurplus accepts count items :=
  keepFirst_eq_filter accepts count [] items

/-! ## The whole repair -/

namespace Contains

/-- What is not an array is left as it is, and an array is changed as little as brings the number of
matches to `count`, given as many extras and slots.

Of too few matches, exactly the missing ones are put in, the first of the extras. Each has a place
in the list as it then is, and when they are deleted again, the array comes back. Of too many, every
element stays that does not match, and of those that match exactly the first; nothing changes
places. If the count is right, the array stays as it is. And if all extras match, the count is right
afterwards. -/
theorem repair_changes_least (item : Descriptor) (count : Nat) (extras : List Value)
    (slots : List Nat) (enough : extras.length = count) (placed : slots.length = count) :
    (∀ v : Value, v.asArray? = none → v.repair item.guard count extras slots = v) ∧
    ∀ xs : List Value, ∃ ys,
      (Value.array xs).repair item.guard count extras slots = .array ys ∧
      (xs.countP item.guard < count →
        Splices xs ((extras.zip slots).take (count - xs.countP item.guard)) ys ∧
        PutInto xs (extras.take (count - xs.countP item.guard)) ys) ∧
      (count < xs.countP item.guard → ys = withoutSurplus item.guard count xs) ∧
      (xs.countP item.guard = count → ys = xs) ∧
      ((∀ extra ∈ extras, item.guard extra = true) →
        countMatching (.array ys) item = some count) := by
  constructor
  · intro v other
    cases v with
    | array items => cases other
    | _ => rfl
  · intro xs
    refine ⟨repairItems item.guard count xs extras slots, rfl, ?_, ?_, ?_, ?_⟩
    · intro few
      -- each extra has a slot, so taking some pairs is taking as many extras
      have spliced : ((extras.zip slots).take (count - xs.countP item.guard)).map Prod.fst =
          extras.take (count - xs.countP item.guard) := by
        rw [List.map_take, List.map_fst_zip (Nat.le_of_eq (enough.trans placed.symm))]
      rw [repairItems, if_pos few, ← spliced]
      exact ⟨splices_spliceAll _ xs, putInto_spliceAll xs _⟩
    · intro many
      rw [repairItems, if_neg (Nat.lt_asymm many), if_pos many]
      exact keepFirst_eq_withoutSurplus item.guard count xs
    · intro exact
      rw [repairItems, if_neg (by omega), if_neg (by omega)]
    · exact fun matching => congrArg some (countP_repairItems xs matching enough placed)

/-- Two truths are put in beside a falsehood, at the least and at the greatest slot; and of three
truths the first is kept, with the falsehood behind it, whatever the extra is. -/
theorem truths_are_mended :
    (∃ ys, (Value.array [.bool false]).repair (Descriptor.node 0 (.literal (.bool true))).guard 2
        [.bool true, .bool true] [0, 0xFFFFFFFFFFFFFFFF] = .array ys ∧
      PutInto [.bool false] [.bool true, .bool true] ys ∧
      countMatching (.array ys) (.node 0 (.literal (.bool true))) = some 2) ∧
    (Value.array [.bool true, .bool false, .bool true, .bool true]).repair
        (Descriptor.node 0 (.literal (.bool true))).guard 1 [.null] [7] =
      .array [.bool true, .bool false] := by
  constructor
  · obtain ⟨ys, repaired, few, _, _, counted⟩ :=
      (repair_changes_least (.node 0 (.literal (.bool true))) 2 [.bool true, .bool true]
        [0, 0xFFFFFFFFFFFFFFFF] rfl rfl).2 [.bool false]
    exact ⟨ys, repaired, (few (by decide)).2, counted (by decide)⟩
  · obtain ⟨ys, repaired, _, many, _⟩ :=
      (repair_changes_least (.node 0 (.literal (.bool true))) 1 [.null] [7] rfl rfl).2
        [.bool true, .bool false, .bool true, .bool true]
    rw [repaired, many (by decide)]
    rfl

end Contains

end Specimen
