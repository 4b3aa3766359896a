import Mathlib.Data.Finset.Sort
import Mathlib.Data.List.Find
import Mathlib.Data.String.Basic
import Specimen.Compiler.Basic

/-!
# Ordered tables

Sets are listed in an order of their own (`tagSet_eq_iff`, `textSet_eq_iff`), so that equal sets are
equal lists. A table filled by `register` holds, for each key, what was registered last under it, in
the order in which the keys came first (`tableOf_concat`).
-/

namespace Specimen

/-! ## Sets of kinds -/

@[simp] theorem mem_tagSet {tag : Tag} {tags : List Tag} : tag ∈ tagSet tags ↔ tag ∈ tags := by
  unfold tagSet
  rw [List.mem_filter, List.contains_iff_mem]
  exact and_iff_right (by cases tag <;> decide)

theorem toFinset_tagSet (tags : List Tag) : (tagSet tags).toFinset = tags.toFinset := by
  ext tag
  simp

/-- Tags in order and without repetition are as good as a set of tags. -/
theorem tagSet_eq_iff {a b : List Tag} : tagSet a = tagSet b ↔ a.toFinset = b.toFinset := by
  constructor
  · intro same
    rw [← toFinset_tagSet a, same, toFinset_tagSet]
  · intro same
    refine List.filter_congr fun tag _ => Bool.eq_iff_iff.mpr ?_
    rw [List.contains_iff_mem, List.contains_iff_mem, ← List.mem_toFinset, same, List.mem_toFinset]

/-! ## Sets of texts -/

section Repetitions

variable {α : Type} [LinearOrder α]

/-- What the loop has kept stands before what it is about to keep. -/
private theorem eraseReps_loop (a : α) (rest kept : List α) :
    List.eraseRepsBy.loop (· == ·) a rest kept = kept.reverse ++ (a :: rest).eraseReps := by
  unfold List.eraseReps List.eraseRepsBy
  induction rest generalizing a kept with
  | nil => simp [List.eraseRepsBy.loop]
  | cons b rest ih =>
    simp only [List.eraseRepsBy.loop]
    cases a == b with
    | true => exact ih a kept
    | false => simp [ih b (a :: kept), ih b [a]]

private theorem eraseReps_cons_cons (a b : α) (rest : List α) :
    (a :: b :: rest).eraseReps =
      if a = b then (a :: rest).eraseReps else a :: (b :: rest).eraseReps := by
  conv_lhs => unfold List.eraseReps List.eraseRepsBy
  simp only [List.eraseRepsBy.loop]
  by_cases same : a = b
  · rw [beq_iff_eq.mpr same, if_pos same]
    rfl
  · rw [beq_false_of_ne same, if_neg same]
    exact eraseReps_loop b rest [a]

/-- Erasing what is repeated side by side loses nothing. In a sorted list that is every repetition.
-/
theorem mem_eraseReps {x : α} : ∀ {list : List α}, x ∈ list.eraseReps ↔ x ∈ list
  | [] => Iff.rfl
  | [a] => Iff.rfl
  | a :: b :: rest => by
    rw [eraseReps_cons_cons]
    split
    case isTrue same => simp [mem_eraseReps, same]
    case isFalse => simp [mem_eraseReps]

/-- What ascends, repetitions apart, ascends strictly without them. -/
theorem pairwise_eraseReps :
    ∀ {list : List α}, list.Pairwise (· ≤ ·) → list.eraseReps.Pairwise (· < ·)
  | [], _ => .nil
  | [a], _ => List.pairwise_singleton _ a
  | a :: b :: rest, ascends => by
    obtain ⟨least, ascends⟩ := List.pairwise_cons.mp ascends
    rw [eraseReps_cons_cons]
    split
    case isTrue same => exact pairwise_eraseReps (same ▸ ascends)
    case isFalse apart =>
      refine List.pairwise_cons.mpr ⟨fun x mem => ?_, pairwise_eraseReps ascends⟩
      have below : a < b := lt_of_le_of_ne (least b List.mem_cons_self) apart
      rcases List.mem_cons.mp (mem_eraseReps.mp mem) with rfl | mem
      · exact below
      · exact lt_of_lt_of_le below ((List.pairwise_cons.mp ascends).1 x mem)

end Repetitions

@[simp] theorem mem_textSet {text : String} {texts : List String} :
    text ∈ textSet texts ↔ text ∈ texts := by
  unfold textSet
  rw [mem_eraseReps, List.mem_mergeSort]

theorem toFinset_textSet (texts : List String) : (textSet texts).toFinset = texts.toFinset := by
  ext text
  simp

/-- Names are put in order and said once. -/
theorem pairwise_textSet (texts : List String) : (textSet texts).Pairwise (· < ·) := by
  have sorted : (texts.mergeSort fun a b => !decide (b < a)).Pairwise
      fun a b => (!decide (b < a)) = true := by
    refine List.pairwise_mergeSort (fun a b c => ?_) (fun a b => ?_) texts
    · simpa only [Bool.not_eq_true', decide_eq_false_iff_not, not_lt] using le_trans
    · simpa only [Bool.or_eq_true, Bool.not_eq_true', decide_eq_false_iff_not, not_lt]
        using le_total a b
  refine pairwise_eraseReps (sorted.imp fun le => ?_)
  simpa only [Bool.not_eq_true', decide_eq_false_iff_not, not_lt] using le

/-- The same of names. -/
theorem textSet_eq_iff {a b : List String} : textSet a = textSet b ↔ a.toFinset = b.toFinset := by
  constructor
  · intro same
    rw [← toFinset_textSet a, same, toFinset_textSet]
  · intro same
    have listed : ∀ texts, textSet texts = (textSet texts).toFinset.sort (· ≤ ·) := fun texts =>
      ((List.toFinset_sort _ ((pairwise_textSet texts).imp ne_of_lt)).mpr
        ((pairwise_textSet texts).imp le_of_lt)).symm
    rw [listed a, listed b, toFinset_textSet, toFinset_textSet, same]

/-! ## Tables -/

section Table

variable {α κ : Type} [BEq κ] {key : α → κ} {made : List α} {entry : α} {k : κ}

/-- The entry made last under a key. -/
def latest? (key : α → κ) (made : List α) (k : κ) : Option α :=
  made.reverse.find? fun entry => key entry == k

/-- For each key the entry made last under it, in the order in which the keys came first. -/
def tableOf (key : α → κ) (made : List α) : List α :=
  (made.map key).eraseDups.filterMap (latest? key made)

/-- The entry made last hides those made before it under its key. -/
theorem latest?_concat :
    latest? key (made ++ [entry]) k = if key entry == k then some entry else latest? key made k := by
  unfold latest?
  rw [List.reverse_concat, List.find?_cons]
  cases key entry == k <;> rfl

variable [LawfulBEq κ]

theorem key_of_latest? (found : latest? key made k = some entry) : key entry = k := by
  unfold latest? at found
  simpa using List.find?_some found

theorem exists_latest? (mem : k ∈ made.map key) : ∃ entry, latest? key made k = some entry := by
  obtain ⟨entry, made, rfl⟩ := List.mem_map.mp mem
  unfold latest?
  refine Option.isSome_iff_exists.mp (List.find?_isSome.mpr ⟨entry, ?_, beq_self_eq_true _⟩)
  exact List.mem_reverse.mpr made

/-- The entry made last under a key is followed by none under the same. -/
theorem latest?_eq_some :
    latest? key made k = some entry ↔
      key entry = k ∧ ∃ before after, made = before ++ entry :: after ∧
        ∀ later ∈ after, key later ≠ k := by
  unfold latest?
  rw [List.find?_eq_some_iff_append]
  simp only [beq_iff_eq, Bool.not_eq_true', beq_eq_false_iff_ne]
  refine and_congr_right fun _ => ?_
  constructor
  · rintro ⟨after, before, reversed, apart⟩
    refine ⟨before.reverse, after.reverse, ?_, by simpa using apart⟩
    rw [← List.reverse_reverse made, reversed]
    simp
  · rintro ⟨before, after, rfl, apart⟩
    exact ⟨after.reverse, before.reverse, by simp, by simpa using apart⟩

/-- What comes before an entry says nothing of its key. -/
theorem latest?_of_mem_after {before after : List α} (mem : k ∈ after.map key) :
    latest? key (before ++ after) k = latest? key after k := by
  obtain ⟨entry, found⟩ := exists_latest? mem
  rw [found]
  unfold latest? at found ⊢
  rw [List.reverse_append, List.find?_append, found]
  rfl

/-- An entry does not touch what is registered under other keys. -/
theorem latest?_of_ne {before after : List α} (apart : key entry ≠ k) :
    latest? key (before ++ entry :: after) k = latest? key (before ++ after) k := by
  unfold latest?
  simp [apart]

/-! ### Keys once each -/

/-- A key that comes again stays where it came first. -/
theorem eraseDups_concat (keys : List κ) :
    (keys ++ [k]).eraseDups =
      if keys.contains k then keys.eraseDups else keys.eraseDups ++ [k] := by
  rw [List.eraseDups_append, List.removeAll]
  by_cases mem : k ∈ keys
  · simp [mem]
  · simp [mem, List.eraseDups_cons]

theorem nodup_eraseDups (keys : List κ) : keys.eraseDups.Nodup := by
  induction keys using List.reverseRecOn with
  | nil => exact .nil
  | append_singleton keys k ih =>
    rw [eraseDups_concat]
    split
    case isTrue => exact ih
    case isFalse new =>
      have apart : ∀ a ∈ keys, a ≠ k := fun a mem same =>
        new (List.contains_iff_mem.mpr (same ▸ mem))
      simpa [List.nodup_append, ih] using apart

/-- Repetitions do not matter to the first key with a property. -/
theorem find?_eraseDups (p : κ → Bool) (keys : List κ) : keys.eraseDups.find? p = keys.find? p := by
  induction keys using List.reverseRecOn with
  | nil => rfl
  | append_singleton keys k ih =>
    rw [eraseDups_concat, List.find?_append, ← ih]
    split
    case isTrue mem =>
      cases found : keys.eraseDups.find? p with
      | some first => rfl
      | none =>
        have known := List.mem_eraseDups.mpr (List.contains_iff_mem.mp mem)
        simp [List.find?_eq_none.mp found k known]
    case isFalse => rw [List.find?_append]

/-! ### Registering -/

/-- Registering gives a key its entry, in the key's place or in a new one. -/
theorem register_filterMap {entryOf : κ → Option α} :
    ∀ {keys : List κ}, keys.Nodup → (∀ k ∈ keys, ∃ entry, entryOf k = some entry ∧ key entry = k) →
      register key entry (keys.filterMap entryOf) =
        (if keys.contains (key entry) then keys else keys ++ [key entry]).filterMap
          fun k => if key entry == k then some entry else entryOf k
  | [], _, _ => by simp [register]
  | k :: keys, nodup, held => by
    obtain ⟨fresh, nodup⟩ := List.nodup_cons.mp nodup
    obtain ⟨old, found, isKey⟩ := held k List.mem_cons_self
    have ih := register_filterMap nodup fun k mem => held k (List.mem_cons_of_mem _ mem)
    rw [List.filterMap_cons_some found, register, isKey]
    by_cases same : key entry = k
    · have others : keys.filterMap (fun k => if key entry == k then some entry else entryOf k) =
          keys.filterMap entryOf := by
        refine List.filterMap_congr fun other mem => if_neg fun same' => ?_
        exact fresh ((same.symm.trans (beq_iff_eq.mp same')) ▸ mem)
      simp [same] at others ⊢
      exact others.symm
    · rw [if_neg (by simpa using Ne.symm same), ih]
      by_cases mem : key entry ∈ keys <;> simp [mem, found, same]

/-- A table is built entry by entry as they are registered. -/
theorem tableOf_concat :
    tableOf key (made ++ [entry]) = register key entry (tableOf key made) := by
  unfold tableOf
  rw [register_filterMap (nodup_eraseDups _)]
  · have held : (made.map key).eraseDups.contains (key entry) =
        (made.map key).contains (key entry) := by
      rw [Bool.eq_iff_iff, List.contains_iff_mem, List.contains_iff_mem, List.mem_eraseDups]
    simp only [held, List.map_append, List.map_singleton, eraseDups_concat, latest?_concat]
  · intro k mem
    obtain ⟨entry, found⟩ := exists_latest? (List.mem_eraseDups.mp mem)
    exact ⟨entry, found, key_of_latest? found⟩

/-! ### What tables hold -/

/-- A table has each key once, in the order in which they first came. -/
theorem map_key_tableOf : (tableOf key made).map key = (made.map key).eraseDups := by
  unfold tableOf
  rw [List.map_filterMap]
  refine (List.filterMap_congr fun k mem => ?_).trans List.filterMap_some
  obtain ⟨entry, found⟩ := exists_latest? (List.mem_eraseDups.mp mem)
  rw [found, Option.map_some, key_of_latest? found]

/-- A table holds, under each key, what was registered last under it. -/
theorem mem_tableOf : entry ∈ tableOf key made ↔ latest? key made (key entry) = some entry := by
  unfold tableOf
  rw [List.mem_filterMap]
  constructor
  · rintro ⟨k, _, found⟩
    rwa [key_of_latest? found]
  · intro found
    refine ⟨key entry, List.mem_eraseDups.mpr (List.mem_map_of_mem ?_), found⟩
    obtain ⟨_, before, after, rfl, _⟩ := latest?_eq_some.mp found
    simp

theorem mem_of_mem_tableOf (mem : entry ∈ tableOf key made) : entry ∈ made := by
  obtain ⟨_, before, after, rfl, _⟩ := latest?_eq_some.mp (mem_tableOf.mp mem)
  simp

/-- The first entry whose key is fit stands under the key that was the first fit one to come, and was
made last under it. -/
theorem find?_tableOf (fit : κ → Bool) :
    (tableOf key made).find? (fun entry => fit (key entry)) =
      (made.find? fun entry => fit (key entry)).bind fun first => latest? key made (key first) := by
  have fits : ∀ k ∈ (made.map key).eraseDups,
      (latest? key made k).any (fun entry => fit (key entry)) = fit k := by
    intro k mem
    obtain ⟨entry, found⟩ := exists_latest? (List.mem_eraseDups.mp mem)
    rw [found, Option.any_some, key_of_latest? found]
  unfold tableOf
  rw [List.find?_filterMap, List.find?_congr fits, find?_eraseDups, List.find?_map, Option.bind_map]
  rfl

/-- What is registered before another entry of its key leaves no trace but the key. -/
theorem tableOf_of_replaced {before between after : List α} {old old' new : α}
    (same : key old = key old') (replaced : key new = key old) :
    tableOf key (before ++ old :: between ++ new :: after) =
      tableOf key (before ++ old' :: between ++ new :: after) := by
  unfold tableOf
  simp only [List.map_append, List.map_cons, same]
  refine List.filterMap_congr fun k _ => ?_
  by_cases renewed : k ∈ (new :: after).map key
  · rw [latest?_of_mem_after renewed, latest?_of_mem_after renewed]
  · have apart : key old ≠ k := fun isKey => renewed (by simp [replaced, isKey])
    rw [List.append_assoc, List.append_assoc, List.cons_append, List.cons_append,
      latest?_of_ne apart, latest?_of_ne (same ▸ apart)]

/-- An entry that is replaced later leaves no trace but its place: any other under its key in its
stead gives the same table. -/
theorem tableOf_filterMap_of_replaced {β : Type} {part? : β → Option α}
    {before between rest : List β} {old old' new : β} (same : (part? old).map key = (part? old').map key)
    (replaced : (part? new).map key = (part? old).map key) :
    tableOf key ((before ++ old :: between ++ new :: rest).filterMap part?) =
      tableOf key ((before ++ old' :: between ++ new :: rest).filterMap part?) := by
  simp only [List.filterMap_append, List.filterMap_cons]
  cases isOld : part? old with
  | none =>
    rw [isOld] at same
    rw [Option.map_eq_none_iff.mp same.symm]
  | some a =>
    rw [isOld] at same replaced
    obtain ⟨a', isOld', sameKey⟩ := Option.map_eq_some_iff.mp same.symm
    obtain ⟨b, isNew, newKey⟩ := Option.map_eq_some_iff.mp replaced
    rw [isOld', isNew]
    exact tableOf_of_replaced sameKey.symm newKey

/-- Registering may be seen through a view of the entries, where the view tells the same keys apart.
A view that merged two keys would replace entries that ought to stay. -/
theorem map_register {β σ : Type} [BEq σ] [LawfulBEq σ] {view : α → β} {key' : β → σ} :
    ∀ {table : List α},
      (∀ old ∈ table, key old = key entry ↔ key' (view old) = key' (view entry)) →
        (register key entry table).map view = register key' (view entry) (table.map view)
  | [], _ => rfl
  | old :: rest, alike => by
    have ih := map_register fun old mem => alike old (List.mem_cons_of_mem _ mem)
    have first := alike old List.mem_cons_self
    unfold register
    by_cases same : key old = key entry
    · simp [same, first.mp same]
    · simp [same, mt first.mpr same, ih]

/-- Entries may be keyed in another way, as long as it tells apart the same. -/
theorem map_tableOf {β σ : Type} [BEq σ] [LawfulBEq σ] {view : α → β} {key' : β → σ}
    (alike : ∀ a ∈ made, ∀ b ∈ made, key a = key b ↔ key' (view a) = key' (view b)) :
    (tableOf key made).map view = tableOf key' (made.map view) := by
  induction made using List.reverseRecOn with
  | nil => rfl
  | append_singleton made entry ih =>
    have alike' : ∀ old ∈ tableOf key made,
        key old = key entry ↔ key' (view old) = key' (view entry) :=
      fun old mem => alike old (List.mem_append_left _ (mem_of_mem_tableOf mem)) entry (by simp)
    have rest := ih fun a ha b hb =>
      alike a (List.mem_append_left _ ha) b (List.mem_append_left _ hb)
    rw [tableOf_concat, map_register alike', rest, List.map_append, List.map_singleton,
      tableOf_concat]

end Table

end Specimen
