import Mathlib.Data.List.Forall2
import Mathlib.Data.List.Nodup
import Mathlib.Tactic.Common
import Specimen.Fields

/-!
# Laws of fields

Where names are distinct, a name reads what stands beside it (`get?_of_mem`), and pairs put one after
the other are the pairs themselves (`ofPairs_of_nodup`). However names repeat, nothing comes out that
was not put in (`mem_ofPairs`).
-/

namespace Specimen

namespace Fields

variable {α : Type}

/-- What is found under a name stands under it. -/
theorem mem_of_get? {name : String} {a : α} :
    ∀ {fields : List (String × α)}, get? fields name = some a → (name, a) ∈ fields
  | (k, b) :: rest, found => by
    unfold get? at found
    split at found
    · cases found
      subst name
      exact List.mem_cons_self
    · exact List.mem_cons_of_mem _ (mem_of_get? found)

/-- The converse needs that no name is repeated, or an earlier one would be found. -/
theorem get?_of_mem {name : String} {a : α} :
    ∀ {fields : List (String × α)}, (keys fields).Nodup → (name, a) ∈ fields →
      get? fields name = some a
  | (k, b) :: rest, nodup, mem => by
    obtain ⟨fresh, nodup⟩ := List.nodup_cons.mp nodup
    rcases List.mem_cons.mp mem with same | mem
    · cases same
      exact if_pos rfl
    · have other : k ≠ name := by
        rintro rfl
        exact fresh (List.mem_map.mpr ⟨_, mem, rfl⟩)
      exact (if_neg other).trans (get?_of_mem nodup mem)

/-- A name that occurs has a thing. -/
theorem exists_get? {name : String} :
    ∀ {fields : List (String × α)}, name ∈ keys fields → ∃ a, get? fields name = some a
  | (k, b) :: rest, mem => by
    unfold get?
    split
    case isTrue => exact ⟨b, rfl⟩
    case isFalse other => exact exists_get? ((List.mem_cons.mp mem).resolve_left (Ne.symm other))

theorem get?_of_notMem {name : String} {fields : List (String × α)} (missing : name ∉ keys fields) :
    get? fields name = none := by
  cases found : get? fields name with
  | none => rfl
  | some a => exact absurd (List.mem_map.mpr ⟨_, mem_of_get? found, rfl⟩) missing

theorem has_eq_true {name : String} {fields : List (String × α)} :
    has fields name = true ↔ name ∈ keys fields := by
  rw [has, Option.isSome_iff_exists]
  refine ⟨?_, exists_get?⟩
  rintro ⟨a, found⟩
  exact List.mem_map.mpr ⟨_, mem_of_get? found, rfl⟩

/-- Where names are distinct, the order of fields makes no difference to what a name reads. -/
theorem get?_of_perm {fields others : List (String × α)} (perm : others.Perm fields)
    (nodup : (keys fields).Nodup) (name : String) : get? others name = get? fields name := by
  have names : (keys others).Perm (keys fields) := perm.map Prod.fst
  cases found : get? fields name with
  | some a => exact get?_of_mem (names.nodup_iff.mpr nodup) (perm.mem_iff.mpr (mem_of_get? found))
  | none =>
    refine get?_of_notMem fun known => ?_
    obtain ⟨a, there⟩ := exists_get? (names.mem_iff.mp known)
    cases found.symm.trans there

/-! ## Putting -/

/-- A new name is put last. -/
theorem put_of_notMem {name : String} {a : α} :
    ∀ {fields : List (String × α)}, name ∉ keys fields → put fields name a = fields ++ [(name, a)]
  | [], _ => rfl
  | (k, b) :: rest, missing => by
    obtain ⟨other, missing⟩ := not_or.mp (mt List.mem_cons.mpr missing)
    rw [put, if_neg (Ne.symm other), put_of_notMem missing, List.cons_append]

/-- What was put under a name is read under it, and the other names read what they did. -/
theorem get?_put {name other : String} {a : α} :
    ∀ {fields : List (String × α)},
      get? (put fields name a) other = if name = other then some a else get? fields other
  | [] => rfl
  | (k, b) :: rest => by
    unfold put
    split
    case isTrue same =>
      subst same
      unfold get?
      split
      · rfl
      · rfl
    case isFalse apart =>
      unfold get?
      split
      case isTrue same =>
        subst same
        rw [if_neg (Ne.symm apart)]
      case isFalse => exact get?_put

/-- What a name reads already makes no difference when it is put. -/
theorem put_of_get? {name : String} {a : α} :
    ∀ {fields : List (String × α)}, get? fields name = some a → put fields name a = fields
  | (k, b) :: rest, found => by
    unfold get? at found
    unfold put
    split at found
    case isTrue same =>
      cases found
      rw [if_pos same]
    case isFalse apart => rw [if_neg apart, put_of_get? found]

/-- A name that is known keeps its place. -/
theorem keys_put_of_mem {name : String} {a : α} :
    ∀ {fields : List (String × α)}, name ∈ keys fields → keys (put fields name a) = keys fields
  | (k, b) :: rest, known => by
    unfold put
    split
    case isTrue => rfl
    case isFalse apart =>
      have later := (List.mem_cons.mp known).resolve_left (Ne.symm apart)
      exact congrArg (k :: ·) (keys_put_of_mem later)

/-- Putting adds its name and loses none. -/
theorem mem_keys_put {name other : String} {a : α} :
    ∀ {fields : List (String × α)},
      other ∈ keys (put fields name a) ↔ other ∈ keys fields ∨ other = name
  | [] => by simp [put, keys]
  | (k, b) :: rest => by
    unfold put
    split
    case isTrue same =>
      subst same
      simp only [keys, List.map_cons, List.mem_cons]
      exact ⟨fun mem => .inl mem, fun mem => mem.elim id .inl⟩
    case isFalse =>
      have tail : other ∈ keys (put rest name a) ↔ other ∈ keys rest ∨ other = name := mem_keys_put
      simp only [keys, List.map_cons, List.mem_cons] at tail ⊢
      rw [tail, or_assoc]

/-- A name that was there before is replaced where it stands, so none is repeated. -/
theorem keys_put_nodup {name : String} {a : α} :
    ∀ {fields : List (String × α)}, (keys fields).Nodup → (keys (put fields name a)).Nodup
  | [], _ => List.nodup_singleton name
  | (k, b) :: rest, nodup => by
    unfold put
    split
    case isTrue => exact nodup
    case isFalse apart =>
      obtain ⟨fresh, nodup⟩ := List.nodup_cons.mp nodup
      refine List.nodup_cons.mpr ⟨?_, keys_put_nodup nodup⟩
      intro mem
      exact (mem_keys_put.mp mem).elim fresh apart

/-- What stands under the names afterwards was there before, or was put. -/
theorem mem_put {name : String} {a : α} {entry : String × α} :
    ∀ {fields : List (String × α)}, entry ∈ put fields name a → entry ∈ fields ∨ entry = (name, a)
  | [], mem => .inr (List.mem_singleton.mp mem)
  | (k, b) :: rest, mem => by
    unfold put at mem
    split at mem
    · subst name
      rcases List.mem_cons.mp mem with rfl | mem
      · exact .inr rfl
      · exact .inl (List.mem_cons_of_mem _ mem)
    · rcases List.mem_cons.mp mem with rfl | mem
      · exact .inl List.mem_cons_self
      · exact (mem_put mem).imp_left (List.mem_cons_of_mem _)

private theorem mem_foldl_put {entry : String × α} (pairs : List (String × α)) :
    ∀ fields : List (String × α),
      entry ∈ pairs.foldl (fun fields (k, a) => put fields k a) fields →
        entry ∈ fields ∨ entry ∈ pairs := by
  induction pairs with
  | nil => exact fun fields mem => .inl mem
  | cons pair pairs ih =>
    intro fields mem
    rcases ih (put fields pair.1 pair.2) mem with mem | mem
    · rcases mem_put mem with mem | rfl
      · exact .inl mem
      · exact .inr List.mem_cons_self
    · exact .inr (List.mem_cons_of_mem _ mem)

theorem mem_ofPairs {entry : String × α} {pairs : List (String × α)} (mem : entry ∈ ofPairs pairs) :
    entry ∈ pairs :=
  (mem_foldl_put pairs [] mem).resolve_left List.not_mem_nil

private theorem foldl_put_of_nodup (pairs : List (String × α)) :
    ∀ fields : List (String × α), (keys (fields ++ pairs)).Nodup →
      pairs.foldl (fun fields (k, a) => put fields k a) fields = fields ++ pairs := by
  induction pairs with
  | nil => exact fun fields _ => (List.append_nil fields).symm
  | cons pair pairs ih =>
    intro fields nodup
    have apart : pair.1 ∉ keys fields := by
      intro mem
      rw [keys, List.map_append] at nodup
      exact (List.nodup_append.mp nodup).2.2 _ mem _ List.mem_cons_self rfl
    have shift : fields ++ pair :: pairs = fields ++ [pair] ++ pairs := by simp
    rw [shift] at nodup ⊢
    rw [← ih (fields ++ [pair]) nodup, ← put_of_notMem apart]
    rfl

/-- Pairs become fields of which no two have one name. -/
theorem keys_ofPairs_nodup (pairs : List (String × α)) : (keys (ofPairs pairs)).Nodup := by
  have each : ∀ fields : List (String × α), (keys fields).Nodup →
      (keys (pairs.foldl (fun fields (k, a) => put fields k a) fields)).Nodup := by
    induction pairs with
    | nil => exact fun _ nodup => nodup
    | cons pair pairs ih => exact fun fields nodup => ih _ (keys_put_nodup nodup)
  exact each [] .nil

/-- No name is lost in the process, though a value may be. -/
theorem mem_keys_ofPairs {name : String} {pairs : List (String × α)} :
    name ∈ keys (ofPairs pairs) ↔ name ∈ keys pairs := by
  have each : ∀ fields : List (String × α),
      name ∈ keys (pairs.foldl (fun fields (k, a) => put fields k a) fields) ↔
        name ∈ keys fields ∨ name ∈ keys pairs := by
    induction pairs with
    | nil => simp [keys]
    | cons pair pairs ih =>
      intro fields
      rw [List.foldl_cons, ih, mem_keys_put, or_assoc]
      exact or_congr_right (List.mem_cons (l := keys pairs)).symm
  exact (each []).trans (or_iff_right List.not_mem_nil)

/-- A name is among fields with one added if it was before, or is the one added. -/
theorem has_concat {name other : String} {a : α} {fields : List (String × α)} :
    has (fields ++ [(name, a)]) other = (has fields other || name == other) := by
  unfold has
  induction fields with
  | nil => by_cases same : name = other <;> simp [get?, same]
  | cons field rest ih =>
    obtain ⟨k, b⟩ := field
    by_cases same : k = other
    · simp [get?, same]
    · simpa [get?, same] using ih

theorem length_put_le {name : String} {a : α} :
    ∀ fields : List (String × α), (put fields name a).length ≤ fields.length + 1
  | [] => Nat.le_refl 1
  | (k, b) :: rest => by
    unfold put
    split
    · exact Nat.le_succ _
    · exact Nat.succ_le_succ (length_put_le rest)

/-- A repeated name counts once. -/
theorem length_ofPairs_le (pairs : List (String × α)) : (ofPairs pairs).length ≤ pairs.length := by
  have each : ∀ fields : List (String × α),
      (pairs.foldl (fun fields (k, a) => put fields k a) fields).length ≤
        fields.length + pairs.length := by
    induction pairs with
    | nil => exact fun fields => Nat.le_refl _
    | cons pair pairs ih =>
      intro fields
      have one : (put fields pair.1 pair.2).length ≤ fields.length + 1 := length_put_le fields
      apply Nat.le_trans (ih (put fields pair.1 pair.2))
      rw [List.length_cons]
      omega
  have all := each []
  rwa [List.length_nil, Nat.zero_add] at all

/-- Pairs without a repeated name are kept as they are, in order. -/
theorem ofPairs_of_nodup {pairs : List (String × α)} (nodup : (keys pairs).Nodup) :
    ofPairs pairs = pairs :=
  foldl_put_of_nodup pairs [] nodup

/-! ## Other things under the same names -/

theorem get?_mapValues {β : Type} (f : α → β) (name : String) :
    ∀ fields : List (String × α), get? (mapValues f fields) name = (get? fields name).map f
  | [] => rfl
  | (k, a) :: rest => by
    rw [mapValues, List.map_cons, get?, get?]
    split
    · rfl
    · exact get?_mapValues f name rest

/-- Changing all values goes along with putting a value that is changed likewise. -/
theorem put_mapValues {β : Type} (f : α → β) (name : String) (a : α) :
    ∀ fields : List (String × α),
      put (mapValues f fields) name (f a) = mapValues f (put fields name a)
  | [] => rfl
  | (k, b) :: rest => by
    rw [mapValues, List.map_cons, put, put]
    split
    · rfl
    · exact congrArg _ (put_mapValues f name a rest)

theorem ofPairs_mapValues {β : Type} (f : α → β) (pairs : List (String × α)) :
    ofPairs (mapValues f pairs) = mapValues f (ofPairs pairs) := by
  have each : ∀ fields : List (String × α),
      (mapValues f pairs).foldl (fun fields (k, b) => put fields k b) (mapValues f fields) =
        mapValues f (pairs.foldl (fun fields (k, a) => put fields k a) fields) := by
    induction pairs with
    | nil => exact fun _ => rfl
    | cons pair pairs ih =>
      intro fields
      rw [List.foldl_cons, ← ih, ← put_mapValues]
      rfl
  exact each []

/-! ## Fields in step -/

/-- Fields of the same names in the same order, with things that are related name by name. -/
def Alike {β : Type} (R : α → β → Prop) : List (String × α) → List (String × β) → Prop :=
  List.Forall₂ fun a b => a.1 = b.1 ∧ R a.2 b.2

section Alike

variable {β : Type} {R : α → β → Prop} {as : List (String × α)} {bs : List (String × β)}

theorem Alike.keys_eq (alike : Alike R as bs) : keys as = keys bs := by
  induction alike with
  | nil => rfl
  | cons head _ ih => exact congrArg₂ List.cons head.1 ih

/-- Alike fields have related values under each name, the first where it is repeated. -/
theorem Alike.get? {name : String} {a : α} (alike : Alike R as bs) (found : get? as name = some a) :
    ∃ b, Fields.get? bs name = some b ∧ R a b := by
  induction alike with
  | nil => cases found
  | @cons x y _ _ head _ ih =>
    obtain ⟨k, a'⟩ := x
    obtain ⟨k', b'⟩ := y
    obtain ⟨rfl, head⟩ := head
    rw [Fields.get?] at found ⊢
    split at found
    case isTrue same =>
      cases found
      exact ⟨b', if_pos same, head⟩
    case isFalse other =>
      obtain ⟨b, there, related⟩ := ih found
      exact ⟨b, (if_neg other).trans there, related⟩

/-- What stands on both sides under one name is related. -/
theorem Alike.of_mem {name : String} {a : α} {b : β} (alike : Alike R as bs)
    (nodup : (keys as).Nodup) (left : (name, a) ∈ as) (right : (name, b) ∈ bs) : R a b := by
  obtain ⟨other, found, related⟩ := alike.get? (get?_of_mem nodup left)
  rw [alike.keys_eq] at nodup
  have same : other = b := Option.some.inj (found.symm.trans (get?_of_mem nodup right))
  rwa [same] at related

/-- Putting related values under one name keeps fields alike, since they have the same names in the
same order. -/
theorem Alike.put {name : String} {a : α} {b : β} (alike : Alike R as bs) (related : R a b) :
    Alike R (put as name a) (put bs name b) := by
  induction alike with
  | nil => exact .cons ⟨rfl, related⟩ .nil
  | @cons x y _ _ head tail ih =>
    obtain ⟨k, a'⟩ := x
    obtain ⟨k', b'⟩ := y
    obtain ⟨rfl, head⟩ := head
    unfold Fields.put
    split
    · exact .cons ⟨rfl, related⟩ tail
    · exact .cons ⟨rfl, head⟩ ih

theorem Alike.ofPairs (alike : Alike R as bs) : Alike R (ofPairs as) (ofPairs bs) := by
  have each : ∀ {done : List (String × α)} {done' : List (String × β)}, Alike R done done' →
      Alike R (as.foldl (fun fields (k, a) => Fields.put fields k a) done)
        (bs.foldl (fun fields (k, b) => Fields.put fields k b) done') := by
    induction alike with
    | nil => exact fun before => before
    | @cons x y _ _ head _ ih =>
      obtain ⟨k, a⟩ := x
      obtain ⟨k', b⟩ := y
      obtain ⟨rfl, related⟩ := head
      exact fun before => ih (before.put related)
  exact each .nil

end Alike

end Fields

end Specimen
