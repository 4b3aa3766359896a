import Mathlib.Data.List.Forall2
import Mathlib.Tactic.Common

/-!
# Lists related place by place

A list of types, of their generators and of their draws run in step. These lemmas carry a fact from
one of the lists to another: by a member, through a list in the middle, or by what both agree in.
-/

namespace List.Forall₂

variable {α β γ : Type} {R : α → β → Prop} {S : β → γ → Prop} {as : List α} {bs : List β}
  {cs : List γ}

/-- Of two lists that are related place by place, each item of the first has its like in the second.
-/
theorem exists_of_mem_left {a : α} (related : Forall₂ R as bs) (mem : a ∈ as) :
    ∃ b ∈ bs, R a b := by
  induction related with
  | nil => cases mem
  | cons head _ ih =>
    rcases mem_cons.mp mem with rfl | mem
    · exact ⟨_, mem_cons_self, head⟩
    · obtain ⟨b, among, rel⟩ := ih mem
      exact ⟨b, mem_cons_of_mem _ among, rel⟩

/-- And the other way round. -/
theorem exists_of_mem_right {b : β} (related : Forall₂ R as bs) (mem : b ∈ bs) :
    ∃ a ∈ as, R a b :=
  related.flip.exists_of_mem_left mem

theorem exists_getElem? {a : α} (related : Forall₂ R as bs) :
    ∀ {i : Nat}, as[i]? = some a → ∃ b, bs[i]? = some b ∧ R a b := by
  induction related with
  | nil => nofun
  | @cons x y _ _ head _ ih =>
    intro i found
    cases i with
    | zero =>
      cases found
      exact ⟨y, rfl, head⟩
    | succ i => exact ih found

/-- What runs in step with a list in the middle runs in step with what that runs in step with. -/
theorem comp (first : Forall₂ R as bs) (second : Forall₂ S bs cs) :
    Forall₂ (fun a c => ∃ b, R a b ∧ S b c) as cs := by
  induction first generalizing cs with
  | nil => cases second; exact .nil
  | cons head _ ih =>
    cases second with
    | cons next rest => exact .cons ⟨_, head, next⟩ (ih rest)

/-- A member of one list may give way to any other that is related to its partner. -/
theorem replace {a : α} {after : List α} : ∀ {before : List α} {bs : List β},
    Forall₂ R (before ++ a :: after) bs →
      ∃ b, R a b ∧ ∀ a', R a' b → Forall₂ R (before ++ a' :: after) bs
  | [], _, .cons head tail => ⟨_, head, fun _ other => .cons other tail⟩
  | _ :: _, _, .cons head tail => by
    obtain ⟨b, related, others⟩ := replace tail
    exact ⟨b, related, fun a' other => .cons head (others a' other)⟩

theorem imp_of_mem {T : α → β → Prop} (related : Forall₂ R as bs)
    (weaker : ∀ a b, a ∈ as → b ∈ bs → R a b → T a b) : Forall₂ T as bs := by
  induction related with
  | nil => exact .nil
  | cons head _ ih =>
    refine .cons (weaker _ _ mem_cons_self mem_cons_self head) (ih fun a b mem mem' => ?_)
    exact weaker a b (mem_cons_of_mem _ mem) (mem_cons_of_mem _ mem')

theorem imp_of_mem_left {T : α → β → Prop} (related : Forall₂ R as bs)
    (weaker : ∀ a b, a ∈ as → R a b → T a b) : Forall₂ T as bs :=
  related.imp_of_mem fun a b mem _ => weaker a b mem

/-- Lists whose related members agree in something agree in it place by place. -/
theorem map_eq {f : α → γ} {g : β → γ} (related : Forall₂ R as bs)
    (agree : ∀ a b, R a b → f a = g b) : as.map f = bs.map g := by
  induction related with
  | nil => rfl
  | cons head _ ih => simp only [map_cons, agree _ _ head, ih]

/-- A list has one that runs in step with it when each of its members has something. -/
theorem exists_iff : (∃ bs, Forall₂ R as bs) ↔ ∀ a ∈ as, ∃ b, R a b := by
  constructor
  · rintro ⟨bs, related⟩ a mem
    obtain ⟨b, _, rel⟩ := related.exists_of_mem_left mem
    exact ⟨b, rel⟩
  · intro each
    induction as with
    | nil => exact ⟨[], .nil⟩
    | cons a as ih =>
      obtain ⟨⟨b, head⟩, tail⟩ := forall_mem_cons.mp each
      obtain ⟨bs, rest⟩ := ih tail
      exact ⟨b :: bs, .cons head rest⟩

/-- What holds of any two members of a list holds so of those of one that runs in step with it. -/
theorem pairwise {P : α → α → Prop} {Q : β → β → Prop} (related : Forall₂ R as bs)
    (carry : ∀ a b a' b', R a b → R a' b' → P a a' → Q b b') (apart : as.Pairwise P) :
    bs.Pairwise Q := by
  induction related with
  | nil => exact .nil
  | @cons a b as bs head tail ih =>
    obtain ⟨first, rest⟩ := pairwise_cons.mp apart
    refine pairwise_cons.mpr ⟨fun b' mem => ?_, ih rest⟩
    obtain ⟨a', among, other⟩ := tail.exists_of_mem_right mem
    exact carry a b a' b' head other (first a' among)

end List.Forall₂
