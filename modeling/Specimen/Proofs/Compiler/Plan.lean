import Mathlib.Data.List.Forall2
import Mathlib.Tactic.Common
import Specimen.Compiler.Plan

/-!
# Laws of plans

Running a plan follows its making: a plan after another runs after the other, and a plan for each
element of a list runs element by element (`run_bind`, `run_mapM_eq_ok`). So what a strategy comes
to is read off its text as if it compiled the types itself.

A plan cannot tell a compiler that knows more from one that knows less, except by getting further:
when one way of compiling answers whatever another does, a plan that comes to something under the
second comes to the same under the first (`run_extends`).
-/

namespace Specimen

namespace Plan

variable {α β γ : Type}

instance : LawfulMonad Plan := by
  refine LawfulMonad.mk' Plan ?id_map (fun _ _ => rfl) ?bind_assoc
  case id_map =>
    intro α p
    induction p with
    | answer result => cases result <;> rfl
    | compile t next ih => exact congrArg (Plan.compile t) (funext ih)
  case bind_assoc =>
    intro α β γ p f g
    induction p with
    | answer result => cases result <;> rfl
    | compile t next ih => exact congrArg (Plan.compile t) (funext ih)

/-! ## Running -/

variable (compile : Descriptor → Compiled)

@[simp]
theorem run_pure (a : α) : (pure a : Plan α).run compile = .ok a := rfl

@[simp]
theorem run_fail (e : GenError) : (fail e : Plan α).run compile = .error (.error e) := rfl

/-- What a plan asks for is what compilation answers. -/
@[simp]
theorem run_generatorOf (t : Descriptor) : (generatorOf t).run compile = compile t := by
  unfold generatorOf run
  cases compile t with
  | ok g => rfl
  | error failure => cases failure <;> rfl

/-- A plan is run part by part, the second part by what the first has come to. -/
@[simp]
theorem run_bind (p : Plan α) (f : α → Plan β) :
    (p >>= f).run compile = p.run compile >>= fun a => (f a).run compile := by
  change (p.bind f).run compile = _
  induction p with
  | answer result => cases result <;> rfl
  | compile t next ih =>
    simp only [bind, run]
    cases compile t with
    | ok g => exact ih (.ok g)
    | error failure =>
      cases failure with
      | error e => exact ih (.error e)
      | abandoned => rfl

variable {compile}

/-- A plan of two parts succeeds if the first does and then the second. -/
theorem run_bind_eq_ok {p : Plan α} {f : α → Plan β} {b : β} :
    (p >>= f).run compile = .ok b ↔
      ∃ a, p.run compile = .ok a ∧ (f a).run compile = .ok b := by
  rw [run_bind]
  constructor
  · intro ran
    cases h : p.run compile with
    | ok a => rw [h] at ran; exact ⟨a, rfl, ran⟩
    | error failure => rw [h] at ran; cases ran
  · rintro ⟨a, first, second⟩
    rw [first]
    exact second

/-- What is only wrapped is there when what is wrapped is. -/
theorem exists_run_wrap {p : Plan α} {wrap : α → β} :
    (∃ b, (p >>= fun a => pure (wrap a)).run compile = .ok b) ↔ ∃ a, p.run compile = .ok a := by
  simp only [run_bind_eq_ok, run_pure, Except.ok.injEq]
  constructor
  · rintro ⟨_, a, ran, _⟩
    exact ⟨a, ran⟩
  · rintro ⟨a, ran⟩
    exact ⟨_, a, ran, rfl⟩

/-- A list is compiled when each of its elements is. -/
theorem run_mapM_eq_ok {f : α → Plan β} :
    ∀ {as : List α} {bs : List β}, (as.mapM f).run compile = .ok bs ↔
      List.Forall₂ (fun a b => (f a).run compile = .ok b) as bs
  | [], bs => by
    rw [List.mapM_nil, run_pure, List.forall₂_nil_left_iff, Except.ok.injEq]
    exact eq_comm
  | a :: as, bs => by
    rw [List.mapM_cons, run_bind_eq_ok, List.forall₂_cons_left_iff]
    constructor
    · rintro ⟨b, head, rest⟩
      obtain ⟨bs', tail, last⟩ := run_bind_eq_ok.mp rest
      exact ⟨b, bs', head, run_mapM_eq_ok.mp tail, (Except.ok.inj last).symm⟩
    · rintro ⟨b, bs', head, tail, rfl⟩
      exact ⟨b, head, run_bind_eq_ok.mpr ⟨bs', run_mapM_eq_ok.mpr tail, rfl⟩⟩

end Plan

/-! ## Compiling more -/

/-- `more` answers whatever `less` answers, and the same. -/
def Extends (less more : Descriptor → Compiled) : Prop :=
  ∀ t, less t ≠ .error .abandoned → more t = less t

namespace Plan

variable {α : Type} {less more : Descriptor → Compiled}

/-- A plan that comes to something comes to the same when more is compiled. -/
theorem run_extends (ext : Extends less more) (p : Plan α)
    (settled : p.run less ≠ .error .abandoned) : p.run more = p.run less := by
  induction p with
  | answer result => rfl
  | compile t next ih =>
    simp only [run] at settled ⊢
    have same := ext t
    cases h : less t with
    | ok g =>
      rw [same (by simp [h]), h]
      exact ih (.ok g) (by simpa [h] using settled)
    | error failure =>
      cases failure with
      | error e =>
        rw [same (by simp [h]), h]
        exact ih (.error e) (by simpa [h] using settled)
      | abandoned => exact absurd (by simp [h]) settled

end Plan

end Specimen
