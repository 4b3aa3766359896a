import Specimen.Proofs.Compiler.Compilable
import Specimen.Proofs.Descriptor.Guard
import Specimen.Proofs.Value.Json

/-!
# Guards of what JSON says

A value that belongs to a type belongs to it still when it has been put down as JSON and read again
(`guard_said`), if the type asks for no function and judges by JSON: its literals are JSON values, and
its predicates tell no values apart that JSON says alike.

Saying a record drops its callable members, so the types of fields are asked about undefined then. What
carries the proof is that a type which accepts callables without asking for them accepts undefined
(`guard_undefined_of_callable`).
-/

namespace Specimen

/-- A predicate that tells no values apart that JSON says alike. -/
def Predicate.SeesJson (predicate : Predicate) : Prop :=
  ∀ v w : Value, v.json = w.json → predicate.test v = predicate.test w

namespace Shape

/-- The types whose guards the guard of a shape consults. -/
def consulted : Shape → List Descriptor
  | .constraint underlying _ _ _ => [underlying]
  | shape => shape.parts

/-- A shape whose own part in the guard goes by JSON. -/
def SeesJson : Shape → Prop
  | .literal value => ∃ j : Json, value = j.value
  | .constraint _ predicate _ _ => predicate.SeesJson
  | .extension _ _ guard => guard.SeesJson
  | _ => True

end Shape

namespace Descriptor

/-- A node whose guard the guard of a type consults, at any depth, or the type itself. -/
inductive Consults : Descriptor → Descriptor → Prop
  | self (t : Descriptor) : Consults t t
  | asks {t part s : Descriptor} :
      part ∈ t.shape.consulted → Consults part s → Consults t s

theorem weight_lt_of_consulted {id : Nat} {shape : Shape} {part : Descriptor}
    (mem : part ∈ shape.consulted) : part.weight < (node id shape).weight := by
  cases shape with
  | constraint underlying predicate correction args =>
    cases List.mem_singleton.mp mem
    rw [weight, Nat.lt_succ_iff]
    rcases args with _ | ⟨_, _, types⟩
    · exact Nat.le_refl _
    · exact Nat.le_add_right _ _
  | _ => exact weight_lt_of_mem_parts mem

/-- What holds of a type and of all nodes whose guards it consults. -/
def Throughout (P : Descriptor → Prop) (t : Descriptor) : Prop := ∀ s, t.Consults s → P s

theorem throughout_node {P : Descriptor → Prop} {id : Nat} {shape : Shape} :
    (node id shape).Throughout P ↔
      P (node id shape) ∧ ∀ part ∈ shape.consulted, part.Throughout P := by
  constructor
  · exact fun all => ⟨all _ (.self _), fun part mem s consults => all s (.asks mem consults)⟩
  · rintro ⟨here, parts⟩ s consults
    cases consults with
    | self => exact here
    | asks mem consults => exact parts _ mem s consults

/-- A type that judges by JSON. -/
def SeesJson (t : Descriptor) : Prop := t.Throughout fun s => s.shape.SeesJson

/-- A type that asks for no function. -/
def IsSilent (t : Descriptor) : Prop := t.Throughout fun s => s.tag ≠ .function

/-- A type that accepts a callable, though it does not ask for one, cannot tell it from undefined. -/
theorem guard_undefined_of_callable {c : Callable} : ∀ {t : Descriptor}, t.SeesJson → t.IsSilent →
    t.guard (.callable c) = true → t.guard .undefined = true
  | .node id shape, sees, silent, accepted => by
    obtain ⟨sees, partsSee⟩ := throughout_node.mp sees
    obtain ⟨silent, partsSilent⟩ := throughout_node.mp silent
    have each : ∀ part ∈ shape.consulted, part.guard (.callable c) = true →
        part.guard .undefined = true :=
      fun part mem => guard_undefined_of_callable (partsSee part mem) (partsSilent part mem)
    cases shape with
    | always => rfl
    | constraint underlying predicate correction args =>
      simp only [guard, shapeGuard, Bool.and_eq_true] at accepted ⊢
      refine ⟨each underlying List.mem_cons_self accepted.1, ?_⟩
      exact (sees .undefined (.callable c) rfl).trans accepted.2
    | extension name payload guard =>
      exact (sees .undefined (.callable c) rfl).trans accepted
    | function => exact absurd rfl silent
    | intersect intersectees =>
      refine guardAll_eq_true.mpr fun t mem => each t mem ?_
      exact guardAll_eq_true.mp accepted t mem
    | literal value =>
      obtain ⟨j, rfl⟩ := sees
      cases j <;> cases accepted
    | union alternatives =>
      obtain ⟨t, mem, accepted⟩ := guardAny_eq_true.mp accepted
      exact guardAny_eq_true.mpr ⟨t, mem, each t mem accepted⟩
    | _ => cases accepted
termination_by t => t.weight
decreasing_by exact weight_lt_of_consulted mem

/-- A type that accepts what is said of what it accepts. -/
def AcceptsSaid (t : Descriptor) : Prop :=
  ∀ v : Value, v.isTidy = true → v.isFinite = true → t.guard v = true → t.guard v.said = true

/-! ### Containers -/

section Items

variable {items : List Value} (tidy : (Value.array items).isTidy = true)
  (finite : (Value.array items).isFinite = true)

include tidy finite

theorem guardEach_said {components : List Descriptor}
    (each : ∀ t ∈ components, t.AcceptsSaid) (accepted : guardEach components items = true) :
    guardEach components (items.map Value.said) = true := by
  rw [Value.isTidy_array] at tidy
  rw [Value.isFinite_array] at finite
  obtain ⟨long, accepted⟩ := List.forall₂_iff_zip.mp (guardEach_eq_true.mp accepted)
  refine guardEach_eq_true.mpr (List.forall₂_map_right_iff.mpr ?_)
  refine List.forall₂_iff_zip.mpr ⟨long, fun paired => ?_⟩
  obtain ⟨mem, among⟩ := List.of_mem_zip paired
  exact each _ mem _ (tidy _ among) (finite _ among) (accepted paired)

theorem all_guard_said {element : Descriptor} (each : element.AcceptsSaid)
    (accepted : items.all (fun item => element.guard item) = true) :
    (items.map Value.said).all (fun item => element.guard item) = true := by
  rw [Value.isTidy_array] at tidy
  rw [Value.isFinite_array] at finite
  simp only [List.all_eq_true, List.forall_mem_map] at accepted ⊢
  exact fun item mem => each item (tidy item mem) (finite item mem) (accepted item mem)

end Items

section Members

variable {members : List (String × Value)} {fields : List (String × Descriptor)}
  (tidy : (Value.object members).isTidy = true) (finite : (Value.object members).isFinite = true)

include tidy finite

theorem all_guard_saidMembers {value : Descriptor} (each : value.AcceptsSaid)
    (accepted : members.all (fun member => value.guard member.2) = true) :
    (Value.saidMembers members).all (fun member => value.guard member.2) = true := by
  rw [Value.isTidy_object] at tidy
  rw [Value.isFinite_object] at finite
  rw [List.all_eq_true] at accepted ⊢
  intro entry mem
  obtain ⟨member, among, _, rfl⟩ := Value.mem_saidMembers.mp mem
  exact each member.2 (tidy.2 member among) (finite member among) (accepted member among)

/-- A field whose member is not said is asked about undefined. -/
theorem guardRequired_said (each : ∀ field ∈ fields, field.2.AcceptsSaid)
    (blind : ∀ field ∈ fields, ∀ c, field.2.guard (.callable c) = true →
      field.2.guard .undefined = true)
    (accepted : guardRequired fields members = true) :
    guardRequired fields (Value.saidMembers members) = true := by
  rw [Value.isTidy_object] at tidy
  rw [Value.isFinite_object] at finite
  refine guardRequired_eq_true.mpr fun field mem => ?_
  have accepted := guardRequired_eq_true.mp accepted field mem
  rw [Value.get?_saidMembers tidy.1]
  cases found : Fields.get? members field.1 with
  | none =>
    rw [found] at accepted
    exact accepted
  | some v =>
    rw [found] at accepted
    have among := Fields.mem_of_get? found
    cases v with
    | undefined => exact accepted
    | callable c => exact blind field mem c accepted
    | _ => exact each field mem _ (tidy.2 _ among) (finite _ among) accepted

theorem guardOptional_said (each : ∀ field ∈ fields, field.2.AcceptsSaid)
    (accepted : guardOptional fields members = true) :
    guardOptional fields (Value.saidMembers members) = true := by
  rw [Value.isTidy_object] at tidy
  rw [Value.isFinite_object] at finite
  refine guardOptional_eq_true.mpr fun field mem w found => .inr ?_
  rw [Value.get?_saidMembers tidy.1] at found
  obtain ⟨w, kept, rfl⟩ := Option.map_eq_some_iff.mp found
  obtain ⟨found, kept⟩ := Option.filter_eq_some_iff.mp kept
  have among := Fields.mem_of_get? found
  have accepted := guardOptional_eq_true.mp accepted field mem w found
  refine each field mem w (tidy.2 _ among) (finite _ among) (accepted.resolve_left ?_)
  rintro rfl
  cases kept

end Members

/-- What a type accepts, it accepts said. The induction is on the type; the value is any. -/
theorem guard_said : ∀ {t : Descriptor}, t.SeesJson → t.IsSilent → t.AcceptsSaid
  | .node id shape, sees, silent => by
    obtain ⟨sees, partsSee⟩ := throughout_node.mp sees
    obtain ⟨silent, partsSilent⟩ := throughout_node.mp silent
    -- by recursion on the weight: what a type consults is lighter than it
    have each : ∀ part ∈ shape.consulted, part.AcceptsSaid :=
      fun part mem => guard_said (partsSee part mem) (partsSilent part mem)
    intro v tidy finite accepted
    cases shape with
    | always => rfl
    | boolean =>
      cases v with
      | bool b => rfl
      | _ => cases accepted
    | number =>
      cases v with
      | number x =>
        rw [Value.said_number finite]
        rfl
      | _ => cases accepted
    | string =>
      cases v with
      | string s => rfl
      | _ => cases accepted
    | void =>
      cases v with
      | undefined => rfl
      | null => rfl
      | _ => cases accepted
    | function => exact absurd rfl silent
    | literal value =>
      obtain ⟨j, rfl⟩ := sees
      rw [Value.said_of_equal v j finite accepted]
      exact accepted
    | constraint underlying predicate correction args =>
      simp only [guard, shapeGuard, Bool.and_eq_true] at accepted ⊢
      refine ⟨each underlying List.mem_cons_self v tidy finite accepted.1, ?_⟩
      exact (sees v.said v (Value.json_said v)).trans accepted.2
    | extension name payload guard =>
      exact (sees v.said v (Value.json_said v)).trans accepted
    | intersect intersectees =>
      refine guardAll_eq_true.mpr fun t mem => each t mem v tidy finite ?_
      exact guardAll_eq_true.mp accepted t mem
    | union alternatives =>
      obtain ⟨t, mem, accepted⟩ := guardAny_eq_true.mp accepted
      exact guardAny_eq_true.mpr ⟨t, mem, each t mem v tidy finite accepted⟩
    | array element =>
      cases v with
      | array items =>
        rw [Value.said_array]
        exact all_guard_said tidy finite (each element List.mem_cons_self) accepted
      | _ => cases accepted
    | tuple components =>
      cases v with
      | array items =>
        rw [Value.said_array]
        exact guardEach_said tidy finite each accepted
      | _ => cases accepted
    | dictionary value =>
      cases v with
      | object members =>
        rw [Value.said_object]
        exact all_guard_saidMembers tidy finite (each value List.mem_cons_self) accepted
      | _ => cases accepted
    | record fields =>
      have isPart : ∀ field ∈ fields, field.2 ∈ (Shape.record fields).consulted :=
        fun field mem => List.mem_map_of_mem mem
      cases v with
      | object members =>
        rw [Value.said_object]
        refine guardRequired_said tidy finite (fun field mem => each _ (isPart field mem)) ?_ accepted
        -- a required field that was lost in saying reads as undefined, which its type must then
        -- accept
        intro field mem c
        exact guard_undefined_of_callable (partsSee _ (isPart field mem))
          (partsSilent _ (isPart field mem))
      | _ => cases accepted
    | partialRecord fields =>
      cases v with
      | object members =>
        rw [Value.said_object]
        exact guardOptional_said tidy finite (fun _ mem => each _ (List.mem_map_of_mem mem)) accepted
      | _ => cases accepted
termination_by t => t.weight
decreasing_by exact weight_lt_of_consulted mem

end Descriptor

end Specimen
