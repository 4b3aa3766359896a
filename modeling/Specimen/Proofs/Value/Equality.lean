import Mathlib.Data.List.Nodup
import Mathlib.Tactic.Common
import Specimen.Proofs.Fields
import Specimen.Value.Basic

/-!
# Equality of values with themselves

A value equals itself unless a not-a-number stands somewhere in it (`equal_self`). Objects are meant
to hold each name once; a list of members that repeats a name is no object, and `isTidy` tells them
apart.
-/

namespace Specimen

namespace Value

mutual

/-- Whether every object in a value holds each name once. -/
def isTidy : Value → Bool
  | .array items => areTidy items
  | .object members => decide (Fields.keys members).Nodup && areTidyMembers members
  | _ => true

/-- Whether all of several values are tidy. -/
def areTidy : List Value → Bool
  | [] => true
  | v :: rest => isTidy v && areTidy rest

/-- Whether the values of all members are. -/
def areTidyMembers : List (String × Value) → Bool
  | [] => true
  | (_, v) :: rest => isTidy v && areTidyMembers rest

end

mutual

/-- Whether all numbers in a value pass a test. -/
def allNumbers (test : Number → Bool) : Value → Bool
  | .number x => test x
  | .array items => allNumbersItems test items
  | .object members => allNumbersMembers test members
  | _ => true

/-- Whether all numbers in several values pass a test. -/
def allNumbersItems (test : Number → Bool) : List Value → Bool
  | [] => true
  | v :: rest => allNumbers test v && allNumbersItems test rest

/-- Whether all numbers in the values of members do. -/
def allNumbersMembers (test : Number → Bool) : List (String × Value) → Bool
  | [] => true
  | (_, v) :: rest => allNumbers test v && allNumbersMembers test rest

end

/-- Whether no not-a-number stands anywhere in a value. -/
def isFreeOfNaN (v : Value) : Bool := v.allNumbers fun x => !x.isNaN

/-! ## Reflexivity -/

theorem equal_number_self {x : Number} (number : x.isNaN = false) : x.equal x = true := by
  simp [Number.equal, number]

mutual

/-- A tidy value without anything that is not a number is equal to itself, by induction on it. -/
theorem equal_self : ∀ (v : Value), v.isTidy = true → v.isFreeOfNaN = true → v.equal v = true
  | .undefined, _, _ => rfl
  | .null, _, _ => rfl
  | .bool b, _, _ => by simp [equal]
  | .number x, _, free => by
    simp only [isFreeOfNaN, allNumbers, Bool.not_eq_true'] at free
    exact equal_number_self free
  | .string s, _, _ => by simp [equal]
  | .array items, tidy, free => equalItems_self items tidy free
  | .object members, tidy, free => by
    simp only [isTidy, Bool.and_eq_true, decide_eq_true_eq] at tidy
    simp only [equal, beq_self_eq_true, Bool.true_and]
    exact equalMembers_self members members (fun _ mem => mem) tidy.1 tidy.2 free
  | .callable c, _, _ => by simp [equal]

theorem equalItems_self :
    ∀ (items : List Value), areTidy items = true →
      allNumbersItems (fun x => !x.isNaN) items = true → equalItems items items = true
  | [], _, _ => rfl
  | v :: rest, tidy, free => by
    simp only [areTidy, Bool.and_eq_true] at tidy
    simp only [allNumbersItems, Bool.and_eq_true] at free
    simp only [equalItems, Bool.and_eq_true]
    exact ⟨equal_self v tidy.1 free.1, equalItems_self rest tidy.2 free.2⟩

/-- The induction is on the members compared, which stay among all members of the object. -/
theorem equalMembers_self :
    ∀ (members all : List (String × Value)), (∀ member ∈ members, member ∈ all) →
      (Fields.keys all).Nodup → areTidyMembers members = true →
      allNumbersMembers (fun x => !x.isNaN) members = true → equalMembers members all = true
  | [], _, _, _, _, _ => rfl
  | (k, v) :: rest, all, among, nodup, tidy, free => by
    simp only [areTidyMembers, Bool.and_eq_true] at tidy
    simp only [allNumbersMembers, Bool.and_eq_true] at free
    have found := Fields.get?_of_mem nodup (among (k, v) List.mem_cons_self)
    simp only [equalMembers, found, Bool.and_eq_true]
    exact ⟨equal_self v tidy.1 free.1,
      equalMembers_self rest all (fun member mem => among member (List.mem_cons_of_mem _ mem))
        nodup tidy.2 free.2⟩

end

end Value

end Specimen
