import Specimen.Proofs.Compiler.Registry

/-!
# Ledgers

The tables of a compiler as they are kept. All rules for intersections stand in one table, the
built-in ones first, and their number is kept beside it (`Ledger`). A call looks for its rule in the
slice that begins there and replaces it at the place where the slice has it, or adds it at the end.
The slice is always in bounds, and so is the place, and what comes of any calls are the tables of the
compiler that they set up (`Ledger.foldlM_register?`).

So the registries are ordered tables in which the last call for a set wins and keeps the place of the
first, behind the built-in rules, which no call touches (`registries_are_tables`).
-/

namespace Specimen

/-! ## Tables with a fixed part -/

section Tables

variable {α κ : Type} [BEq κ]

/-- What is left of a list from a place on, if the place is not past its end. -/
def suffix? (list : List α) (start : Nat) : Option (List α) :=
  if start ≤ list.length then some (list.drop start) else none

/-- A list with the item at a place replaced, if there is one. -/
def set? (list : List α) (place : Nat) (item : α) : Option (List α) :=
  if place < list.length then some (list.set place item) else none

/-- Replaces the first entry of an equal key from a place on, or adds one at the end. -/
def replaceOrAdd? (start : Nat) (key : α → κ) (entry : α) (table : List α) : Option (List α) := do
  match (← suffix? table start).findIdx? fun old => key old == key entry with
  | some i => set? table (start + i) entry
  | none => return table ++ [entry]

theorem register_eq (key : α → κ) (entry : α) : ∀ table : List α,
    register key entry table =
      match table.findIdx? fun old => key old == key entry with
      | some i => table.set i entry
      | none => table ++ [entry]
  | [] => rfl
  | old :: rest => by
    rw [register, List.findIdx?_cons, register_eq key entry rest]
    split
    · rfl
    · cases rest.findIdx? fun old => key old == key entry <;> rfl

/-- Where the entries to be looked through follow others, what is found among them is in the table,
as much further on as there are others. -/
theorem replaceOrAdd?_append (key : α → κ) (entry : α) (fixed table : List α) :
    replaceOrAdd? fixed.length key entry (fixed ++ table) =
      some (fixed ++ register key entry table) := by
  have slice : suffix? (fixed ++ table) fixed.length = some table := by
    rw [suffix?, if_pos (by simp), List.drop_left]
  rw [replaceOrAdd?, slice, register_eq]
  change (match table.findIdx? fun old => key old == key entry with
    | some i => set? (fixed ++ table) (fixed.length + i) entry
    | none => some (fixed ++ table ++ [entry])) = _
  cases found : table.findIdx? fun old => key old == key entry with
  | none => exact congrArg some (List.append_assoc _ _ _)
  | some i =>
    -- a place in the slice is a place in the table, behind the fixed entries
    have inside : i < table.length := (List.findIdx?_eq_some_iff_findIdx_eq.mp found).1
    have place : fixed.length + i < (fixed ++ table).length := by
      rw [List.length_append]
      omega
    simp only [set?, if_pos place, List.set_append_right _ _ (Nat.le_add_right _ _),
      Nat.add_sub_cancel_left]

end Tables

/-- The tables of a compiler as they are kept: one table of all rules, the built-in ones first, and
the number of those beside it. -/
structure Ledger where
  strategies : List (String × ExtensionStrategy)
  customConstraints : List (String × ConstraintStrategy)
  rules : List (Intersection.BuiltIn ⊕ IntersectionRule)
  builtIns : Nat
  customIntersections : List CustomIntersection
  maxSize : Nat

namespace Ledger

open Intersection

def tagsOf : BuiltIn ⊕ IntersectionRule → List Tag := Sum.elim BuiltIn.tags IntersectionRule.tags

/-- A ledger with nothing registered. -/
def new : Ledger :=
  let rules := BuiltIn.all.map Sum.inl
  ⟨[], [], rules, rules.length, [], Compiler.defaultMaxSize⟩

/-- What a call makes of a ledger, unless it looks past the end of a table. -/
def register? (l : Ledger) : Registration → Option Ledger
  | .strategy name handler =>
    some { l with strategies := register Prod.fst (name, handler) l.strategies }
  | .customConstraint tag handler =>
    some { l with customConstraints := register Prod.fst (tag, handler) l.customConstraints }
  | .intersectionRule name tags handler => do
    let rule := .inr ⟨name, tagSet tags, handler⟩
    return { l with rules := ← replaceOrAdd? l.builtIns tagsOf rule l.rules }
  | .customIntersection tags handler => do
    let entry := ⟨textSet tags, handler⟩
    return { l with
      customIntersections :=
        ← replaceOrAdd? 0 CustomIntersection.tags entry l.customIntersections }
  | .maxSize bound => some { l with maxSize := bound }

/-- The tables of a compiler. -/
def of (c : Compiler) : Ledger where
  strategies := c.strategies
  customConstraints := c.customConstraints
  rules := BuiltIn.all.map Sum.inl ++ c.customRules.map Sum.inr
  builtIns := BuiltIn.all.length
  customIntersections := c.customIntersections
  maxSize := c.maxSize

/-- Read as rules, the table of rules is the one that intersections are looked up in. -/
theorem map_rules_of (c : Compiler) :
    (of c).rules.map (Sum.elim (BuiltIn.rule c) id) = Intersection.rules c := by
  rw [of, List.map_append, List.map_map, List.map_map, rules_eq]
  exact congrArg _ (List.map_id _)

/-- A call finds its place in the tables of any compiler, and leaves the tables of what it makes of
the compiler. -/
theorem register?_of (c : Compiler) (call : Registration) :
    (of c).register? call = some (of (c.apply call)) := by
  cases call with
  | strategy | customConstraint | maxSize => rfl
  | intersectionRule name tags handler =>
    have kept : ((register IntersectionRule.tags ⟨name, tagSet tags, handler⟩ c.customRules).map
        Sum.inr : List (BuiltIn ⊕ IntersectionRule)) =
          register tagsOf (.inr ⟨name, tagSet tags, handler⟩) (c.customRules.map Sum.inr) :=
      map_register fun _ _ => Iff.rfl
    have place := replaceOrAdd?_append tagsOf (.inr ⟨name, tagSet tags, handler⟩)
      (BuiltIn.all.map Sum.inl) (c.customRules.map Sum.inr)
    rw [← kept] at place
    exact congrArg (Option.bind · fun rules => some { of c with rules := rules }) place
  | customIntersection tags handler =>
    have place := replaceOrAdd?_append CustomIntersection.tags ⟨textSet tags, handler⟩ []
      c.customIntersections
    exact congrArg (Option.bind · fun entries => some { of c with customIntersections := entries })
      place

/-- Whatever is registered, in whatever order, each call finds its place. -/
theorem foldlM_register? (history : List Registration) :
    history.foldlM register? new = some (of (Compiler.after history)) := by
  have run : ∀ c : Compiler,
      history.foldlM register? (of c) = some (of (history.foldl Compiler.apply c)) := by
    induction history with
    | nil => exact fun _ => rfl
    | cons call history ih =>
      intro c
      rw [List.foldlM_cons, register?_of]
      exact ih (c.apply call)
  exact run .new

/-- With a count of built-in rules that is not theirs, the slice would be out of bounds. -/
example : ({ new with builtIns := 4 } : Ledger).register?
    (.intersectionRule "late" [.always] fun _ => generic) = none := rfl

end Ledger

/-! ## Registries -/

namespace Compiler

/-- The registries are tables in which the last call for a set wins and keeps the place of the first.
As they are kept, the rules stand in one table behind the built-in ones, which no call touches: what
lies before the number that is kept beside the table is always the built-in rules, and what lies
behind it the registered ones. What several types are handed to follows from the calls: it is the
first built-in rule for their kinds, or else the strategy last registered for the set that was
registered first of those that hold all kinds. Marked constraints are handed out by their tags in the
same way. Whatever was registered before a call that sets the same might as well have been anything
else. -/
theorem registries_are_tables (history : List Registration) :
    (∃ kept, history.foldlM Ledger.register? .new = some kept ∧
      kept.rules.take kept.builtIns = Intersection.BuiltIn.all.map Sum.inl ∧
      kept.rules.drop kept.builtIns = (after history).customRules.map Sum.inr ∧
      kept.rules.map (Sum.elim (Intersection.BuiltIn.rule (after history)) id) =
        Intersection.rules (after history) ∧
      kept.customIntersections = (after history).customIntersections) ∧
    Request.IsTableOf ((after history).customRules.map IntersectionRule.request)
      (history.filterMap Registration.ruleRequest?) ∧
    Request.IsTableOf ((after history).customIntersections.map CustomIntersection.request)
      (history.filterMap Registration.customRequest?) ∧
    (∀ types : List Descriptor, 2 ≤ types.length → (∀ t ∈ types, t.tag ≠ .intersect) →
      Intersection.resolve (after history) types = do
        return Intersection.guarded
          (← Intersection.called history types (after history).maxSize types)
          "intersection guard" types) ∧
    (∀ (types : List Descriptor) (tags : List String), 2 ≤ types.length →
      types.map Descriptor.customTag = tags.map some →
      Intersection.resolve (after history) types = do
        return Intersection.guarded
          (← Request.called (history.filterMap Registration.customRequest?) tags.toFinset
            (after history).maxSize types)
          "intersection guard" types) ∧
    (∀ before old between new rest, history = before ++ old :: between ++ new :: rest →
      new.slot = old.slot → ∀ old', old.slot = old'.slot →
        after history = after (before ++ old' :: between ++ new :: rest)) := by
  refine ⟨⟨_, Ledger.foldlM_register? history, List.take_left' (List.length_map _),
    List.drop_left' (List.length_map _), Ledger.map_rules_of _, rfl⟩, ?_, ?_,
    fun _ => Intersection.resolve_after, ?_, ?_⟩
  · rw [customRules_request]
    exact Request.isTableOf_tableOf _
  · rw [customIntersections_request]
    exact Request.isTableOf_tableOf _
  · intro types tags two marked
    have nonempty : types ≠ [] := by
      rintro rfl
      cases two
    -- what is tagged is a constraint, so there is nothing to flatten
    have plain : ∀ t ∈ types, t.tag ≠ .intersect := by
      intro t mem
      have kind := Intersection.tag_of_marked marked t mem
      rw [kind]
      decide
    rw [Intersection.resolve_after two plain, Intersection.called_of_marked nonempty marked]
  · rintro before old between new rest rfl replaced old' same
    exact after_of_replaced same replaced

/-- A strategy that always draws its own name. -/
def drawsName (name : String) : IntersectStrategy :=
  fun _ _ => return .constant (.string name)

/-- A set of kinds that is registered again after a narrower one, and a set of tags that is registered
again, each of them written otherwise the second time. -/
def revisions : List Registration :=
  [.intersectionRule "wide" [.string, .boolean, .number] (drawsName "wide, at first"),
    .intersectionRule "narrow" [.number, .string] (drawsName "narrow"),
    .customIntersection ["b", "a"] (drawsName "tagged, at first"),
    .intersectionRule "wide" [.number, .boolean, .string, .number] (drawsName "wide"),
    .maxSize 3,
    .intersectionRule "records" [.record, .partialRecord] (drawsName "records"),
    .customIntersection ["a", "b", "a"] (drawsName "tagged")]

def scalars : List Descriptor := [.node 0 .number, .node 1 .string]

def markedScalars : List Descriptor :=
  [.node 2 (.constraint (.node 0 .number) ⟨"b", fun _ => true⟩ none (some (Args.new "b"))),
    .node 3 (.constraint (.node 1 .string) ⟨"a", fun _ => true⟩ none (some (Args.new "a")))]

def forms : List Descriptor := [.node 4 (.record []), .node 5 (.partialRecord [])]

/-- The set that came first serves, with what was said of it last; and records are merged, though a
rule is registered for them. -/
theorem revisions_serve :
    Intersection.resolve (after revisions) scalars =
      (return Intersection.guarded (.constant (.string "wide")) "intersection guard" scalars) ∧
    Intersection.resolve (after revisions) markedScalars =
      (return Intersection.guarded (.constant (.string "tagged")) "intersection guard"
        markedScalars) ∧
    Intersection.resolve (after revisions) forms =
      (do
        return Intersection.guarded (← Intersection.mergeRecords forms) "intersection guard"
          forms) := by
  obtain ⟨_, _, _, resolves, marked, _⟩ := registries_are_tables revisions
  refine ⟨?_, ?_, ?_⟩
  · rw [resolves scalars (by decide) (by decide)]
    rfl
  · rw [marked markedScalars ["b", "a"] (by decide) rfl]
    rfl
  · rw [resolves forms (by decide) (by decide)]
    rfl

end Compiler

end Specimen
