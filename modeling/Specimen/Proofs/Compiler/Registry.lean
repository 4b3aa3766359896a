import Specimen.Proofs.Compiler.Tables
import Specimen.Proofs.Intersection.Rules

/-!
# Registries

What a compiler holds is a matter of the calls that set it up, in their order: each registry is the
table of what was registered (`after_eq`). So the strategy that an intersection is handed to is found
in the calls themselves, with no compiler in view (`resolve_after`), and a strategy that was replaced
is nowhere to be found (`after_of_replaced`).
-/

namespace Specimen

/-- A call on a compiler that is being set up. -/
inductive Registration
  | strategy (name : String) (handler : ExtensionStrategy)
  | customConstraint (tag : String) (handler : ConstraintStrategy)
  | intersectionRule (name : String) (tags : List Tag) (handler : IntersectStrategy)
  | customIntersection (tags : List String) (handler : IntersectStrategy)
  | maxSize (bound : Nat)

namespace Registration

/-- What a call sets. -/
inductive Slot
  | strategy (name : String)
  | customConstraint (tag : String)
  | intersectionRule (tags : Finset Tag)
  | customIntersection (tags : Finset String)
  | maxSize

/-- A later call for the same slot replaces an earlier one. Sets of kinds and of tags are slots
whatever order they were given in. -/
def slot : Registration → Slot
  | strategy name _ => .strategy name
  | customConstraint tag _ => .customConstraint tag
  | intersectionRule _ tags _ => .intersectionRule tags.toFinset
  | customIntersection tags _ => .customIntersection tags.toFinset
  | maxSize _ => .maxSize

/-- The strategy that a call registers, if it is a call for one. The four that follow are the same
for the other registries. -/
def strategy? : Registration → Option (String × ExtensionStrategy)
  | strategy name handler => some (name, handler)
  | _ => none

def customConstraint? : Registration → Option (String × ConstraintStrategy)
  | customConstraint tag handler => some (tag, handler)
  | _ => none

def rule? : Registration → Option IntersectionRule
  | intersectionRule name tags handler => some ⟨name, tagSet tags, handler⟩
  | _ => none

def customIntersection? : Registration → Option CustomIntersection
  | customIntersection tags handler => some ⟨textSet tags, handler⟩
  | _ => none

def maxSize? : Registration → Option Nat
  | maxSize bound => some bound
  | _ => none

section Slots

variable {a b : Registration} (same : a.slot = b.slot)

include same

/-- Calls for one slot are entries of one registry under one key, or of none; here and in the laws
that follow for each registry in turn. -/
theorem strategy?_of_slot_eq : a.strategy?.map Prod.fst = b.strategy?.map Prod.fst := by
  cases a <;> cases b <;> simp_all [slot, strategy?]

theorem customConstraint?_of_slot_eq :
    a.customConstraint?.map Prod.fst = b.customConstraint?.map Prod.fst := by
  cases a <;> cases b <;> simp_all [slot, customConstraint?]

theorem rule?_of_slot_eq :
    a.rule?.map IntersectionRule.tags = b.rule?.map IntersectionRule.tags := by
  cases a <;> cases b <;> simp_all [slot, rule?, tagSet_eq_iff]

theorem customIntersection?_of_slot_eq :
    a.customIntersection?.map CustomIntersection.tags =
      b.customIntersection?.map CustomIntersection.tags := by
  cases a <;> cases b <;> simp_all [slot, customIntersection?, textSet_eq_iff]

theorem maxSize?_of_slot_eq : a.maxSize?.map (fun _ => ()) = b.maxSize?.map fun _ => () := by
  cases a <;> cases b <;> simp_all [slot, maxSize?]

end Slots

end Registration

namespace Compiler

/-- What a call makes of a compiler. -/
def apply (c : Compiler) : Registration → Compiler
  | .strategy name handler => c.registerStrategy name handler
  | .customConstraint tag handler => c.registerCustomConstraint tag handler
  | .intersectionRule name tags handler => c.registerIntersectionRule name tags handler
  | .customIntersection tags handler => c.registerCustomIntersection tags handler
  | .maxSize bound => c.withMaxSize bound

/-- A fresh compiler after some calls. -/
def after (history : List Registration) : Compiler := history.foldl apply new

/-- A call changes what the calls before it have left. -/
theorem after_concat {history : List Registration} {call : Registration} :
    after (history ++ [call]) = (after history).apply call := by
  unfold after
  rw [List.foldl_concat]

/-- Where there is one key, the first entry is the one registered last. -/
theorem headD_register {α : Type} {entry default : α} {table : List α} :
    (register (fun _ => ()) entry table).headD default = entry := by
  cases table <;> rfl

/-- Whatever was called, each registry is the table of what was registered in it. -/
theorem after_eq (history : List Registration) :
    after history =
      { strategies := tableOf Prod.fst (history.filterMap Registration.strategy?)
        customConstraints := tableOf Prod.fst (history.filterMap Registration.customConstraint?)
        customRules := tableOf IntersectionRule.tags (history.filterMap Registration.rule?)
        customIntersections :=
          tableOf CustomIntersection.tags (history.filterMap Registration.customIntersection?)
        maxSize := (tableOf (fun _ => ()) (history.filterMap Registration.maxSize?)).headD
          defaultMaxSize } := by
  induction history using List.reverseRecOn with
  | nil => rfl
  | append_singleton history call ih =>
    rw [after_concat, ih]
    simp only [List.filterMap_append, List.filterMap_cons, List.filterMap_nil]
    cases call with
    | maxSize bound =>
      simp only [Registration.strategy?, Registration.customConstraint?, Registration.rule?,
        Registration.customIntersection?, Registration.maxSize?, List.append_nil, tableOf_concat]
      rw [headD_register]
      rfl
    | _ =>
      simp only [Registration.strategy?, Registration.customConstraint?, Registration.rule?,
        Registration.customIntersection?, Registration.maxSize?, List.append_nil, tableOf_concat]
      rfl

/-- What is called before another call sets the same leaves no trace, whatever it set it to. -/
theorem after_of_replaced {before between rest : List Registration} {old old' new : Registration}
    (same : old.slot = old'.slot) (replaced : new.slot = old.slot) :
    after (before ++ old :: between ++ new :: rest) =
      after (before ++ old' :: between ++ new :: rest) := by
  simp only [after_eq, mk.injEq]
  refine ⟨?_, ?_, ?_, ?_, ?_⟩
  · exact tableOf_filterMap_of_replaced (Registration.strategy?_of_slot_eq same)
      (Registration.strategy?_of_slot_eq replaced)
  · exact tableOf_filterMap_of_replaced (Registration.customConstraint?_of_slot_eq same)
      (Registration.customConstraint?_of_slot_eq replaced)
  · exact tableOf_filterMap_of_replaced (Registration.rule?_of_slot_eq same)
      (Registration.rule?_of_slot_eq replaced)
  · exact tableOf_filterMap_of_replaced (Registration.customIntersection?_of_slot_eq same)
      (Registration.customIntersection?_of_slot_eq replaced)
  · rw [tableOf_filterMap_of_replaced (Registration.maxSize?_of_slot_eq same)
      (Registration.maxSize?_of_slot_eq replaced)]

end Compiler

/-! ## Requests -/

/-- A strategy that was registered for intersections, and the kinds or tags that it is for. -/
structure Request (κ : Type) where
  set : Finset κ
  handler : IntersectStrategy

/-- A rule without its name, which plays no part in finding it. -/
def IntersectionRule.request (rule : IntersectionRule) : Request Tag :=
  ⟨rule.tags.toFinset, rule.strategy⟩

/-- The same of a strategy for tagged constraints. -/
def CustomIntersection.request (entry : CustomIntersection) : Request String :=
  ⟨entry.tags.toFinset, entry.strategy⟩

/-- The request that a call makes for rules, read off the call itself. -/
def Registration.ruleRequest? : Registration → Option (Request Tag)
  | intersectionRule _ tags handler => some ⟨tags.toFinset, handler⟩
  | _ => none

/-- The same for tagged constraints. -/
def Registration.customRequest? : Registration → Option (Request String)
  | customIntersection tags handler => some ⟨tags.toFinset, handler⟩
  | _ => none

namespace Request

variable {κ : Type} [DecidableEq κ]

/-- A table of what was requested: each set once, where it came first, with what was requested last
for it. -/
structure IsTableOf (table made : List (Request κ)) : Prop where
  distinct : (table.map set).Nodup
  inOrder : table.map set = (made.map set).eraseDups
  latest : ∀ entry ∈ table, ∃ before after, made = before ++ entry :: after ∧
    ∀ later ∈ after, later.set ≠ entry.set

/-- The request that serves some things: the last one for the set that came first of those that hold
all of them. -/
def serving? (made : List (Request κ)) (present : Finset κ) : Option (Request κ) :=
  (made.find? fun request => decide (present ⊆ request.set)).bind fun first =>
    latest? set made first.set

/-- The strategy that is called for things: that of the request that serves them, or the generic
one. -/
def called (made : List (Request κ)) (present : Finset κ) : IntersectStrategy :=
  match serving? made present with
  | some request => request.handler
  | none => fun _ => Intersection.generic

/-- A table in the sense of the definition is one in the sense of the specification. -/
theorem isTableOf_tableOf (made : List (Request κ)) : IsTableOf (tableOf set made) made where
  distinct := by
    rw [map_key_tableOf]
    exact nodup_eraseDups _
  inOrder := map_key_tableOf
  latest _ mem := (latest?_eq_some.mp (mem_tableOf.mp mem)).2

/-- Searching the table comes to the same as searching the requests. The table is in order of first
requests, and holds the last ones. -/
theorem find?_tableOf_eq_serving? (made : List (Request κ)) (present : Finset κ) :
    (tableOf set made).find? (fun request => decide (present ⊆ request.set)) =
      serving? made present :=
  find?_tableOf fun set => decide (present ⊆ set)

end Request

namespace Registration

/-- A registered set of kinds is in order and without repetition, so equal sets are equal lists. -/
theorem tags_of_rule? {call : Registration} {rule : IntersectionRule}
    (made : call.rule? = some rule) : ∃ tags, rule.tags = tagSet tags := by
  cases call <;> cases made
  exact ⟨_, rfl⟩

/-- The same of sets of tags. -/
theorem tags_of_customIntersection? {call : Registration} {entry : CustomIntersection}
    (made : call.customIntersection? = some entry) : ∃ tags, entry.tags = textSet tags := by
  cases call <;> cases made
  exact ⟨_, rfl⟩

theorem request_rule? {call : Registration} :
    call.rule?.map IntersectionRule.request = call.ruleRequest? := by
  cases call <;> simp [rule?, ruleRequest?, IntersectionRule.request, toFinset_tagSet]

theorem request_customIntersection? {call : Registration} :
    call.customIntersection?.map CustomIntersection.request = call.customRequest? := by
  cases call <;>
    simp [customIntersection?, customRequest?, CustomIntersection.request, toFinset_textSet]

end Registration

namespace Compiler

variable {history : List Registration}

/-- The registry of rules is the table of the requests for them. -/
theorem customRules_request :
    (after history).customRules.map IntersectionRule.request =
      tableOf Request.set (history.filterMap Registration.ruleRequest?) := by
  have alike : ∀ a ∈ history.filterMap Registration.rule?,
      ∀ b ∈ history.filterMap Registration.rule?,
        a.tags = b.tags ↔ a.request.set = b.request.set := by
    intro a ha b hb
    obtain ⟨_, _, made⟩ := List.mem_filterMap.mp ha
    obtain ⟨tags, listed⟩ := Registration.tags_of_rule? made
    obtain ⟨_, _, made'⟩ := List.mem_filterMap.mp hb
    obtain ⟨tags', listed'⟩ := Registration.tags_of_rule? made'
    simp only [IntersectionRule.request, listed, listed', tagSet_eq_iff, toFinset_tagSet]
  rw [after_eq, map_tableOf alike, List.map_filterMap]
  simp only [Registration.request_rule?]

/-- And so is the registry for tagged constraints. -/
theorem customIntersections_request :
    (after history).customIntersections.map CustomIntersection.request =
      tableOf Request.set (history.filterMap Registration.customRequest?) := by
  have alike : ∀ a ∈ history.filterMap Registration.customIntersection?,
      ∀ b ∈ history.filterMap Registration.customIntersection?,
        a.tags = b.tags ↔ a.request.set = b.request.set := by
    intro a ha b hb
    obtain ⟨_, _, made⟩ := List.mem_filterMap.mp ha
    obtain ⟨tags, listed⟩ := Registration.tags_of_customIntersection? made
    obtain ⟨_, _, made'⟩ := List.mem_filterMap.mp hb
    obtain ⟨tags', listed'⟩ := Registration.tags_of_customIntersection? made'
    simp only [CustomIntersection.request, listed, listed', textSet_eq_iff, toFinset_textSet]
  rw [after_eq, map_tableOf alike, List.map_filterMap]
  simp only [Registration.request_customIntersection?]

end Compiler

/-! ## Intersections -/

namespace Intersection

variable {history : List Registration} {c : Compiler} {types : List Descriptor}

/-- The kinds of some types. -/
def present (types : List Descriptor) : Finset Tag := (types.map Descriptor.tag).toFinset

/-- Covering is inclusion of sets. -/
theorem covers_eq {α : Type} [DecidableEq α] (set things : List α) :
    covers set things = decide (things.toFinset ⊆ set.toFinset) := by
  unfold covers
  rw [Bool.eq_iff_iff, List.all_eq_true, decide_eq_true_iff]
  simp [Finset.subset_iff]

theorem covers_kinds_eq (set : List Tag) :
    covers set (kinds types) = decide (present types ⊆ set.toFinset) := by
  rw [covers_eq, kinds, toFinset_tagSet, present]

/-- A built-in rule, as it stands in a compiler. -/
def BuiltIn.rule (c : Compiler) (builtIn : BuiltIn) : IntersectionRule :=
  ⟨builtIn.name, builtIn.tags, builtIn.strategy c⟩

/-- The first built-in rule that covers some kinds. -/
def BuiltIn.covering? (kinds : Finset Tag) : Option BuiltIn :=
  BuiltIn.all.find? fun builtIn => decide (kinds ⊆ builtIn.tags.toFinset)

/-- The rules that an intersection tries: those built in come first. -/
theorem rules_eq : rules c = BuiltIn.all.map (BuiltIn.rule c) ++ c.customRules := rfl

/-- The first registered rule that covers the kinds present, as a request. -/
theorem find?_customRules :
    ((Compiler.after history).customRules.find? fun rule => covers rule.tags (kinds types)).map
        IntersectionRule.request =
      Request.serving? (history.filterMap Registration.ruleRequest?) (present types) := by
  rw [← Request.find?_tableOf_eq_serving?, ← Compiler.customRules_request, List.find?_map]
  simp only [covers_kinds_eq]
  rfl

/-- The strategy for tagged constraints is found among the calls, by the set of their tags. -/
theorem find?_customIntersections {tags : List String} :
    ((Compiler.after history).customIntersections.find? fun entry => covers entry.tags tags).map
        CustomIntersection.request =
      Request.serving? (history.filterMap Registration.customRequest?) tags.toFinset := by
  rw [← Request.find?_tableOf_eq_serving?, ← Compiler.customIntersections_request, List.find?_map]
  simp only [covers_eq]
  rfl

/-- The strategy that several types are handed to. -/
def called (history : List Registration) (types : List Descriptor) : IntersectStrategy :=
  match BuiltIn.covering? (present types) with
  | some builtIn => builtIn.strategy (.after history)
  | none => Request.called (history.filterMap Registration.ruleRequest?) (present types)

/-- The candidate is what the strategy found among the calls makes of the types. -/
theorem candidate_after :
    candidate (.after history) types =
      called history types (Compiler.after history).maxSize types := by
  have builtIns : (BuiltIn.all.map (BuiltIn.rule (.after history))).find?
      (fun rule => covers rule.tags (kinds types)) =
        (BuiltIn.covering? (present types)).map (BuiltIn.rule (.after history)) := by
    rw [List.find?_map]
    simp only [covers_kinds_eq]
    rfl
  unfold candidate called
  rw [rules_eq, List.find?_append, builtIns]
  cases BuiltIn.covering? (present types) with
  | some builtIn => rfl
  | none =>
    unfold Request.called
    rw [← find?_customRules, Option.map_none, Option.none_or]
    cases (Compiler.after history).customRules.find? fun rule => covers rule.tags (kinds types) with
    | some rule => rfl
    | none => rfl

theorem customTags?_of_marked : ∀ {types : List Descriptor} {tags : List String},
    types.map Descriptor.customTag = tags.map some → customTags? types = some tags
  | [], [], _ => rfl
  | t :: types, tag :: tags, marked => by
    obtain ⟨first, rest⟩ := List.cons.inj marked
    have ih : types.mapM Descriptor.customTag = some tags := customTags?_of_marked rest
    unfold customTags?
    rw [List.mapM_cons, first, ih]
    rfl

/-- Only a constraint is tagged. -/
theorem tag_of_customTag {t : Descriptor} {tag : String} (marked : t.customTag = some tag) :
    t.tag = .constraint := by
  obtain ⟨id, shape⟩ := t
  cases shape with
  | constraint underlying predicate correction args => rfl
  | _ => cases marked

theorem tag_of_marked {tags : List String}
    (marked : types.map Descriptor.customTag = tags.map some) :
    ∀ t ∈ types, t.tag = .constraint := by
  intro t mem
  have hasTag : t.customTag ∈ tags.map some := marked ▸ List.mem_map_of_mem mem
  obtain ⟨tag, _, isTag⟩ := List.mem_map.mp hasTag
  exact tag_of_customTag isTag.symm

/-- Types that are all tagged are of one kind, so they go to the rule for constraints. -/
theorem present_of_marked {tags : List String} (nonempty : types ≠ [])
    (marked : types.map Descriptor.customTag = tags.map some) : present types = {.constraint} := by
  have kind := tag_of_marked marked
  ext tag
  simp only [present, List.mem_toFinset, List.mem_map, Finset.mem_singleton]
  constructor
  · rintro ⟨t, mem, rfl⟩
    exact kind t mem
  · rintro rfl
    exact ⟨types.head nonempty, List.head_mem nonempty, kind _ (List.head_mem nonempty)⟩

/-- Marked constraints are handed to what is registered for their tags. -/
theorem called_of_marked {tags : List String} (nonempty : types ≠ [])
    (marked : types.map Descriptor.customTag = tags.map some) :
    called history types (Compiler.after history).maxSize types =
      Request.called (history.filterMap Registration.customRequest?) tags.toFinset
        (Compiler.after history).maxSize types := by
  have covering : BuiltIn.covering? {.constraint} = some .dispatchConstraints := by decide
  unfold called
  rw [present_of_marked nonempty marked, covering]
  change dispatch (.after history) types = _
  unfold dispatch Request.called
  rw [customTags?_of_marked marked, Option.bind_some, ← find?_customIntersections]
  cases (Compiler.after history).customIntersections.find? fun entry => covers entry.tags tags with
  | some entry => rfl
  | none => rfl

/-- Types of which none is an intersection are all there is to intersect. -/
theorem flatten_of_plain : ∀ {types : List Descriptor},
    (∀ t ∈ types, t.tag ≠ .intersect) → flatten types = types
  | [], _ => rfl
  | .node id shape :: rest, plain => by
    have others := flatten_of_plain fun t mem => plain t (List.mem_cons_of_mem _ mem)
    have alone : flattenOne (.node id shape) = [.node id shape] := by
      cases shape with
      | intersect intersectees => exact absurd rfl (plain _ List.mem_cons_self)
      | _ => rfl
    rw [flatten, alone, others, List.singleton_append]

theorem resolve_after (two : 2 ≤ types.length) (plain : ∀ t ∈ types, t.tag ≠ .intersect) :
    resolve (.after history) types = do
      return guarded (← called history types (Compiler.after history).maxSize types)
        "intersection guard" types := by
  unfold resolve
  rw [flatten_of_plain plain, ← candidate_after]
  match types with
  | _ :: _ :: _ => rfl

end Intersection

end Specimen
