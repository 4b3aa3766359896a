import Specimen.Compiler.Contains
import Specimen.Proofs.Compiler.Asking
import Specimen.Proofs.Compiler.Registry
import Specimen.Proofs.Descriptor.Demands

/-!
# What a registration leaves alone

A registration reaches the types that demand what it was made for, and no others
(`compile_of_missed`): before and after it, a type that does not is compiled to the same generator, or
ends in the same error. The types that are compiled on the way are not all parts of the type, since
intersections make types of their own; what carries the induction is that these demand nothing else.

The compiler before is trusted with one thing: its strategies have nothing compiled that demands more
than the node that they are handed (`KeepsToNodes`), as is so when they compile parts of it. Strategies
that come with the registrations are trusted with nothing. They are not called.
-/

namespace Specimen

/-! ## Tables -/

/-- An entry that a search passes over, put where another such entry was or at the end. -/
theorem find?_register {α κ : Type} [BEq κ] (key : α → κ) (entry : α) (p : α → Bool)
    (new : p entry = false) :
    ∀ {table : List α}, (∀ old ∈ table, (key old == key entry) = true → p old = false) →
      (register key entry table).find? p = table.find? p
  | [], _ => by simp [register, new]
  | first :: rest, old => by
    obtain ⟨here, rest'⟩ := List.forall_mem_cons.mp old
    unfold register
    split
    case isTrue same => rw [List.find?_cons, List.find?_cons, new, here same]
    case isFalse => rw [List.find?_cons, List.find?_cons, find?_register key entry p new rest']

theorem get?_register {α : Type} {name other : String} {a : α} (apart : name ≠ other) :
    ∀ {table : List (String × α)},
      Fields.get? (register Prod.fst (name, a) table) other = Fields.get? table other
  | [] => if_neg apart
  | (k, b) :: rest => by
    unfold register
    split
    case isTrue same =>
      obtain rfl : k = name := beq_iff_eq.mp same
      rw [Fields.get?, Fields.get?, if_neg apart, if_neg apart]
    case isFalse => rw [Fields.get?, Fields.get?, get?_register apart]

namespace Compiler

variable {c c' : Compiler}

/-! ## Two compilers with the same to say -/

/-- What two compilers find for some demands is the same. -/
structure AgreesOn (c c' : Compiler) (demanded : List Demand) : Prop where
  maxSize : c'.maxSize = c.maxSize
  rules : c'.customRules = c.customRules
  strategy : ∀ name, .extension name ∈ demanded →
    Fields.get? c'.strategies name = Fields.get? c.strategies name
  constraint : ∀ tag, .mark tag ∈ demanded →
    Fields.get? c'.customConstraints tag = Fields.get? c.customConstraints tag
  intersection : ∀ tags ≠ [], (∀ tag ∈ tags, .mark tag ∈ demanded) →
    c'.customIntersections.find? (fun entry => Intersection.covers entry.tags tags) =
      c.customIntersections.find? fun entry => Intersection.covers entry.tags tags

namespace AgreesOn

variable {demanded fewer : List Demand}

theorem refl : AgreesOn c c demanded :=
  ⟨rfl, rfl, fun _ _ => rfl, fun _ _ => rfl, fun _ _ _ => rfl⟩

theorem trans {c'' : Compiler} (first : AgreesOn c c' demanded)
    (second : AgreesOn c' c'' demanded) : AgreesOn c c'' demanded where
  maxSize := second.maxSize.trans first.maxSize
  rules := second.rules.trans first.rules
  strategy name known := (second.strategy name known).trans (first.strategy name known)
  constraint tag known := (second.constraint tag known).trans (first.constraint tag known)
  intersection tags some known :=
    (second.intersection tags some known).trans (first.intersection tags some known)

theorem of_subset (agrees : AgreesOn c c' demanded) (subset : fewer ⊆ demanded) :
    AgreesOn c c' fewer where
  maxSize := agrees.maxSize
  rules := agrees.rules
  strategy name known := agrees.strategy name (subset known)
  constraint tag known := agrees.constraint tag (subset known)
  intersection tags some known := agrees.intersection tags some fun tag mem => subset (known tag mem)

end AgreesOn

end Compiler

namespace Intersection

variable {c c' : Compiler} {types : List Descriptor}

theorem mem_of_customTags? : ∀ {types : List Descriptor} {tags : List String},
    customTags? types = some tags → types.map Descriptor.customTag = tags.map some
  | [], tags, marked => by cases marked; rfl
  | t :: types, tags, marked => by
    unfold customTags? at marked
    rw [List.mapM_cons] at marked
    obtain ⟨tag, first, rest⟩ := Option.bind_eq_some_iff.mp marked
    obtain ⟨others, last, made⟩ := Option.bind_eq_some_iff.mp rest
    cases made
    rw [List.map_cons, List.map_cons, first, mem_of_customTags? last]

theorem dispatch_of_agreesOn (some : types ≠ [])
    (agrees : c.AgreesOn c' (Descriptor.demandsAll types)) : dispatch c' types = dispatch c types := by
  unfold dispatch
  rw [agrees.maxSize]
  cases marked : customTags? types with
  | none => rfl
  | some tags =>
    have carried := mem_of_customTags? marked
    have present : tags ≠ [] := by
      rintro rfl
      exact some (List.map_eq_nil_iff.mp carried)
    rw [Option.bind_some, Option.bind_some, agrees.intersection tags present]
    intro tag mem
    have among : Option.some tag ∈ types.map Descriptor.customTag := by
      rw [carried]
      exact List.mem_map_of_mem mem
    obtain ⟨t, mem, carries⟩ := List.mem_map.mp among
    exact Descriptor.demands_subset_demandsAll mem (Descriptor.demand_of_customTag carries)

/-- An intersection finds the same rule, and with it the same plan. -/
theorem resolve_of_agreesOn {intersectees : List Descriptor}
    (agrees : c.AgreesOn c' (Descriptor.demandsAll intersectees)) :
    resolve c' intersectees = resolve c intersectees := by
  unfold resolve
  rw [← Descriptor.demandsAll_flatten] at agrees
  generalize flatten intersectees = types at agrees
  split
  case h_1 => rfl
  case h_2 => rfl
  case h_3 notNil _ =>
    have same : candidate c' types = candidate c types := by
      simp only [candidate, rules, BuiltIn.all, List.map_cons, List.map_nil, List.cons_append,
        List.nil_append, List.find?_cons, agrees.rules, agrees.maxSize]
      cases covers BuiltIn.mergeRecords.tags (kinds types) with
      | true => rfl
      | false =>
        cases covers BuiltIn.flattenUnions.tags (kinds types) with
        | true => rfl
        | false =>
          cases covers BuiltIn.dispatchConstraints.tags (kinds types) with
          | true => exact dispatch_of_agreesOn notNil agrees
          | false => rfl
    rw [same]

end Intersection

namespace Compiler

variable {c c' : Compiler} {t : Descriptor}

/-- A node has the same plan for compilers that find the same for what it demands. -/
theorem step_of_agreesOn (agrees : c.AgreesOn c' t.demands) : c'.step t = c.step t := by
  obtain ⟨id, shape⟩ := t
  cases shape with
  | array element => simp only [step, Descriptor.shape, agrees.maxSize]
  | dictionary value => simp only [step, Descriptor.shape, agrees.maxSize]
  | intersect intersectees => exact Intersection.resolve_of_agreesOn agrees
  | constraint underlying predicate correction arguments =>
    simp only [step, Descriptor.shape, compileConstraint, agrees.maxSize]
    cases marked : Descriptor.marking arguments with
    | none => rfl
    | some args =>
      have demanded : .mark args.tag ∈
          Descriptor.demandsFrom (.constraint underlying predicate correction arguments) := by
        rw [Descriptor.demands_of_marked marked]
        exact List.mem_cons_self
      simp only [agrees.constraint args.tag demanded]
  | extension name payload guard =>
    have demanded : .extension name ∈ Descriptor.demandsFrom (.extension name payload guard) :=
      List.mem_singleton_self _
    simp only [step, Descriptor.shape, agrees.maxSize, agrees.strategy name demanded]
  | _ => rfl

end Compiler

/-! ## Strategies that keep to their nodes -/

/-- What a marked constraint demands, as its strategy sees it. -/
def MarkedConstraint.demands (node : MarkedConstraint) : List Demand :=
  .mark node.args.tag :: (node.underlying.demands ++ Descriptor.demandsFields node.args.types)

namespace Compiler

/-- Whatever registered strategies have compiled demands nothing but what the node or the
intersectees do that they are handed. So it is when they compile parts of these, at any depth, or
intersections and other types made of such parts. -/
structure KeepsToNodes (c : Compiler) : Prop where
  extension : ∀ {name strategy}, (name, strategy) ∈ c.strategies → ∀ node : ExtensionNode,
    (strategy c.maxSize node).AsksOnly fun s => s.demands ⊆ [.extension node.name]
  constraint : ∀ {tag strategy}, (tag, strategy) ∈ c.customConstraints →
    ∀ node : MarkedConstraint,
      (strategy c.maxSize node).AsksOnly fun s => s.demands ⊆ node.demands
  rule : ∀ {rule}, rule ∈ c.customRules → ∀ types,
    (rule.strategy c.maxSize types).AsksOnly fun s => s.demands ⊆ Descriptor.demandsAll types
  intersection : ∀ {entry}, entry ∈ c.customIntersections → ∀ types,
    (entry.strategy c.maxSize types).AsksOnly fun s => s.demands ⊆ Descriptor.demandsAll types

/-- What counts items has two types compiled, both of them parts of its node. -/
theorem contains_asksOnly (maxSize : Nat) (node : MarkedConstraint) :
    (Contains.strategy maxSize node).AsksOnly fun s => s.demands ⊆ node.demands := by
  refine Contains.strategy_asksOnly maxSize node ?_ fun field mem => ?_
  · exact fun _ demanded => .tail _ (List.mem_append_left _ demanded)
  · exact fun _ demanded => .tail _ <| List.mem_append_right _ <|
      Descriptor.mem_demandsFields.mpr ⟨field, mem, demanded⟩

variable {c c' : Compiler} {t : Descriptor}

/-- A step has nothing compiled that demands more than its node. -/
theorem step_asksOnly (keeps : c.KeepsToNodes) (t : Descriptor) :
    (c.step t).AsksOnly fun s => s.demands ⊆ t.demands := by
  obtain ⟨id, shape⟩ := t
  by_cases plain : shape.tag = .intersect
  · obtain ⟨intersectees, rfl⟩ := Shape.tag_eq_intersect.mp plain
    have flat := Descriptor.demandsAll_flatten intersectees
    change (Intersection.resolve c intersectees).AsksOnly fun s =>
      s.demands ⊆ Descriptor.demandsAll intersectees
    rw [← flat]
    refine Intersection.resolve_asksOnly (fun rule mem => keeps.rule mem _)
      (fun entry mem => keeps.intersection mem _) (fun t => Descriptor.demands_subset_demandsAll)
      (fun _ _ entry => Intersection.demands_fieldType_subset) fun t mem a alternative => ?_
    exact Intersection.demands_subset_of_part mem
      (Intersection.alternativesOf_subset_parts t alternative)
  · refine step_asksOnly_of_plain plain ?_ ?_ fun part => Descriptor.demands_subset_of_mem_parts
    · rintro name payload guard strategy rfl registered
      exact keeps.extension registered ⟨name, payload, guard⟩
    · rintro underlying predicate correction arguments args strategy rfl marked registered
      rw [Descriptor.demands, Descriptor.demands_of_marked marked]
      exact keeps.constraint registered ⟨underlying, predicate, correction, args⟩

/-- By induction on the bound on nesting: where a type has the same plan, the types that this asks for
demand no more, so they are compiled to the same. -/
theorem compileWithin_of_agreesOn (keeps : c.KeepsToNodes) : ∀ (depth : Nat) {t : Descriptor},
    c.AgreesOn c' t.demands → c'.compileWithin depth t = c.compileWithin depth t
  | 0, _, _ => rfl
  | depth + 1, t, agrees => by
    rw [compileWithin, compileWithin, step_of_agreesOn agrees]
    refine Plan.run_congr (fun s demanded => ?_) (step_asksOnly keeps t)
    exact compileWithin_of_agreesOn keeps depth (agrees.of_subset demanded)

end Compiler

/-! ## Registrations -/

/-- A call that registers a strategy for something that is not among some demands: an extension, a
mark, or intersections of which each mark is none of them. -/
def Registration.Misses (demanded : List Demand) : Registration → Prop
  | strategy name _ => .extension name ∉ demanded
  | customConstraint tag _ => .mark tag ∉ demanded
  | customIntersection tags _ => ∀ tag ∈ tags, .mark tag ∉ demanded
  | intersectionRule _ _ _ => False
  | maxSize _ => False

namespace Compiler

variable {c : Compiler} {demanded : List Demand}

/-- A set of tags that covers some others, if any, holds each of them. -/
private theorem not_covers {set tags : List String} (some : tags ≠ [])
    (apart : ∀ tag ∈ tags, tag ∉ set) : Intersection.covers set tags = false := by
  refine Bool.eq_false_iff.mpr fun covered => ?_
  have first := List.head_mem some
  have within := List.all_eq_true.mp covered _ first
  exact apart _ first (List.contains_iff_mem.mp within)

theorem agreesOn_apply {call : Registration} (missed : call.Misses demanded) :
    c.AgreesOn (c.apply call) demanded := by
  cases call with
  | strategy name handler =>
    refine { AgreesOn.refl with strategy := fun other known => get?_register ?_ }
    rintro rfl
    exact missed known
  | customConstraint tag handler =>
    refine { AgreesOn.refl with constraint := fun other known => get?_register ?_ }
    rintro rfl
    exact missed known
  | customIntersection tags handler =>
    refine { AgreesOn.refl with intersection := fun present some known => ?_ }
    have passed : Intersection.covers (textSet tags) present = false := by
      refine not_covers some fun tag mem within => ?_
      exact missed tag (mem_textSet.mp within) (known tag mem)
    have kept : ∀ old ∈ c.customIntersections, (old.tags == textSet tags) = true →
        Intersection.covers old.tags present = false := by
      intro old _ same
      rw [beq_iff_eq.mp same]
      exact passed
    exact find?_register CustomIntersection.tags ⟨textSet tags, handler⟩
      (fun entry => Intersection.covers entry.tags present) passed kept
  | intersectionRule name tags handler => exact missed.elim
  | maxSize bound => exact missed.elim

theorem agreesOn_foldl : ∀ {calls : List Registration} {c : Compiler},
    (∀ call ∈ calls, call.Misses demanded) → c.AgreesOn (calls.foldl apply c) demanded
  | [], _, _ => .refl
  | call :: calls, c, missed => by
    obtain ⟨here, rest⟩ := List.forall_mem_cons.mp missed
    exact (agreesOn_apply here).trans (agreesOn_foldl rest)

/-- Calls that register strategies for extensions, marks and intersections of marks that a type does
not demand change nothing about its compilation, as long as the strategies from before keep to their
nodes: it comes to the same generator, which draws and rejects as it did, or to the same error, within
every bound on nesting. So what counts items of arrays changes nothing for a type in which nothing is
to be counted. -/
theorem compile_of_missed (c : Compiler) (keeps : c.KeepsToNodes) (t : Descriptor) :
    (∀ calls : List Registration, (∀ call ∈ calls, call.Misses t.demands) →
      (calls.foldl apply c).compile t = c.compile t ∧
        ∀ depth, (calls.foldl apply c).compileWithin depth t = c.compileWithin depth t) ∧
    (.mark Contains.tag ∉ t.demands → (Contains.register c).compile t = c.compile t) := by
  have same : ∀ calls : List Registration, (∀ call ∈ calls, call.Misses t.demands) → ∀ depth,
      (calls.foldl apply c).compileWithin depth t = c.compileWithin depth t :=
    fun calls missed depth => compileWithin_of_agreesOn keeps depth (agreesOn_foldl missed)
  refine ⟨fun calls missed => ⟨same calls missed _, same calls missed⟩, fun uncounted => ?_⟩
  refine same [.customConstraint Contains.tag Contains.strategy] ?_ _
  exact List.forall_mem_singleton.mpr uncounted

/-- A compiler that draws stamps, counts items, and has a rule for arrays of which one is counted. -/
def stamping : Compiler :=
  ((Contains.register .new).registerStrategy "stamp" fun _ _ =>
    pure (.constant (.string "stamp"))).registerIntersectionRule "count" [.array, .constraint]
      fun _ types => Intersection.generic types

/-- A book that two forms describe. They count different things on its page, and one of them what is
on its cover. -/
def countedBook : Descriptor :=
  let stamp : Descriptor := .node 0 (.extension "stamp" .null ⟨"stamp", fun _ => true⟩)
  let stamps : Descriptor := .node 1 (.array stamp)
  let counted (item : Descriptor) : Shape :=
    .constraint stamps ⟨"counted", fun _ => true⟩ none
      (some ((Args.new Contains.tag).withType "item" item))
  .node 2 <| .intersect
    [.node 3 (.record [("page", .node 4 (counted (.node 5 .always))), ("cover", stamps)]),
      .node 6 (.partialRecord
        [("cover", .node 7 (counted (.node 8 .always))), ("page", .node 9 (counted stamps))])]

/-- Strategies for another extension, another mark, and intersections with that mark. -/
def laterCalls : List Registration :=
  [.strategy "seal" fun _ _ => pure .boolean, .customConstraint "sorted" fun _ _ => pure .boolean,
    .customIntersection ["sorted", "sealed"] fun _ _ => pure .boolean]

/-- The book compiles, though its fields are intersections that stand nowhere in it, and the later
calls are not noticed. Nor is it noticed where nothing is counted that counting was registered. -/
theorem stamping_unmoved :
    (∃ g, stamping.compile countedBook = .ok g ∧
      (laterCalls.foldl apply stamping).compile countedBook = .ok g) ∧
    (Contains.register stamping).compile (.node 1 (.array (.node 0 .string))) =
      stamping.compile (.node 1 (.array (.node 0 .string))) := by
  have keeps : stamping.KeepsToNodes :=
    { extension := fun registered node => by
        cases List.mem_singleton.mp registered
        exact .pure _
      constraint := fun registered node => by
        cases List.mem_singleton.mp registered
        exact contains_asksOnly _ node
      rule := fun registered types => by
        cases List.mem_singleton.mp registered
        exact Intersection.generic_asksOnly fun t => Descriptor.demands_subset_demandsAll
      intersection := nofun }
  have missed : ∀ call ∈ laterCalls, call.Misses countedBook.demands := by
    simp only [laterCalls, List.forall_mem_cons, Registration.Misses]
    exact ⟨by decide, by decide, ⟨by decide, by decide, nofun⟩, nofun⟩
  have same := ((compile_of_missed stamping keeps countedBook).1 laterCalls missed).1
  have compiled : ∃ g, stamping.compile countedBook = .ok g := ⟨_, rfl⟩
  obtain ⟨g, compiled⟩ := compiled
  exact ⟨⟨g, compiled, same.trans compiled⟩,
    (compile_of_missed stamping keeps _).2 (List.not_mem_nil)⟩

end Compiler

end Specimen
