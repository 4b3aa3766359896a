import Specimen.Proofs.Compiler.Step
import Specimen.Proofs.Descriptor.Reached
import Specimen.Proofs.Generator.Draws
import Specimen.Proofs.Related

/-!
# Drawn values have the declared shape

A guard forgives much: an object may have members that no field declares, and a field that is absent
counts as undefined. What is drawn needs no forgiveness. Where a record is declared there stands an
object of exactly the declared names, in their order; where a partial record is, an object of some of
them, none undefined; tuples are as long as they are declared to be, and no collection is larger than
the bound, at every depth (`drawn_values_have_shape`).

`HasShape` is that reading of a descriptor, one constructor for each shape. It is a judgement and not
a function of the value, because where alternatives are declared, a value has the shape of one of
them throughout.

Nothing is said here of descriptors that are not drawn as they are spelled out: what is drawn for an
extension or for a marked constraint is its strategy's, a correction may make anything of a value,
and intersections have their own modules.

The induction is on how deep compilations nest, as each of them compiles within the same bound on
sizes.
-/

namespace Specimen

/-! ## Shapes of values -/

/-- A value has exactly the shape that a descriptor declares, with no collection in it of more than
`most` entries. -/
inductive HasShape (most : Nat) : Descriptor → Value → Prop
  | always {id : Nat} (v : Value) : HasShape most (.node id .always) v
  | boolean {id : Nat} (b : Bool) : HasShape most (.node id .boolean) (.bool b)
  | number {id : Nat} (x : Number) : HasShape most (.node id .number) (.number x)
  | string {id : Nat} (s : String) : HasShape most (.node id .string) (.string s)
  | function {id : Nat} (f : Callable) : HasShape most (.node id .function) (.callable f)
  | undefined {id : Nat} : HasShape most (.node id .void) .undefined
  | null {id : Nat} : HasShape most (.node id .void) .null
  | literal {id : Nat} (v : Value) : HasShape most (.node id (.literal v)) v
  | array {id : Nat} {element : Descriptor} {items : List Value} (few : items.length ≤ most)
      (each : ∀ item ∈ items, HasShape most element item) :
      HasShape most (.node id (.array element)) (.array items)
  | dictionary {id : Nat} {value : Descriptor} {members : List (String × Value)}
      (few : members.length ≤ most) (unique : (Fields.keys members).Nodup)
      (each : ∀ member ∈ members, HasShape most value member.2) :
      HasShape most (.node id (.dictionary value)) (.object members)
  /-- An item for each component, position by position. -/
  | tuple {id : Nat} {components : List Descriptor} {items : List Value}
      (arity : items.length = components.length)
      (each : ∀ (i : Nat) (t : Descriptor) (item : Value), components[i]? = some t →
        items[i]? = some item → HasShape most t item) :
      HasShape most (.node id (.tuple components)) (.array items)
  /-- A member for each field, in the order of the fields. -/
  | record {id : Nat} {fields : List (String × Descriptor)} {members : List (String × Value)}
      (names : Fields.keys members = Fields.keys fields)
      (each : ∀ (name : String) (t : Descriptor) (v : Value), (name, t) ∈ fields →
        (name, v) ∈ members → HasShape most t v) :
      HasShape most (.node id (.record fields)) (.object members)
  /-- Members for some fields, in the order of the fields; what is undefined is left out. -/
  | partialRecord {id : Nat} {fields : List (String × Descriptor)}
      {members : List (String × Value)}
      (names : (Fields.keys members).Sublist (Fields.keys fields))
      (present : ∀ member ∈ members, member.2 ≠ .undefined)
      (each : ∀ (name : String) (t : Descriptor) (v : Value), (name, t) ∈ fields →
        (name, v) ∈ members → HasShape most t v) :
      HasShape most (.node id (.partialRecord fields)) (.object members)
  /-- The shape of one alternative throughout. -/
  | union {id : Nat} {alternatives : List Descriptor} {t : Descriptor} {v : Value}
      (listed : t ∈ alternatives) (inner : HasShape most t v) :
      HasShape most (.node id (.union alternatives)) v
  | constraint {id : Nat} {underlying : Descriptor} {predicate : Predicate}
      {correction : Option Correction} {args : Option (Args Descriptor)} {v : Value}
      (inner : HasShape most underlying v) (accepted : predicate.test v = true) :
      HasShape most (.node id (.constraint underlying predicate correction args)) v

/-- Whether a node of a shape is drawn as it is spelled out: not by a strategy that is registered for
it, not by a rule for intersections, and without a correction. -/
def Shape.isDirect : Shape → Bool
  | .constraint _ _ correction args => correction.isNone && (Descriptor.marking args).isNone
  | .intersect _ => false
  | .extension _ _ _ => false
  | _ => true

/-- Whether all nodes that compilation comes to are drawn as they are spelled out. -/
def Descriptor.isDirect (t : Descriptor) : Bool := t.reached.all fun s => s.shape.isDirect

/-- Of members that may all be left out, those stay that are not undefined. -/
theorem Generator.exists_withoutAbsent {names : List String} {members : List (String × Value)}
    (named : ∀ member ∈ members, member.1 ∈ names) :
    ∃ kept, withoutAbsent names (.object members) = .object kept ∧ kept.Sublist members ∧
      ∀ member ∈ kept, member.2 ≠ .undefined := by
  refine ⟨_, rfl, List.filter_sublist, fun member mem absent => ?_⟩
  obtain ⟨among, stays⟩ := List.mem_filter.mp mem
  simp [absent, Value.isUndefined, named member among] at stays

/-! ## One step -/

/-- What is drawn from what was compiled for a type has the shape of the type. -/
def Descriptor.DrawsShaped (most : Nat) (t : Descriptor) (compiled : Compiled) : Prop :=
  ∀ g v, compiled = .ok g → g.Draws v → HasShape most t v

namespace Compiler

section Step

variable {c : Compiler} {compile : Descriptor → Compiled} {id : Nat}

theorem shaped_array {element : Descriptor}
    (inner : element.DrawsShaped c.maxSize (compile element)) :
    (Descriptor.node id (.array element)).DrawsShaped c.maxSize
      ((c.step (.node id (.array element))).run compile) := by
  intro g v compiled drawn
  obtain ⟨source, hsource, rfl⟩ := run_step_array.mp compiled
  obtain ⟨items, rfl, few, each⟩ := Generator.Draws.of_array drawn
  apply HasShape.array few
  intro item mem
  exact inner source item hsource (each item mem)

/-- Names drawn twice are one member, so a dictionary may be smaller than what was drawn for it. -/
theorem shaped_dictionary {value : Descriptor}
    (inner : value.DrawsShaped c.maxSize (compile value)) :
    (Descriptor.node id (.dictionary value)).DrawsShaped c.maxSize
      ((c.step (.node id (.dictionary value))).run compile) := by
  intro g v compiled drawn
  obtain ⟨source, hsource, rfl⟩ := run_step_dictionary.mp compiled
  obtain ⟨pairs, rfl, few, each⟩ := Generator.Draws.of_dictionary drawn
  apply HasShape.dictionary
  · exact Nat.le_trans (Fields.length_ofPairs_le pairs) few
  · exact Fields.keys_ofPairs_nodup pairs
  · intro member mem
    exact inner source member.2 hsource (each member (Fields.mem_ofPairs mem))

theorem shaped_tuple {components : List Descriptor}
    (inner : ∀ t ∈ components, t.DrawsShaped c.maxSize (compile t)) :
    (Descriptor.node id (.tuple components)).DrawsShaped c.maxSize
      ((c.step (.node id (.tuple components))).run compile) := by
  intro g v compiled drawn
  obtain ⟨sources, hsources, rfl⟩ := run_step_tuple.mp compiled
  obtain ⟨items, rfl, hitems⟩ := Generator.Draws.of_tupleOf drawn
  have related := hsources.comp hitems
  apply HasShape.tuple related.length_eq.symm
  intro i t item declared there
  obtain ⟨other, also, source, hsource, hitem⟩ := related.exists_getElem? declared
  have same : other = item := Option.some.inj (also.symm.trans there)
  rw [same] at hitem
  exact inner t (List.mem_of_getElem? declared) source item hsource hitem

theorem shaped_union {alternatives : List Descriptor}
    (inner : ∀ t ∈ alternatives, t.DrawsShaped c.maxSize (compile t)) :
    (Descriptor.node id (.union alternatives)).DrawsShaped c.maxSize
      ((c.step (.node id (.union alternatives))).run compile) := by
  intro g v compiled drawn
  obtain ⟨first, others, hsources, rfl⟩ := run_step_union.mp compiled
  obtain ⟨source, mem, hv⟩ := Generator.Draws.of_oneOf drawn
  obtain ⟨t, listed, hsource⟩ := hsources.exists_of_mem_right mem
  exact .union listed (inner t listed source v hsource hv)

/-- What a filter keeps is a draw of its source as it was, however often it was drawn anew. -/
theorem shaped_filtered {underlying : Descriptor} {predicate : Predicate}
    {arguments : Option (Args Descriptor)} (unmarked : Descriptor.marking arguments = none)
    (inner : underlying.DrawsShaped c.maxSize (compile underlying)) :
    (Descriptor.node id (.constraint underlying predicate none arguments)).DrawsShaped c.maxSize
      ((c.step (.node id (.constraint underlying predicate none arguments))).run compile) := by
  intro g v compiled drawn
  obtain ⟨source, hsource, rfl⟩ := (run_step_unmarked unmarked).mp compiled
  obtain ⟨hv, kept⟩ := Generator.Draws.of_filtered drawn
  exact .constraint (inner source v hsource hv) kept

/-- Each member of a drawn record was drawn for the field in its place. -/
theorem shaped_record {fields : List (String × Descriptor)} (unique : (Fields.keys fields).Nodup)
    (inner : ∀ field ∈ fields, field.2.DrawsShaped c.maxSize (compile field.2)) :
    (Descriptor.node id (.record fields)).DrawsShaped c.maxSize
      ((c.step (.node id (.record fields))).run compile) := by
  intro g v compiled drawn
  obtain ⟨entries, hentries, rfl⟩ := run_step_record.mp compiled
  obtain ⟨members, rfl, hmembers⟩ := Generator.Draws.of_recordOf drawn
  have alike : Fields.Alike (HasShape c.maxSize) fields members := by
    apply (hentries.comp hmembers).imp_of_mem_left
    intro field member mem related
    obtain ⟨entry, ⟨same, hsource⟩, also, hv⟩ := related
    exact ⟨same.symm.trans also.symm, inner field mem entry.2 member.2 hsource hv⟩
  have names : Fields.keys members = Fields.keys fields := alike.keys_eq.symm
  rw [Fields.ofPairs_of_nodup (names ▸ unique)]
  exact .record names fun name t v left right => alike.of_mem unique left right

/-- Of what was drawn for the fields of a partial record, all that is undefined is left out. -/
theorem shaped_partialRecord {fields : List (String × Descriptor)}
    (unique : (Fields.keys fields).Nodup)
    (inner : ∀ field ∈ fields, field.2.DrawsShaped c.maxSize (compile field.2)) :
    (Descriptor.node id (.partialRecord fields)).DrawsShaped c.maxSize
      ((c.step (.node id (.partialRecord fields))).run compile) := by
  intro g v compiled drawn
  obtain ⟨entries, hentries, rfl⟩ := run_step_partialRecord.mp compiled
  obtain ⟨_, full, rfl⟩ := Generator.Draws.of_mapped drawn
  obtain ⟨members, rfl, hmembers⟩ := Generator.Draws.of_recordOf full
  have alike : Fields.Alike (fun t v => HasShape c.maxSize t v ∨ v = .undefined) fields members := by
    apply (hentries.comp (List.forall₂_map_left_iff.mp hmembers)).imp_of_mem_left
    intro field member mem related
    obtain ⟨entry, ⟨same, hsource⟩, also, hv⟩ := related
    refine ⟨same.symm.trans also.symm, (Generator.Draws.of_optional hv).imp_left fun drew => ?_⟩
    exact inner field mem entry.2 member.2 hsource drew
  have names : Fields.keys members = Fields.keys fields := alike.keys_eq.symm
  have listed : entries.map Prod.fst = Fields.keys fields := by
    apply Eq.symm
    apply hentries.map_eq
    intro field entry same
    exact same.1.symm
  obtain ⟨kept, left, sublist, defined⟩ : ∃ kept, Generator.withoutAbsent (Fields.keys fields)
      (.object members) = .object kept ∧ kept.Sublist members ∧
        ∀ member ∈ kept, member.2 ≠ .undefined := by
    apply Generator.exists_withoutAbsent
    intro member mem
    exact names ▸ List.mem_map_of_mem mem
  rw [Fields.ofPairs_of_nodup (names ▸ unique), listed, left]
  apply HasShape.partialRecord (names ▸ sublist.map Prod.fst) defined
  intro name t v declared there
  exact (alike.of_mem unique declared (sublist.subset there)).resolve_right (defined _ there)

end Step

/-! ## Whole compilations -/

/-- By induction on the bound on nesting: what is compiled at a node is put together from generators
of the types below it, which draw what has their shapes. -/
theorem drawsShaped_of_compileWithin {c : Compiler} : ∀ (depth : Nat) (t : Descriptor),
    (∀ s ∈ t.reached, s.shape.isTidy = true ∧ s.shape.isDirect = true) →
      t.DrawsShaped c.maxSize (c.compileWithin depth t)
  | 0, _, _ => fun _ _ compiled _ => by cases compiled
  | depth + 1, .node id shape, nodes => by
    have below : ∀ part ∈ shape.parts, part.DrawsShaped c.maxSize (c.compileWithin depth part) := by
      intro part mem
      apply drawsShaped_of_compileWithin depth part
      intro s reached
      exact nodes s (.tail _ (Shape.reached_subset_of_mem_parts mem reached))
    obtain ⟨tidy, direct⟩ := nodes (.node id shape) (Descriptor.self_mem_reached _)
    cases shape with
    | always => exact fun _ v _ _ => .always v
    | array element => exact shaped_array (below element List.mem_cons_self)
    | boolean =>
      intro g v compiled drawn
      cases compiled
      obtain ⟨b, rfl⟩ := Generator.Draws.of_boolean drawn
      exact .boolean b
    | constraint underlying predicate correction arguments =>
      -- drawn directly means that no correction and no strategy comes between a draw and its type
      obtain ⟨uncorrected, unmarked⟩ := (Bool.and_eq_true _ _).mp direct
      rw [Option.isNone_iff_eq_none] at uncorrected unmarked
      subst uncorrected
      apply shaped_filtered unmarked
      apply below underlying
      rw [Shape.parts_of_unmarked unmarked]
      exact List.mem_cons_self
    | dictionary value => exact shaped_dictionary (below value List.mem_cons_self)
    | function =>
      intro g v compiled drawn
      cases compiled
      obtain ⟨f, rfl⟩ := Generator.Draws.of_callable drawn
      exact .function f
    | intersect intersectees => cases direct
    | literal value =>
      intro g v compiled drawn
      cases compiled
      rw [Generator.Draws.of_constant drawn]
      exact .literal value
    | number =>
      intro g v compiled drawn
      cases compiled
      obtain ⟨x, rfl⟩ := Generator.Draws.of_number drawn
      exact .number x
    | partialRecord fields =>
      apply shaped_partialRecord (of_decide_eq_true tidy)
      intro field mem
      exact below field.2 (List.mem_map_of_mem mem)
    | record fields =>
      apply shaped_record (of_decide_eq_true tidy)
      intro field mem
      exact below field.2 (List.mem_map_of_mem mem)
    | string =>
      intro g v compiled drawn
      cases compiled
      obtain ⟨s, rfl⟩ := Generator.Draws.of_text drawn
      exact .string s
    | tuple components => exact shaped_tuple below
    | union alternatives => exact shaped_union below
    | void =>
      intro g v compiled drawn
      cases compiled
      rcases Generator.Draws.of_void drawn with rfl | rfl
      · exact .undefined
      · exact .null
    | extension name payload guard => cases direct

/-- Whatever is drawn for a descriptor that is drawn as it is spelled out has exactly the shape that
it declares, at every depth, and no collection in it is larger than the bound of the compiler. Fields
are to be named once each, as fields are. -/
theorem drawn_values_have_shape (c : Compiler) (t : Descriptor) (tidy : t.isTidy = true)
    (direct : t.isDirect = true) :
    ∀ depth g v, c.compileWithin depth t = .ok g → g.Draws v → HasShape c.maxSize t v := by
  intro depth
  apply drawsShaped_of_compileWithin depth t
  intro s reached
  exact ⟨List.all_eq_true.mp tidy s reached, List.all_eq_true.mp direct s reached⟩

/-- A record of a field that may be undefined, a list, a partial record, and a union of a pair and
nothing of which a predicate leaves the pair. -/
def errand : Descriptor := .node 0 <| .record
  [("note", .node 1 .void), ("stops", .node 2 (.array (.node 3 .boolean))),
    ("detour", .node 4 (.partialRecord [("far", .node 5 .boolean), ("near", .node 6 .boolean)])),
    ("load", .node 7 (.constraint
      (.node 8 (.union [.node 9 .void, .node 10 (.tuple [.node 11 .boolean, .node 12 .void])]))
      ⟨"a pair", fun v => v.asArray?.isSome⟩ none none))]

/-- An errand with an undefined note, which is kept, one stop, and of two possible detours one. -/
def errandRun : Value := .object
  [("note", .undefined), ("stops", .array [.bool false]), ("detour", .object [("near", .bool true)]),
    ("load", .array [.bool true, .undefined])]

/-- An errand is drawn, and has its shape; the first load drawn is nothing, and rejected. -/
theorem errand_drawn_in_shape :
    errand.isTidy = true ∧ errand.isDirect = true ∧ ∃ g,
      (new.withMaxSize 2).compile errand = .ok g ∧ g.Draws errandRun ∧
        HasShape 2 errand errandRun := by
  have tidy : errand.isTidy = true := by decide
  have direct : errand.isDirect = true := by decide
  let choices : Choices := fun position => [0, 1, 0, 1, 0, 1, 0, 0, 1, 1, 0].getD position 0
  obtain ⟨g, compiled, drawn⟩ : ∃ g, (new.withMaxSize 2).compile errand = .ok g ∧
      g.Draws errandRun := by
    exact ⟨.recordOf
      [("note", .void), ("stops", .array .boolean 2),
        ("detour", Generator.dropAbsent
          (.recordOf [("far", .optional .boolean), ("near", .optional .boolean)]) ["far", "near"]),
        ("load", .filtered (.oneOf .void [.tupleOf [.boolean, .void]])
          (some (constraintLabel ⟨"a pair", fun v => v.asArray?.isSome⟩))
          fun v => v.asArray?.isSome)], rfl, ⟨choices, 1⟩, .start, _, by cbv⟩
  exact ⟨tidy, direct, g, compiled, drawn,
    drawn_values_have_shape (new.withMaxSize 2) errand tidy direct _ g errandRun compiled drawn⟩

end Compiler

end Specimen
