import Specimen.Proofs.Descriptor.Said
import Specimen.Proofs.Value.Equivalence

/-!
# Guards and equality

Guards cannot tell equal values apart (`guard_of_equal`), if the predicates and the guards of
extensions a type consults cannot. Types read values in several ways: a literal compares, a
dictionary looks at all members, a record looks some of them up, and a partial record looks at some
and passes over the undefined ones. What makes all of them agree is that equal objects read equal
values under each name.

It is enough that what is accepted stays accepted, since equality is symmetric. Literals need not be
tidy: a literal only ever stands on the right of a comparison.
-/

namespace Specimen

/-- A predicate that tells no equal values apart. -/
def Predicate.Respects (predicate : Predicate) : Prop :=
  ∀ v w : Value, v.isTidy = true → w.isTidy = true → v.equal w = true →
    predicate.test v = predicate.test w

/-- A shape whose own part in the guard tells no equal values apart. The other shapes hold no
functions and need no such trust. -/
def Shape.RespectsEquality : Shape → Prop
  | .constraint _ predicate _ _ => predicate.Respects
  | .extension _ _ guard => guard.Respects
  | _ => True

namespace Descriptor

variable {v w : Value}

/-- A type whose predicates and extensions, at any depth, tell no equal values apart. -/
def RespectsEquality (t : Descriptor) : Prop := t.Throughout fun s => s.shape.RespectsEquality

/-- A type that accepts what equals something it accepts. -/
def AcceptsEqual (t : Descriptor) : Prop :=
  ∀ v w : Value, v.isTidy = true → w.isTidy = true → v.equal w = true →
    t.guard v = true → t.guard w = true

/-! ## Containers -/

section Items

variable {items others : List Value} (tidy : (Value.array items).isTidy = true)
  (tidy' : (Value.array others).isTidy = true)
  (same : List.Forall₂ (fun v w => v.equal w = true) items others)

include tidy tidy' same

theorem all_guard_of_equal {element : Descriptor} (each : element.AcceptsEqual)
    (accepted : items.all (fun item => element.guard item) = true) :
    others.all (fun item => element.guard item) = true := by
  rw [Value.isTidy_array] at tidy tidy'
  rw [List.all_eq_true] at accepted ⊢
  intro other mem
  obtain ⟨item, among, equal⟩ := same.exists_of_mem_right mem
  exact each item other (tidy item among) (tidy' other mem) equal (accepted item among)

theorem guardEach_of_equal {components : List Descriptor}
    (each : ∀ t ∈ components, t.AcceptsEqual) (accepted : guardEach components items = true) :
    guardEach components others = true := by
  rw [Value.isTidy_array] at tidy tidy'
  have carried : List.Forall₂ (fun v w => ∀ t ∈ components, t.guard v = true → t.guard w = true)
      items others :=
    same.imp_of_mem fun v w mem mem' equal t among =>
      each t among v w (tidy v mem) (tidy' w mem') equal
  refine guardEach_eq_true.mpr (((guardEach_eq_true.mp accepted).comp carried).imp_of_mem_left ?_)
  rintro t w mem ⟨v, accepted, kept⟩
  exact kept t mem accepted

end Items

section Members

variable {ms ns : List (String × Value)} {fields : List (String × Descriptor)}
  (tidy : (Value.object ms).isTidy = true) (tidy' : (Value.object ns).isTidy = true)
  (same : (Value.object ms).equal (Value.object ns) = true)

include tidy tidy' same

theorem all_guardMember_of_equal {value : Descriptor} (each : value.AcceptsEqual)
    (accepted : ms.all (fun member => value.guard member.2) = true) :
    ns.all (fun member => value.guard member.2) = true := by
  rw [List.all_eq_true] at accepted ⊢
  intro other mem
  have back := Value.equal_symm tidy tidy' same
  rw [Value.isTidy_object] at tidy tidy'
  obtain ⟨v, read, equal⟩ := (Value.equal_object_eq_true.mp back).2 other mem
  have among := Fields.mem_of_get? read
  refine each v other.2 (tidy.2 _ among) (tidy'.2 _ mem) ?_ (accepted _ among)
  exact Value.equal_symm (tidy'.2 _ mem) (tidy.2 _ among) equal

/-- A name that reads nothing in one object reads nothing in the other, and counts as undefined in
both. -/
theorem guardRequired_of_equal (each : ∀ field ∈ fields, field.2.AcceptsEqual)
    (accepted : guardRequired fields ms = true) : guardRequired fields ns = true := by
  rw [Value.isTidy_object] at tidy tidy'
  refine guardRequired_eq_true.mpr fun field mem => ?_
  have accepted := guardRequired_eq_true.mp accepted field mem
  cases read : Fields.get? ms field.1 with
  | none =>
    rw [Value.get?_eq_none_of_equal tidy.1 same read]
    rwa [read] at accepted
  | some v =>
    have among := Fields.mem_of_get? read
    obtain ⟨w, read', equal⟩ := (Value.equal_object_eq_true.mp same).2 _ among
    rw [read] at accepted
    rw [read']
    exact each field mem v w (tidy.2 _ among) (tidy'.2 _ (Fields.mem_of_get? read')) equal accepted

theorem guardOptional_of_equal (each : ∀ field ∈ fields, field.2.AcceptsEqual)
    (accepted : guardOptional fields ms = true) : guardOptional fields ns = true := by
  rw [Value.isTidy_object] at tidy tidy'
  refine guardOptional_eq_true.mpr fun field mem w read' => ?_
  cases read : Fields.get? ms field.1 with
  | none => cases (Value.get?_eq_none_of_equal tidy.1 same read).symm.trans read'
  | some v =>
    have among := Fields.mem_of_get? read
    obtain ⟨other, there, equal⟩ := (Value.equal_object_eq_true.mp same).2 _ among
    obtain rfl := Option.some.inj (there.symm.trans read')
    rcases guardOptional_eq_true.mp accepted field mem v read with rfl | accepted
    · cases Value.match_of_equal equal
      exact .inl rfl
    · exact .inr (each field mem v other (tidy.2 _ among) (tidy'.2 _ (Fields.mem_of_get? read'))
        equal accepted)

end Members

/-! ## All types -/

/-- What a type accepts, it accepts of what equals it. The induction is on the type, through the
parts its guard consults; the values are any. -/
theorem acceptsEqual : ∀ {t : Descriptor}, t.RespectsEquality → t.AcceptsEqual
  | .node id shape, respects => by
    obtain ⟨here, parts⟩ := throughout_node.mp respects
    have each : ∀ part ∈ shape.consulted, part.AcceptsEqual :=
      fun part mem => acceptsEqual (parts part mem)
    intro v w tidy tidy' same accepted
    cases shape with
    | always => rfl
    | boolean | function | number | string | void =>
      -- a kind of value is all these ask for, and equal values are of one kind
      cases Value.match_of_equal same <;> exact accepted
    | literal value => exact Value.equal_trans (Value.equal_symm tidy tidy' same) accepted
    | constraint underlying predicate correction args =>
      simp only [guard, shapeGuard, Bool.and_eq_true] at accepted ⊢
      refine ⟨each underlying List.mem_cons_self v w tidy tidy' same accepted.1, ?_⟩
      exact (here v w tidy tidy' same).symm.trans accepted.2
    | extension name payload guard => exact (here v w tidy tidy' same).symm.trans accepted
    | intersect intersectees =>
      refine guardAll_eq_true.mpr fun t mem => each t mem v w tidy tidy' same ?_
      exact guardAll_eq_true.mp accepted t mem
    | union alternatives =>
      obtain ⟨t, mem, accepted⟩ := guardAny_eq_true.mp accepted
      exact guardAny_eq_true.mpr ⟨t, mem, each t mem v w tidy tidy' same accepted⟩
    | array element =>
      cases Value.match_of_equal same with
      | arrays items =>
        exact all_guard_of_equal tidy tidy' items (each element List.mem_cons_self) accepted
      | same => exact accepted
      | numbers | objects => cases accepted
    | tuple components =>
      cases Value.match_of_equal same with
      | arrays items => exact guardEach_of_equal tidy tidy' items each accepted
      | same => exact accepted
      | numbers | objects => cases accepted
    | dictionary value =>
      cases Value.match_of_equal same with
      | objects =>
        exact all_guardMember_of_equal tidy tidy' same (each value List.mem_cons_self) accepted
      | same => exact accepted
      | numbers | arrays => cases accepted
    | record fields =>
      cases Value.match_of_equal same with
      | objects =>
        exact guardRequired_of_equal tidy tidy' same (fun _ mem => each _ (List.mem_map_of_mem mem))
          accepted
      | same => exact accepted
      | numbers | arrays => cases accepted
    | partialRecord fields =>
      cases Value.match_of_equal same with
      | objects =>
        exact guardOptional_of_equal tidy tidy' same (fun _ mem => each _ (List.mem_map_of_mem mem))
          accepted
      | same => exact accepted
      | numbers | arrays => cases accepted
termination_by t => t.weight
decreasing_by exact weight_lt_of_consulted mem

theorem guard_of_equal {t : Descriptor} (respects : t.RespectsEquality) (tidy : v.isTidy = true)
    (tidy' : w.isTidy = true) (same : v.equal w = true) : t.guard v = t.guard w :=
  Bool.eq_iff_iff.mpr ⟨acceptsEqual respects v w tidy tidy' same,
    acceptsEqual respects w v tidy' tidy (Value.equal_symm tidy tidy' same)⟩

end Descriptor

/-- Guards respect the equality of values. Equality is symmetric, transitive, and reflexive on just
those values in which no not-a-number stands. It overlooks the order of members, at any depth, and
goes by what each name reads; so a name that reads undefined in one object and is missing in another
tells them apart. Equal values belong to the same types, whatever a type consults beyond its
predicates and extensions, which are trusted to tell no equal values apart. -/
theorem guards_respect_equality :
    (∀ v w : Value, v.isTidy = true → w.isTidy = true → v.equal w = w.equal v) ∧
    (∀ u v w : Value, u.equal v = true → v.equal w = true → u.equal w = true) ∧
    (∀ v : Value, v.isTidy = true → (v.equal v = true ↔ v.isFreeOfNaN = true)) ∧
    (∀ v w : Value, v.Reordered w → ∀ u, v.equal u = w.equal u) ∧
    (∀ ms ns : List (String × Value), (Fields.keys ms).Nodup → (Fields.keys ns).Nodup →
      ((Value.object ms).equal (.object ns) = true ↔ ∀ name,
        Option.Rel (fun v w => v.equal w = true) (Fields.get? ms name) (Fields.get? ns name)) ∧
      (∀ name, Fields.get? ms name = some .undefined → Fields.get? ns name = none →
        (Value.object ms).equal (.object ns) = false)) ∧
    (∀ (t : Descriptor) (v w : Value), t.RespectsEquality → v.isTidy = true → w.isTidy = true →
      v.equal w = true → t.guard v = t.guard w) := by
  refine ⟨fun _ _ => Value.equal_comm, fun _ _ _ => Value.equal_trans,
    fun _ => Value.equal_self_iff, fun _ _ => Value.equal_of_reordered, ?_,
    fun _ _ _ => Descriptor.guard_of_equal⟩
  intro ms ns nodup nodup'
  have fieldwise := Value.equal_object_iff nodup nodup'
  refine ⟨fieldwise, fun name undefined missing => Bool.eq_false_iff.mpr fun same => ?_⟩
  have related := fieldwise.mp same name
  rw [undefined, missing] at related
  cases related

/-- Whether a value is a list of two items at most. -/
def isBrief : Predicate where
  name := "brief"
  test v := v.asArray?.any fun items => decide (items.length ≤ 2)

theorem isBrief_respects : isBrief.Respects := by
  intro v w _ _ same
  cases Value.match_of_equal same with
  | arrays each => simp [isBrief, Value.asArray?, each.length_eq]
  | same | numbers | objects => rfl

/-- Records of a brief list of numbers, a nought, and perhaps a note. -/
def briefing : Descriptor :=
  .node 0 (.intersect
    [.node 1 (.record
      [("counts", .node 2 (.constraint (.node 3 (.array (.node 4 .number))) isBrief none none)),
        ("base", .node 5 (.literal (.number Number.zero)))]),
      .node 6 (.partialRecord [("note", .node 7 .string)])])

theorem briefing_respectsEquality : briefing.RespectsEquality := by
  simp [Descriptor.RespectsEquality, briefing, Descriptor.throughout_node, Descriptor.shape,
    Shape.RespectsEquality, Shape.consulted, Shape.parts, isBrief_respects]

/-- Two accounts of one briefing, with the members in another order and the noughts of another sign,
belong to it alike; to leave the note undefined is another thing than to leave it out; and a value
with a not-a-number in it does not equal itself. -/
theorem briefings_guarded_alike :
    let counts : List Value := [.number Number.zero, .number ⟨0x3ff0000000000000⟩]
    let counts' : List Value := [.number Number.zero.negate, .number ⟨0x3ff0000000000000⟩]
    let v : Value := .object [("counts", .array counts), ("base", .number Number.zero.negate)]
    let w : Value := .object [("base", .number Number.zero), ("counts", .array counts')]
    let noted : List (String × Value) := [("note", .undefined)]
    v.equal w = true ∧ briefing.guard v = briefing.guard w ∧ briefing.guard v = true ∧
      (Value.object noted).equal (.object []) = false ∧
      (Value.array [.number .nan]).equal (.array [.number .nan]) = false := by
  intro counts counts' v w noted
  obtain ⟨_, _, reflexive, _, objects, alike⟩ := guards_respect_equality
  have same : v.equal w = true := by decide
  refine ⟨same, alike briefing v w briefing_respectsEquality (by decide) (by decide) same,
    by decide, ?_, ?_⟩
  · exact (objects noted [] (by decide) (by decide)).2 "note" rfl rfl
  · refine Bool.eq_false_iff.mpr fun equal => ?_
    exact absurd ((reflexive _ (by decide)).mp equal) (by decide)

end Specimen
