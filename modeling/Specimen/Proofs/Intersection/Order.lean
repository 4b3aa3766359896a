import Specimen.Proofs.Intersection.Fallback
import Specimen.Proofs.Intersection.Merged
import Specimen.Proofs.Value.Reordered

/-!
# The order of intersectees

An intersection may list its intersectees in any order. Without registered rules and strategies for
intersections, whether it compiles does not depend on the order, whatever strategies there are for
extensions and marked constraints; and as long as these make draws from the random choices alone, it
can draw the same values, but for the order in which objects list their members
(`intersection_commutes`). Members come in the order in which their fields are first declared, and
that is all that the order of records decides.

The induction is on the bound on nesting: merged fields that are declared several times are
intersections again, of the declared types in either order. One of two intersections follows the
other (`Follows`) when it compiles if that does and can draw what that can.

With a tape that two fields share the order decides more, as it is the order in which the fields are
drawn (`order_decides_shared_tapes`).
-/

namespace Specimen

open Value (Reordered)

namespace Descriptor

variable {types types' : List Descriptor}

theorem guardAll_perm (perm : types.Perm types') : guardAll types = guardAll types' := by
  funext v
  rw [Bool.eq_iff_iff, guardAll_eq_true, guardAll_eq_true]
  exact forall_congr' fun t => imp_congr_left perm.mem_iff

theorem weightAll_perm (perm : types.Perm types') : weightAll types = weightAll types' := by
  induction perm with
  | nil => rfl
  | cons t _ ih => rw [weightAll, weightAll, ih]
  | swap t s rest => simp only [weightAll]; omega
  | trans _ _ ih ih' => exact ih.trans ih'

theorem reachedAll_subset_of_perm (perm : types.Perm types') :
    reachedAll types' ⊆ reachedAll types := by
  intro s reached
  obtain ⟨t, mem, reached⟩ := mem_reachedAll.mp reached
  exact mem_reachedAll.mpr ⟨t, perm.mem_iff.mpr mem, reached⟩

end Descriptor

namespace Intersection

variable {c : Compiler} {types types' : List Descriptor}

/-! ## What is permuted with the intersectees -/

theorem flatten_perm (perm : types.Perm types') : (flatten types).Perm (flatten types') := by
  have each : ∀ types : List Descriptor, flatten types = types.flatMap flattenOne := by
    intro types
    induction types with
    | nil => rfl
    | cons t rest ih => rw [flatten, ih, List.flatMap_cons]
  rw [each, each]
  exact perm.flatMap_right _

/-- The merged fields are the same, with the same types declared in another order. -/
theorem exists_fieldDecls_of_perm (perm : types.Perm types') {entry : String × FieldDecls}
    (mem : entry ∈ fieldDecls types) :
    ∃ decls, (entry.1, decls) ∈ fieldDecls types' ∧ entry.2.types.Perm decls.types ∧
      entry.2.required = decls.required := by
  obtain ⟨name, decls⟩ := entry
  obtain ⟨rfl, declared⟩ := mem_fieldDecls.mp mem
  have here := (perm.flatMap_right declarations).filter fun made => made.name == name
  have same := here.map Declaration.type
  refine ⟨_, mem_fieldDecls.mpr ⟨rfl, fun none => declared ?_⟩, same, here.any_eq⟩
  exact (same.trans (.of_eq none)).eq_nil

theorem mem_keys_fieldDecls_of_perm (perm : types.Perm types') {name : String}
    (mem : name ∈ Fields.keys (fieldDecls types)) : name ∈ Fields.keys (fieldDecls types') := by
  obtain ⟨entry, among, rfl⟩ := List.mem_map.mp mem
  obtain ⟨decls, among', _⟩ := exists_fieldDecls_of_perm perm among
  exact List.mem_map.mpr ⟨_, among', rfl⟩

theorem mem_optionalNames_of_perm (perm : types.Perm types') {name : String}
    (mem : name ∈ optionalNames types) : name ∈ optionalNames types' := by
  obtain ⟨entry, kept, rfl⟩ := List.mem_map.mp mem
  obtain ⟨among, optional⟩ := List.mem_filter.mp kept
  obtain ⟨decls, among', _, required⟩ := exists_fieldDecls_of_perm perm among
  exact List.mem_map.mpr ⟨_, List.mem_filter.mpr ⟨among', required ▸ optional⟩, rfl⟩

/-- Members that are compared name by name stay so when the same names are left out. -/
theorem reordered_withoutAbsent {names names' : List String} {ms ns : List (String × Value)}
    (same : ∀ name, name ∈ names ↔ name ∈ names') (nodup : (Fields.keys ms).Nodup)
    (nodup' : (Fields.keys ns).Nodup) (known : ∀ name ∈ Fields.keys ms, name ∈ Fields.keys ns)
    (each : ∀ n ∈ ns, ∃ m ∈ ms, m.1 = n.1 ∧ Reordered m.2 n.2) :
    Reordered (Generator.withoutAbsent names (.object ms))
      (Generator.withoutAbsent names' (.object ns)) := by
  obtain ⟨found, perm, alike⟩ := Value.exists_perm_of_names nodup nodup' known each
  refine .trans (.members (perm.filter _)) (Value.reordered_of_alike ?_)
  have listed : ∀ name, names.contains name = names'.contains name := fun name => by
    rw [Bool.eq_iff_iff, List.contains_iff_mem, List.contains_iff_mem]
    exact same name
  refine List.rel_filter ?_ alike
  rintro ⟨name, v⟩ ⟨_, w⟩ ⟨rfl, reordered⟩
  dsimp only
  rw [reordered.isUndefined_eq, listed]

/-! ## Following -/

/-- The right comes to a generator if the left does, and can draw all that the left can and its types
accept, but for the order of members. -/
def Follows (c : Compiler) (types types' : List Descriptor) (left right : Compiled) : Prop :=
  ∀ g, left = .ok g → ∃ h, right = .ok h ∧ (c.Memoryless → ∀ v, g.Draws v →
    Descriptor.guardAll types v = true →
      ∃ w, h.Draws w ∧ Descriptor.guardAll types' w = true ∧ Reordered v w)

theorem Follows.of_eq (perm : types.Perm types') {left right : Compiled} (same : left = right) :
    Follows c types types' left right := by
  intro g made
  refine ⟨g, same ▸ made, fun _ v drawn accepted => ⟨v, drawn, ?_, .refl v⟩⟩
  rwa [← Descriptor.guardAll_perm perm]

/-- Within a bound on nesting, an intersection is followed by that of the same types in any order. -/
def CommutesWithin (c : Compiler) (depth : Nat) : Prop :=
  ∀ (id id' : Nat) (types types' : List Descriptor), types.Perm types' →
    HaveOwnIds (Descriptor.reachedAll types) →
      Follows c types types' (c.compileWithin depth (.node id (.intersect types)))
        (c.compileWithin depth (.node id' (.intersect types')))

/-! ## The ways to draw an intersection -/

section Rules

variable {depth : Nat}

/-- What is compiled from some types is compiled from more. -/
theorem subset_of_compiled {compile : Descriptor → Compiled} {gs gs' : List Generator}
    (each : List.Forall₂ (fun t g => compile t = .ok g) types gs)
    (each' : List.Forall₂ (fun t g => compile t = .ok g) types' gs') (sub : types ⊆ types') :
    gs ⊆ gs' := by
  intro g listed
  obtain ⟨t, mem, made⟩ := each.exists_of_mem_right listed
  obtain ⟨g', listed', made'⟩ := each'.exists_of_mem_left (sub mem)
  cases made.symm.trans made'
  exact listed'

theorem apart_of_compiled (memoryless : c.Memoryless) {gs : List Generator}
    (each : List.Forall₂ (fun t g => c.compileWithin depth t = .ok g) types gs) :
    Generator.Apart gs :=
  Generator.apart_of_areTapeless <| Compiler.areTapeless_of_forall₂
    (fun _ _ compiled => Compiler.isTapeless_of_compiles memoryless ⟨depth, compiled⟩) each

theorem generic_follows (perm : types.Perm types') (nonempty : types ≠ []) :
    Follows c types types' ((generic types).run (c.compileWithin depth))
      ((generic types').run (c.compileWithin depth)) := by
  intro g made
  have nonempty' : types' ≠ [] := fun none => nonempty (none ▸ perm).eq_nil
  have each := (exists_run_generic nonempty).mp ⟨g, made⟩
  have compiles : ∃ h, (generic types').run (c.compileWithin depth) = .ok h :=
    (exists_run_generic nonempty').mpr fun t mem => each t (perm.mem_iff.mpr mem)
  obtain ⟨h, made'⟩ := compiles
  refine ⟨h, made', fun memoryless v drawn accepted => ?_⟩
  obtain ⟨first, others, compiled, rfl⟩ := (run_generic nonempty).mp made
  obtain ⟨first', others', compiled', rfl⟩ := (run_generic nonempty').mp made'
  obtain ⟨option, listed, drawn⟩ := Generator.Draws.of_oneOf (Generator.Draws.of_filtered drawn).1
  rw [Descriptor.guardAll_perm perm] at accepted
  refine ⟨v, Generator.draws_filtered.mpr ⟨?_, accepted⟩, accepted, .refl v⟩
  exact Generator.draws_oneOf.mpr
    ⟨option, subset_of_compiled compiled compiled' perm.subset listed, drawn⟩

/-- Alternatives are pooled in another order, which makes no difference to what one of them draws. -/
theorem flattenUnions_follows (perm : types.Perm types')
    (own : HaveOwnIds (types.flatMap alternativesOf)) :
    Follows c types types' ((flattenUnions types).run (c.compileWithin depth))
      ((flattenUnions types').run (c.compileWithin depth)) := by
  intro g made
  have listed := perm.flatMap_right alternativesOf
  have pooled : ∀ t, t ∈ pool types' ↔ t ∈ pool types := fun t => by
    rw [mem_pool own, mem_pool (own.of_subset listed.symm.subset), listed.mem_iff]
  obtain ⟨filled, candidates, compiled, rfl⟩ := run_flattenUnions.mp made
  have each : ∀ t ∈ pool types', ∃ g, c.compileWithin depth t = .ok g := fun t mem => by
    obtain ⟨g, _, made⟩ := compiled.exists_of_mem_left ((pooled t).mp mem)
    exact ⟨g, made⟩
  obtain ⟨candidates', compiled'⟩ := List.Forall₂.exists_iff.mpr each
  refine ⟨_, run_flattenUnions.mpr
    ⟨fun t mem => filled t (perm.mem_iff.mpr mem), candidates', compiled', rfl⟩, ?_⟩
  intro memoryless v drawn accepted
  obtain ⟨draw, ⟨chosen, among, drawn⟩, _⟩ :=
    (Generator.draws_rotated (apart_of_compiled memoryless compiled)).mp drawn
  have there := subset_of_compiled compiled compiled' fun t => (pooled t).mpr
  have back := subset_of_compiled compiled' compiled fun t => (pooled t).mp
  rw [Descriptor.guardAll_perm perm] at accepted
  refine ⟨v, ?_, accepted, .refl v⟩
  exact (Generator.draws_rotated (apart_of_compiled memoryless compiled')).mpr
    ⟨fun g mem => draw g (back mem), ⟨chosen, there among, drawn⟩, accepted⟩

/-- Merged fields are intersections again where they are declared several times. -/
theorem fieldType_follows (below : CommutesWithin c depth) (perm : types.Perm types')
    (own : HaveOwnIds (Descriptor.reachedAll types)) :
    Follows c types types' (c.compileWithin depth (fieldType types))
      (c.compileWithin depth (fieldType types')) := by
  have several : ∀ types : List Descriptor, (∀ only, types ≠ [only]) →
      fieldType types = .node 0 (.intersect types) := by
    intro types notOne
    unfold fieldType
    split
    · exact absurd rfl (notOne _)
    · rfl
  by_cases one : ∃ only, types = [only]
  · obtain ⟨only, rfl⟩ := one
    obtain rfl := List.singleton_perm.mp perm
    exact .of_eq perm rfl
  · have notOne : ∀ only, types ≠ [only] := fun only same => one ⟨only, same⟩
    have notOne' : ∀ only, types' ≠ [only] := by
      rintro only rfl
      exact notOne only (List.perm_singleton.mp perm)
    rw [several types notOne, several types' notOne']
    exact below 0 0 _ _ perm own

/-- A field that is merged from the same types in another order is drawn as it was, and left out where
it was. -/
theorem exists_memberMerged_of_perm {name : String} {decls decls' : FieldDecls}
    (follows : Follows c decls.types decls'.types (c.compileWithin depth (fieldType decls.types))
      (c.compileWithin depth (fieldType decls'.types)))
    (required : decls.required = decls'.required) (memoryless : c.Memoryless)
    {member : String × Value} (drawn : MemberMerged (c.compileWithin depth) (name, decls) member) :
    ∃ member', MemberMerged (c.compileWithin depth) (name, decls') member' ∧
      member.1 = member'.1 ∧ Reordered member.2 member'.2 := by
  obtain ⟨named, source, compiled, drawn⟩ := drawn
  obtain ⟨source', compiled', draws⟩ := follows source compiled
  rcases of_merged drawn with ⟨drawn, accepted⟩ | ⟨optional, absent⟩
  · obtain ⟨w, drawn', accepted', reordered⟩ := draws memoryless _ drawn accepted
    refine ⟨(name, w), ⟨rfl, source', compiled', ?_⟩, named, reordered⟩
    exact draws_merged.mpr (.inl ⟨drawn', accepted'⟩)
  · refine ⟨(name, .undefined), ⟨rfl, source', compiled', ?_⟩, named, absent ▸ .refl _⟩
    exact draws_merged.mpr (.inr ⟨required ▸ optional, rfl⟩)

/-- The fields of the merge are drawn in another order, each from its types in another order. -/
theorem mergeRecords_follows (below : CommutesWithin c depth) (perm : types.Perm types')
    (own : HaveOwnIds (Descriptor.reachedAll types)) :
    Follows c types types' ((mergeRecords types).run (c.compileWithin depth))
      ((mergeRecords types').run (c.compileWithin depth)) := by
  intro m made
  obtain ⟨records, _⟩ := run_mergeRecords.mp made
  have records' : ∀ t ∈ types', t.IsRecord := fun t mem => records t (perm.mem_iff.mpr mem)
  have field : ∀ entry ∈ fieldDecls types, ∀ others, entry.2.types.Perm others →
      Follows c entry.2.types others (c.compileWithin depth (fieldType entry.2.types))
        (c.compileWithin depth (fieldType others)) := by
    intro entry mem others same
    refine fieldType_follows below same (own.of_subset fun s reached => ?_)
    obtain ⟨t, declared, reached⟩ := Descriptor.mem_reachedAll.mp reached
    exact reached_subset_of_declared mem declared reached
  have compiles := (exists_run_mergeRecords records).mp ⟨m, made⟩
  have compiles' : ∃ m', (mergeRecords types').run (c.compileWithin depth) = .ok m' := by
    refine (exists_run_mergeRecords records').mpr fun entry' mem' => ?_
    obtain ⟨decls, mem, same, _⟩ := exists_fieldDecls_of_perm perm.symm mem'
    obtain ⟨source, compiled⟩ := compiles _ mem
    obtain ⟨source', compiled', _⟩ := field _ mem entry'.2.types same.symm source compiled
    exact ⟨source', compiled'⟩
  obtain ⟨m', made'⟩ := compiles'
  refine ⟨m', made', fun memoryless v drawn _ => ?_⟩
  obtain ⟨members, each, rfl⟩ := of_mergeRecords made drawn
  -- each field of the other merge is drawn anew, from what this merge drew for its name
  have again : ∀ entry' ∈ fieldDecls types', ∃ member',
      MemberMerged (c.compileWithin depth) entry' member' ∧
        ∃ member ∈ members, member.1 = member'.1 ∧ Reordered member.2 member'.2 := by
    intro entry' mem'
    obtain ⟨decls, mem, same, required⟩ := exists_fieldDecls_of_perm perm.symm mem'
    obtain ⟨member, among, drawn⟩ := each.exists_of_mem_left mem
    obtain ⟨member', drawn', alike⟩ :=
      exists_memberMerged_of_perm (field _ mem _ same.symm) required.symm memoryless drawn
    exact ⟨member', drawn', member, among, alike⟩
  obtain ⟨members', together⟩ := List.Forall₂.exists_iff.mpr again
  have each' := together.imp fun _ _ both => both.1
  -- memoryless strategies leave no tapes, so that these draws fit together in one run
  have tapeless : ∀ t g, c.compileWithin depth t = .ok g → g.isTapeless = true :=
    fun t g compiled => Compiler.isTapeless_of_compiles memoryless ⟨depth, compiled⟩
  have drawn' := (draws_mergeRecords (fieldsApart_of_tapeless tapeless) made').mpr ⟨members', each', rfl⟩
  refine ⟨_, drawn', guardAll_of_mergeRecords made' drawn', ?_⟩
  refine reordered_withoutAbsent (fun name => ?_) (nodup_of_memberMerged each)
    (nodup_of_memberMerged each') (fun name mem => ?_) (fun member' mem => ?_)
  · exact ⟨mem_optionalNames_of_perm perm, mem_optionalNames_of_perm perm.symm⟩
  · rw [keys_of_memberMerged each']
    exact mem_keys_fieldDecls_of_perm perm (keys_of_memberMerged each ▸ mem)
  · obtain ⟨_, _, _, found⟩ := together.exists_of_mem_right mem
    exact found

theorem alternatives_subset_reachedAll (types : List Descriptor) :
    types.flatMap alternativesOf ⊆ Descriptor.reachedAll types := by
  intro a listed
  obtain ⟨t, mem, among⟩ := List.mem_flatMap.mp listed
  have below := Shape.reached_subset_of_mem_parts (alternativesOf_subset_parts t among)
  exact Descriptor.mem_reachedAll.mpr ⟨t, mem, t.reachedFrom_subset (below a.self_mem_reached)⟩

theorem candidate_follows (noRules : c.customRules = []) (noTagged : c.customIntersections = [])
    (below : CommutesWithin c depth) (perm : types.Perm types') (nonempty : types ≠ [])
    (own : HaveOwnIds (Descriptor.reachedAll types)) :
    Follows c types types' ((candidate c types).run (c.compileWithin depth))
      ((candidate c types').run (c.compileWithin depth)) := by
  by_cases records : ∀ t ∈ types, t.IsRecord
  · rw [candidate_of_records records,
      candidate_of_records fun t mem => records t (perm.mem_iff.mpr mem)]
    exact mergeRecords_follows below perm own
  by_cases unions : ∀ t ∈ types, t.tag = .union
  · rw [candidate_of_unions nonempty unions,
      candidate_of_unions (fun none => nonempty (none ▸ perm).eq_nil)
        fun t mem => unions t (perm.mem_iff.mpr mem)]
    exact flattenUnions_follows perm (own.of_subset (alternatives_subset_reachedAll types))
  · push Not at records unions
    obtain ⟨r, amongRecords, notRecord⟩ := records
    obtain ⟨u, amongUnions, notUnion⟩ := unions
    rw [candidate_of_others noRules noTagged ⟨r, amongRecords, notRecord⟩
        ⟨u, amongUnions, notUnion⟩,
      candidate_of_others noRules noTagged ⟨r, perm.mem_iff.mp amongRecords, notRecord⟩
        ⟨u, perm.mem_iff.mp amongUnions, notUnion⟩]
    exact generic_follows perm nonempty

end Rules

/-! ## Intersections -/

section Resolving

variable {intersectees intersectees' : List Descriptor} {depth : Nat}

/-- Of one type or none there is no other order. -/
theorem resolve_of_few (perm : intersectees.Perm intersectees')
    (few : (flatten intersectees).length < 2) : resolve c intersectees = resolve c intersectees' := by
  have flat := flatten_perm perm
  have same : flatten intersectees = flatten intersectees' := by
    match left : flatten intersectees, few with
    | [], _ => rw [left] at flat; exact flat.nil_eq
    | [only], _ => rw [left] at flat; exact List.singleton_perm.mp flat
  unfold resolve
  rw [same]

theorem resolve_follows (noRules : c.customRules = []) (noTagged : c.customIntersections = [])
    (below : CommutesWithin c depth) (perm : intersectees.Perm intersectees')
    (own : HaveOwnIds (Descriptor.reachedAll intersectees)) :
    Follows c intersectees intersectees' ((resolve c intersectees).run (c.compileWithin depth))
      ((resolve c intersectees').run (c.compileWithin depth)) := by
  by_cases few : (flatten intersectees).length < 2
  · exact .of_eq perm (resolve_of_few perm few ▸ rfl)
  intro g made
  have two := Nat.not_lt.mp few
  have flat := flatten_perm perm
  have nonempty : flatten intersectees ≠ [] :=
    List.ne_nil_of_length_pos (Nat.lt_of_lt_of_le Nat.zero_lt_two two)
  rw [resolve_of_several two] at made
  obtain ⟨inner, chosen, made⟩ := Plan.run_bind_eq_ok.mp made
  cases made
  obtain ⟨inner', chosen', draws⟩ := candidate_follows noRules noTagged below flat nonempty
    (own.of_subset (Descriptor.reachedAll_flatten_subset intersectees)) inner chosen
  have made' : (resolve c intersectees').run (c.compileWithin depth) =
      .ok (guarded inner' "intersection guard" (flatten intersectees')) := by
    rw [resolve_of_several (flat.length_eq ▸ two)]
    exact Plan.run_bind_eq_ok.mpr ⟨inner', chosen', rfl⟩
  refine ⟨_, made', fun memoryless v drawn _ => ?_⟩
  obtain ⟨drawn, accepted⟩ := Generator.Draws.of_filtered drawn
  obtain ⟨w, drawn', accepted', reordered⟩ := draws memoryless v drawn accepted
  refine ⟨w, Generator.draws_filtered.mpr ⟨drawn', accepted'⟩, ?_, reordered⟩
  rwa [← Descriptor.guardAll_flatten]

/-- The induction is on the bound: what it is for an intersection of merged fields it has been one
less for. -/
theorem commutesWithin (noRules : c.customRules = []) (noTagged : c.customIntersections = []) :
    ∀ depth, CommutesWithin c depth
  | 0 => fun _ _ _ _ _ _ _ made => by cases made
  | depth + 1 => fun _ _ _ _ perm own =>
    resolve_follows noRules noTagged (commutesWithin noRules noTagged depth) perm own

end Resolving

/-- Without registered rules and strategies for intersections, an intersection compiles exactly if
that of the same types in any other order does, whatever strategies there are for extensions and
marked constraints. If what these make draws from the random choices alone, then either intersection
can draw what the other can, but for the order of members. -/
theorem intersection_commutes (c : Compiler) (noRules : c.customRules = [])
    (noTagged : c.customIntersections = []) (types types' : List Descriptor)
    (perm : types.Perm types') (own : HaveOwnIds (Descriptor.reachedAll types)) (id id' : Nat) :
    ((∃ g, c.compile (.node id (.intersect types)) = .ok g) ↔
      ∃ h, c.compile (.node id' (.intersect types')) = .ok h) ∧
    (c.Memoryless → ∀ g h, c.compile (.node id (.intersect types)) = .ok g →
      c.compile (.node id' (.intersect types')) = .ok h →
        (∀ v, g.Draws v → ∃ w, h.Draws w ∧ v.Reordered w) ∧
        (∀ w, h.Draws w → ∃ v, g.Draws v ∧ v.Reordered w)) := by
  have own' : HaveOwnIds (Descriptor.reachedAll types') :=
    own.of_subset (Descriptor.reachedAll_subset_of_perm perm)
  have weight : (Descriptor.node id' (.intersect types')).weight =
      (Descriptor.node id (.intersect types)).weight := by
    simp only [Descriptor.weight, Descriptor.shapeWeight, Descriptor.weightAll_perm perm]
  -- the same law in both directions, since a permutation can be undone
  have there := commutesWithin noRules noTagged
    ((Descriptor.node id (.intersect types)).weight + Compiler.nestingRoom) id id' _ _ perm own
  have back := commutesWithin noRules noTagged
    ((Descriptor.node id (.intersect types)).weight + Compiler.nestingRoom) id' id _ _ perm.symm own'
  unfold Compiler.compile
  rw [weight]
  refine ⟨⟨?_, ?_⟩, fun memoryless g h left right => ⟨fun v drawn => ?_, fun w drawn => ?_⟩⟩
  · rintro ⟨g, made⟩
    obtain ⟨h, made', _⟩ := there g made
    exact ⟨h, made'⟩
  · rintro ⟨h, made⟩
    obtain ⟨g, made', _⟩ := back h made
    exact ⟨g, made'⟩
  · obtain ⟨_, made', draws⟩ := there g left
    cases made'.symm.trans right
    obtain ⟨w, drawn', _, reordered⟩ :=
      draws memoryless v drawn (guardAll_of_resolve left drawn)
    exact ⟨w, drawn', reordered⟩
  · obtain ⟨_, made', draws⟩ := back h right
    cases made'.symm.trans left
    obtain ⟨v, drawn', _, reordered⟩ :=
      draws memoryless w drawn (guardAll_of_resolve right drawn)
    exact ⟨v, drawn', reordered.symm⟩

/-- A switch that is on or off, and marked. -/
def markedSwitch : List Descriptor :=
  [.node 1 (.record [("on", .node 2 .boolean)]), .node 3 (.record [("mark", .node 4 (.literal .null))])]

/-- The mark comes first where it is declared first. -/
theorem markedSwitch_turned_round :
    ∃ w, (∃ h, Compiler.new.compile (.node 0 (.intersect markedSwitch.reverse)) = .ok h ∧
        h.Draws w) ∧
      (Value.object [("on", .bool true), ("mark", .null)]).Reordered w := by
  have compiled : ∃ g, Compiler.new.compile (.node 0 (.intersect markedSwitch)) = .ok g ∧
      g.Draws (.object [("on", .bool true), ("mark", .null)]) :=
    ⟨_, rfl, ⟨fun _ => 1, 0⟩, .start, _, rfl⟩
  obtain ⟨g, made, drawn⟩ := compiled
  obtain ⟨compiles, outcomes⟩ := intersection_commutes .new rfl rfl markedSwitch
    markedSwitch.reverse markedSwitch.reverse_perm.symm (haveOwnIds_of_nodup (by decide)) 0 0
  obtain ⟨h, made'⟩ := compiles.mp ⟨g, made⟩
  obtain ⟨w, drawn', reordered⟩ := (outcomes Compiler.memoryless_new g h made made').1 _ drawn
  exact ⟨w, ⟨h, made', drawn'⟩, reordered⟩

/-! ## Tapes that fields share -/

/-- The next turn that is true, skipping a false one. -/
def nextTrue : Generator := .filtered turns none fun v => v.equal (.bool true)

/-- A compiler with a strategy that takes the next true turn, and one that waits for two turns of
which the first is true. -/
def queueing : Compiler :=
  (Compiler.new.registerStrategy "next" fun _ _ => pure nextTrue).registerStrategy "rise"
    fun _ _ => pure (twoTurns true)

def queuedRecords : List Descriptor :=
  [.node 1 (.record [("a", .node 2 (.extension "next" .null anything))]),
    .node 3 (.record [("b", .node 4 (.extension "rise" .null anything))])]

/-- After a true turn comes a false one. -/
theorem isEven_of_nextTrue {source : Source} {run after : Run} {v : Value} {label : Option String}
    {keep : Value → Bool}
    (drawn : (Generator.filtered nextTrue label keep).draw source run = .ok v after) :
    isEven after.tapes = false := by
  obtain ⟨_, _, taken, _⟩ := Generator.filtered_last (P := fun _ => True) (by simp) trivial drawn
  obtain ⟨before, _, turned, accepted⟩ :=
    Generator.filtered_last (P := fun _ => True) (by simp) trivial taken
  obtain ⟨rfl, moved⟩ := turns_ok turned
  rw [moved]
  revert accepted
  cases isEven before.tapes <;> simp [Value.equal]

/-- Where the field that takes one turn is drawn before the field that waits for two, this waits in
vain, and the intersection draws nothing; where it is drawn after it, nothing is in its way. -/
theorem order_decides_shared_tapes :
    queueing.customRules = [] ∧ queueing.customIntersections = [] ∧
      queuedRecords.Perm queuedRecords.reverse ∧
      HaveOwnIds (Descriptor.reachedAll queuedRecords) ∧
      (∃ g, queueing.compile (.node 0 (.intersect queuedRecords)) = .ok g ∧ ∀ v, ¬ g.Draws v) ∧
      ∃ g, queueing.compile (.node 0 (.intersect queuedRecords.reverse)) = .ok g ∧
        g.Draws (.object [("b", .array [.bool true, .bool false]), ("a", .bool true)]) := by
  have compiled : queueing.compile (.node 0 (.intersect queuedRecords)) =
      .ok (guarded (Generator.dropAbsent (.recordOf
        [("a", guarded nextTrue "field `a` rejected"
            [.node 2 (.extension "next" .null anything)]),
          ("b", guarded (twoTurns true) "field `b` rejected"
            [.node 4 (.extension "rise" .null anything)])]) []) "intersection guard"
        queuedRecords) := rfl
  refine ⟨rfl, rfl, queuedRecords.reverse_perm.symm, haveOwnIds_of_nodup (by decide),
    ⟨_, compiled, fun v drawn => ?_⟩, _, rfl, ⟨fun _ => 0, 0⟩, .start, _, rfl⟩
  have rise : EndsAt true (guarded (twoTurns true) "field `b` rejected"
      [.node 4 (.extension "rise" .null anything)]) := (endsAt_twoTurns true).filtered
  obtain ⟨merged, _⟩ := Generator.Draws.of_filtered drawn
  obtain ⟨_, ⟨source, run, after, ran⟩, _⟩ := Generator.Draws.of_mapped merged
  obtain ⟨_, _, ran, _⟩ := Draw.bind_eq_ok ran
  obtain ⟨_, between, first, ran⟩ := Draw.bind_eq_ok ran
  obtain ⟨_, _, ran, _⟩ := Draw.bind_eq_ok ran
  obtain ⟨_, _, second, _⟩ := Draw.bind_eq_ok ran
  exact Bool.false_ne_true ((isEven_of_nextTrue first).symm.trans (rise _ _ _ _ second).1)

end Intersection

end Specimen
