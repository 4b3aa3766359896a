import Specimen.Proofs.Intersection.Fallback
import Specimen.Proofs.Intersection.Outcome

/-!
# Merged records, field by field

An intersection of records and partial records draws objects, and which ones is said field by field
(`FieldwiseDrawn`): the names come in the order in which they are declared first, those that a
record declares are all there, each member is an outcome of its field's type that all declared types
accept, and what partial records alone declare is left out rather than undefined.

What is drawn is always such an object (`fieldwise_of_mergeRecords`). That each such object can be
drawn (`draws_of_fieldwise`) holds as long as no two fields share a tape, since then each is drawn
without regard to the others. Two fields that draw in turn from one tape can be drawn, but not in
every combination.
-/

namespace Specimen

namespace Intersection

variable {c : Compiler} {types : List Descriptor} {m : Generator} {v : Value}

/-! ## Objects of declared fields -/

/-- The types that a field is declared with. -/
def typesOf (types : List Descriptor) (name : String) : List Descriptor :=
  (declsOf (types.flatMap declarations) name).types

/-- Whether a record, and not only partial records, declares a field. -/
def IsRequired (types : List Descriptor) (name : String) : Prop :=
  ∃ declaration ∈ types.flatMap declarations,
    declaration.name = name ∧ declaration.required = true

/-- Members drawn one by one for the fields that some records declare. -/
structure FieldwiseDrawn (c : Compiler) (types : List Descriptor) (members : List (String × Value)) :
    Prop where
  /-- The names stand in the order in which they are declared first. -/
  ordered : (Fields.keys members).Sublist (declaredNames types)
  /-- What a record declares is there. -/
  required : ∀ name, IsRequired types name → name ∈ Fields.keys members
  /-- A member is drawn from the type of its field. -/
  drawn : ∀ member ∈ members, c.Outcome (fieldType (typesOf types member.1)) member.2
  /-- A member is accepted by all types that its field is declared with. -/
  accepted : ∀ member ∈ members, Descriptor.guardAll (typesOf types member.1) member.2 = true
  /-- What no record declares is left out rather than undefined. -/
  absent : ∀ member ∈ members, ¬ IsRequired types member.1 → member.2 ≠ .undefined

theorem types_of_mem_fieldDecls {entry : String × FieldDecls} (mem : entry ∈ fieldDecls types) :
    entry.2.types = typesOf types entry.1 := by
  obtain ⟨name, decls⟩ := entry
  obtain ⟨rfl, _⟩ := mem_fieldDecls.mp mem
  rfl

theorem isRequired_iff {entry : String × FieldDecls} (mem : entry ∈ fieldDecls types) :
    IsRequired types entry.1 ↔ entry.2.required = true := by
  obtain ⟨name, decls⟩ := entry
  obtain ⟨rfl, _⟩ := mem_fieldDecls.mp mem
  simp only [IsRequired, declsOf, List.any_filter, List.any_eq_true, Bool.and_eq_true, beq_iff_eq]

theorem mem_optionalNames {name : String} (declared : name ∈ declaredNames types) :
    name ∈ optionalNames types ↔ ¬ IsRequired types name := by
  rw [← keys_fieldDecls] at declared
  obtain ⟨entry, mem, rfl⟩ := List.mem_map.mp declared
  rw [isRequired_iff mem, Bool.not_eq_true]
  constructor
  · intro optional
    obtain ⟨other, kept, same⟩ := List.mem_map.mp optional
    obtain ⟨mem', optional⟩ := List.mem_filter.mp kept
    have one : other = entry :=
      List.inj_on_of_nodup_map (fieldDecls_nodup types) mem' mem same
    exact one ▸ Bool.not_eq_true' _ ▸ optional
  · intro optional
    exact List.mem_map.mpr ⟨entry, List.mem_filter.mpr ⟨mem, by rw [optional]; rfl⟩, rfl⟩

/-- Whether a member stays where optional members that are undefined are left out. -/
def stays (types : List Descriptor) (member : String × Value) : Bool :=
  !(member.2.isUndefined && (optionalNames types).contains member.1)

theorem stays_iff {member : String × Value} (declared : member.1 ∈ declaredNames types) :
    stays types member = true ↔ (¬ IsRequired types member.1 → member.2 ≠ .undefined) := by
  have undefined : member.2.isUndefined = true ↔ member.2 = .undefined := by
    cases member.2 <;> simp [Value.isUndefined]
  rw [stays, Bool.not_eq_true', Bool.and_eq_false_imp, undefined]
  rw [← mem_optionalNames declared, ← List.contains_iff_mem, ← Bool.not_eq_true]
  exact ⟨fun imp optional same => imp same optional, fun imp same optional => imp optional same⟩

/-- Members for all names of a list, of which some are given and the others undefined; left out the
undefined ones that are not given, they are the given ones. -/
theorem filter_filled {keep : String × Value → Bool} {members : List (String × Value)}
    {names : List String} (sub : (Fields.keys members).Sublist names) (nodup : names.Nodup)
    (kept : ∀ member ∈ members, keep member = true)
    (dropped : ∀ name ∈ names, name ∉ Fields.keys members → keep (name, .undefined) = false) :
    ((names.map fun name => (name, (Fields.get? members name).getD .undefined)).filter keep) =
      members := by
  generalize same : Fields.keys members = given at sub dropped
  induction sub generalizing members with
  | slnil =>
    rw [List.map_eq_nil_iff.mp same]
    rfl
  | @cons given rest name sub ih =>
    obtain ⟨fresh, nodup⟩ := List.nodup_cons.mp nodup
    have missing : name ∉ given := fun mem => fresh (sub.mem mem)
    have absent : (Fields.get? members name).getD .undefined = .undefined := by
      rw [Fields.get?_of_notMem (same ▸ missing)]
      rfl
    have out := dropped name List.mem_cons_self missing
    rw [List.map_cons, absent, List.filter_cons_of_neg (by rw [out]; decide)]
    exact ih nodup kept same fun other mem => dropped other (List.mem_cons_of_mem _ mem)
  | @cons_cons given rest name sub ih =>
    obtain ⟨fresh, nodup⟩ := List.nodup_cons.mp nodup
    obtain ⟨⟨key, w⟩, others, rfl, named, left⟩ := List.map_eq_cons_iff.mp same
    change key = name at named
    subst key
    obtain ⟨first, kept⟩ := List.forall_mem_cons.mp kept
    have here : Fields.get? ((name, w) :: others) name = some w := if_pos rfl
    -- the names behind the first are not its own, so it makes no difference to what they read
    have there : (rest.map fun other =>
        (other, (Fields.get? ((name, w) :: others) other).getD .undefined)) =
          rest.map fun other => (other, (Fields.get? others other).getD .undefined) := by
      refine List.map_congr_left fun other mem => ?_
      have apart : ¬name = other := fun one => fresh (one ▸ mem)
      rw [Fields.get?, if_neg apart]
    have tail := ih nodup kept left fun other mem missing => by
      have apart : other ≠ name := fun one => fresh (one ▸ mem)
      exact dropped other (List.mem_cons_of_mem _ mem) fun among =>
        missing ((List.mem_cons.mp among).resolve_left apart)
    rw [List.map_cons, there, here, Option.getD_some, List.filter_cons_of_pos first, tail]

/-! ## Both directions -/

/-- What is drawn for a merged field: a member its field's types accept, or nothing. -/
theorem memberMerged_iff {entry : String × FieldDecls} (mem : entry ∈ fieldDecls types)
    {member : String × Value} : MemberMerged c.eventually entry member ↔
      member.1 = entry.1 ∧ (∃ source, c.Compiles (fieldType (typesOf types entry.1)) source) ∧
        ((c.Outcome (fieldType (typesOf types entry.1)) member.2 ∧
            Descriptor.guardAll (typesOf types entry.1) member.2 = true) ∨
          (¬ IsRequired types entry.1 ∧ member.2 = .undefined)) := by
  have declared := types_of_mem_fieldDecls mem
  rw [MemberMerged, isRequired_iff mem, Bool.not_eq_true, declared]
  refine and_congr_right fun _ => ?_
  constructor
  · rintro ⟨source, compiled, drawn⟩
    have compiles := Compiler.compiles_iff.mpr compiled
    refine ⟨⟨source, compiles⟩, (of_merged drawn).imp_left fun ⟨drawn, accepted⟩ => ?_⟩
    exact ⟨⟨source, compiles, drawn⟩, declared ▸ accepted⟩
  · rintro ⟨⟨source, compiles⟩, either⟩
    refine ⟨source, Compiler.compiles_iff.mp compiles, draws_merged.mpr ?_⟩
    refine either.imp_left fun ⟨outcome, accepted⟩ => ?_
    exact ⟨compiles.draws_iff.mpr outcome, declared.symm ▸ accepted⟩

/-- Only objects of declared fields are drawn. -/
theorem fieldwise_of_mergeRecords (made : c.Makes (mergeRecords types) m) (drawn : m.Draws v) :
    ∃ members, v = .object members ∧ FieldwiseDrawn c types members := by
  obtain ⟨full, each, rfl⟩ := of_mergeRecords (Compiler.makes_iff.mp made) drawn
  have names : Fields.keys full = declaredNames types :=
    (keys_of_memberMerged each).trans (keys_fieldDecls types)
  have listed : ∀ member ∈ full, member.1 ∈ declaredNames types := fun member mem =>
    names ▸ List.mem_map_of_mem mem
  have merged : ∀ member ∈ full, (c.Outcome (fieldType (typesOf types member.1)) member.2 ∧
      Descriptor.guardAll (typesOf types member.1) member.2 = true) ∨
        (¬ IsRequired types member.1 ∧ member.2 = .undefined) := by
    intro member mem
    obtain ⟨entry, among, drawn⟩ := each.exists_of_mem_right mem
    obtain ⟨named, _, either⟩ := (memberMerged_iff among).mp drawn
    rwa [named]
  -- what stays cannot be one of the members that were only left out
  have stayed : ∀ member ∈ full.filter (stays types), member ∈ full ∧
      (¬ IsRequired types member.1 → member.2 ≠ .undefined) := by
    intro member mem
    obtain ⟨mem, kept⟩ := List.mem_filter.mp mem
    exact ⟨mem, (stays_iff (listed member mem)).mp kept⟩
  have taken : ∀ member ∈ full.filter (stays types),
      c.Outcome (fieldType (typesOf types member.1)) member.2 ∧
        Descriptor.guardAll (typesOf types member.1) member.2 = true := by
    intro member mem
    obtain ⟨mem, there⟩ := stayed member mem
    exact (merged member mem).resolve_right fun ⟨optional, undefined⟩ => there optional undefined
  refine ⟨full.filter (stays types), rfl, ⟨?_, ?_, fun member mem => (taken member mem).1,
    fun member mem => (taken member mem).2, fun member mem => (stayed member mem).2⟩⟩
  · rw [← names]
    exact List.filter_sublist.map Prod.fst
  · rintro name ⟨declaration, made, rfl, required⟩
    have declared : declaration.name ∈ declaredNames types :=
      List.mem_eraseDups.mpr (List.mem_map_of_mem made)
    rw [← names] at declared
    obtain ⟨member, mem, same⟩ := List.mem_map.mp declared
    refine List.mem_map.mpr ⟨member, List.mem_filter.mpr ⟨mem, ?_⟩, same⟩
    refine (stays_iff (listed member mem)).mpr fun optional => absurd ?_ optional
    exact ⟨declaration, made, same.symm, required⟩

/-- Where no two fields share a tape, every object of declared fields is drawn. -/
theorem draws_of_fieldwise (apart : FieldsApart c.eventually types)
    (made : c.Makes (mergeRecords types) m) {members : List (String × Value)}
    (fieldwise : FieldwiseDrawn c types members) : m.Draws (.object members) := by
  -- every declared field is drawn; those that the object lacks are drawn as undefined
  let filled (entry : String × FieldDecls) : String × Value :=
    (entry.1, (Fields.get? members entry.1).getD .undefined)
  obtain ⟨_, fields, merges, _⟩ := run_mergeRecords.mp (Compiler.makes_iff.mp made)
  have each : ∀ entry ∈ fieldDecls types, MemberMerged c.eventually entry (filled entry) := by
    intro entry mem
    obtain ⟨field, _, _, source, compiled, _⟩ := merges.exists_of_mem_left mem
    rw [types_of_mem_fieldDecls mem] at compiled
    refine (memberMerged_iff mem).mpr ⟨rfl, ⟨source, Compiler.compiles_iff.mpr compiled⟩, ?_⟩
    by_cases given : entry.1 ∈ Fields.keys members
    · obtain ⟨w, found⟩ := Fields.exists_get? given
      have listed := Fields.mem_of_get? found
      left
      simp only [filled, found, Option.getD_some]
      exact ⟨fieldwise.drawn _ listed, fieldwise.accepted _ listed⟩
    · right
      simp only [filled, Fields.get?_of_notMem given]
      exact ⟨fun required => given (fieldwise.required _ required), rfl⟩
  have together : List.Forall₂ (MemberMerged c.eventually) (fieldDecls types)
      ((fieldDecls types).map filled) :=
    List.forall₂_map_right_iff.mpr (List.forall₂_same.mpr each)
  refine (draws_mergeRecords apart (Compiler.makes_iff.mp made)).mpr ⟨_, together, ?_⟩
  have full : (fieldDecls types).map filled = (declaredNames types).map fun name =>
      (name, (Fields.get? members name).getD .undefined) := by
    rw [← keys_fieldDecls, Fields.keys, List.map_map]
    rfl
  have stay : ∀ member ∈ members, stays types member = true := fun member mem =>
    (stays_iff (fieldwise.ordered.mem (List.mem_map_of_mem mem))).mpr (fieldwise.absent member mem)
  -- and leaving out the undefined ones gives the object back
  have back := filter_filled fieldwise.ordered (nodup_eraseDups _) stay
    (fun name declared missing => ?_)
  · rw [full]
    exact congrArg Value.object back.symm
  · refine Bool.eq_false_iff.mpr fun kept => (stays_iff declared).mp kept ?_ rfl
    exact fun required => missing (fieldwise.required name required)

/-! ## The whole -/

/-- No tape stands in what two declared fields compile to. -/
def FieldTapesApart (c : Compiler) (types : List Descriptor) : Prop :=
  (declaredNames types).Pairwise fun one other => ∀ g h,
    c.Compiles (fieldType (typesOf types one)) g →
      c.Compiles (fieldType (typesOf types other)) h → g.tapes.Disjoint h.tapes

theorem FieldTapesApart.fieldsApart (apart : FieldTapesApart c types) :
    FieldsApart c.eventually types := by
  rw [FieldTapesApart, ← keys_fieldDecls, Fields.keys, List.pairwise_map] at apart
  refine apart.imp_of_mem fun {one other} mem mem' disjoint g h compiled compiled' => ?_
  rw [types_of_mem_fieldDecls mem] at compiled
  rw [types_of_mem_fieldDecls mem'] at compiled'
  exact disjoint g h (Compiler.compiles_iff.mpr compiled) (Compiler.compiles_iff.mpr compiled')

/-- Strategies that make no tapes leave none to share. -/
theorem fieldTapesApart_of_memoryless (memoryless : c.Memoryless) : FieldTapesApart c types := by
  refine List.pairwise_of_forall_mem_list fun one _ other _ g h compiles _ => ?_
  rw [Generator.tapes_of_isTapeless (Compiler.isTapeless_of_compiles memoryless compiles)]
  exact List.disjoint_nil_left _

/-- What an intersection of two or more records and partial records draws.

It compiles exactly if the type of each declared field does. Every draw is an object of declared
fields: its names are some of the declared ones, in the order in which they are declared first and
with all that a record declares; each member is an outcome of its field's type, the one declared
type or the intersection of the several, that all declared types accept; and what partial records
alone declare is never undefined. If no two fields share a tape, every such object is drawn. -/
theorem merged_records_draw_fieldwise (c : Compiler) (intersectees types : List Descriptor)
    (id : Nat) (flat : flatten intersectees = types) (two : 2 ≤ types.length)
    (records : ∀ t ∈ types, t.IsRecord) :
    ((∃ g, c.Compiles (.node id (.intersect intersectees)) g) ↔
      ∀ name ∈ declaredNames types, ∃ source, c.Compiles (fieldType (typesOf types name)) source) ∧
    ∀ g, c.Compiles (.node id (.intersect intersectees)) g →
      (∀ v, g.Draws v → ∃ members, v = .object members ∧ FieldwiseDrawn c types members) ∧
      (FieldTapesApart c types → ∀ members, FieldwiseDrawn c types members →
        g.Draws (.object members)) := by
  subst flat
  -- the guard behind the merge changes nothing about whether it compiles
  have made : ∀ g, c.Compiles (.node id (.intersect intersectees)) g ↔
      ∃ m, c.Makes (mergeRecords (flatten intersectees)) m ∧
        g = guarded m "intersection guard" (flatten intersectees) := by
    intro g
    rw [compiles_intersect two, candidate_of_records records]
  constructor
  · have merges : (∃ m, c.Makes (mergeRecords (flatten intersectees)) m) ↔
        ∀ entry ∈ fieldDecls (flatten intersectees),
          ∃ source, c.Compiles (fieldType entry.2.types) source := by
      simp only [Compiler.makes_iff, Compiler.compiles_iff]
      exact exists_run_mergeRecords records
    have same : (∃ g, c.Compiles (.node id (.intersect intersectees)) g) ↔
        ∃ m, c.Makes (mergeRecords (flatten intersectees)) m := by
      simp only [made]
      constructor
      · rintro ⟨_, m, made, _⟩
        exact ⟨m, made⟩
      · rintro ⟨m, made⟩
        exact ⟨_, m, made, rfl⟩
    rw [same, merges, ← keys_fieldDecls]
    constructor
    · intro each name declared
      obtain ⟨entry, mem, rfl⟩ := List.mem_map.mp declared
      exact types_of_mem_fieldDecls mem ▸ each entry mem
    · intro each entry mem
      rw [types_of_mem_fieldDecls mem]
      exact each entry.1 (List.mem_map_of_mem mem)
  · intro g compiles
    obtain ⟨m, merges, rfl⟩ := (made g).mp compiles
    refine ⟨fun v drawn => fieldwise_of_mergeRecords merges drawn.of_filtered.1, ?_⟩
    intro apart members fieldwise
    have drawn := draws_of_fieldwise apart.fieldsApart merges fieldwise
    exact Generator.draws_filtered.mpr
      ⟨drawn, guardAll_of_mergeRecords (Compiler.makes_iff.mp merges) drawn⟩

/-- A label goes with a switch that is off as with one that is on, or is left out; the switch is
not. -/
theorem labelledSwitch_draws_fieldwise :
    ∃ g, Compiler.new.Compiles (.node 0 (.intersect labelledSwitch)) g ∧
      g.Draws (.object [("on", .bool true)]) ∧
      g.Draws (.object [("on", .bool true), ("label", .string "")]) ∧
      ¬ g.Draws (.object [("label", .string "")]) := by
  have records : ∀ t ∈ labelledSwitch, t.IsRecord := by
    simp [labelledSwitch, Descriptor.IsRecord, Descriptor.tag, Descriptor.shape, Shape.tag]
  have names : declaredNames labelledSwitch = ["on", "label"] := by decide
  have required : ∀ name, IsRequired labelledSwitch name ↔ name = "on" := by
    intro name
    have listed : labelledSwitch.flatMap declarations = [⟨"on", .node 2 .boolean, true⟩,
      ⟨"on", .node 4 .boolean, false⟩, ⟨"label", .node 5 .string, false⟩] := rfl
    simp [IsRequired, listed, Eq.comm (a := name)]
  have on : Compiler.new.Outcome (fieldType (typesOf labelledSwitch "on")) (.bool true) :=
    ⟨_, ⟨2, rfl⟩, ⟨fun _ => 1, 0⟩, .start, ⟨2, 0, none, []⟩, rfl⟩
  have label : Compiler.new.Outcome (fieldType (typesOf labelledSwitch "label")) (.string "") :=
    ⟨_, ⟨1, rfl⟩, ⟨fun _ => 0, 0⟩, .start, ⟨1, 0, none, []⟩, rfl⟩
  obtain ⟨compiles, draws⟩ := merged_records_draw_fieldwise .new labelledSwitch labelledSwitch 0 rfl
    (by decide) records
  have each : ∀ name ∈ declaredNames labelledSwitch,
      ∃ source, Compiler.new.Compiles (fieldType (typesOf labelledSwitch name)) source := by
    rw [names]
    exact List.forall_mem_cons.mpr ⟨on.imp fun _ => And.left,
      List.forall_mem_singleton.mpr (label.imp fun _ => And.left)⟩
  obtain ⟨g, compiled⟩ := compiles.mpr each
  obtain ⟨only, all⟩ := draws g compiled
  have apart : FieldTapesApart .new labelledSwitch :=
    fieldTapesApart_of_memoryless Compiler.memoryless_new
  refine ⟨g, compiled, all apart _ ⟨?_, ?_, ?_, ?_, ?_⟩, all apart _ ⟨?_, ?_, ?_, ?_, ?_⟩, ?_⟩
  · decide
  · simp [required, Fields.keys]
  · exact List.forall_mem_singleton.mpr on
  · exact List.forall_mem_singleton.mpr rfl
  · exact List.forall_mem_singleton.mpr fun _ => Value.noConfusion
  · decide
  · simp [required, Fields.keys]
  · exact List.forall_mem_cons.mpr ⟨on, List.forall_mem_singleton.mpr label⟩
  · exact List.forall_mem_cons.mpr ⟨rfl, List.forall_mem_singleton.mpr rfl⟩
  · exact List.forall_mem_cons.mpr ⟨fun _ => Value.noConfusion,
      List.forall_mem_singleton.mpr fun _ => Value.noConfusion⟩
  · intro drawn
    obtain ⟨members, same, fieldwise⟩ := only _ drawn
    have there := fieldwise.required "on" ((required "on").mpr rfl)
    rw [← Value.object.inj same] at there
    exact absurd there (by decide)

/-- Each field draws its member by itself, and all that it draws is accepted, but where one field
leaves the tape that they share the other cannot be drawn. -/
theorem turnRecords_draw_nothing :
    turning.Trusts (.node 0 (.intersect turnRecords)) ∧
      FieldwiseDrawn turning turnRecords
        [("a", .array [.bool true, .bool false]), ("b", .array [.bool false, .bool true])] ∧
      (∃ g, turning.Compiles (.node 0 (.intersect turnRecords)) g) ∧
      ∀ v, ¬ turning.Outcome (.node 0 (.intersect turnRecords)) v := by
  have required : ∀ name, IsRequired turnRecords name → name = "a" ∨ name = "b" := by
    intro name
    have listed : turnRecords.flatMap declarations =
      [⟨"a", .node 2 (.extension "rise" .null anything), true⟩,
        ⟨"b", .node 4 (.extension "fall" .null anything), true⟩] := rfl
    simp [IsRequired, listed, Eq.comm (a := name)]
  have a : turning.Outcome (fieldType (typesOf turnRecords "a"))
      (.array [.bool true, .bool false]) :=
    ⟨twoTurns true, ⟨1, rfl⟩, ⟨fun _ => 0, 0⟩, .start, ⟨0, 0, none, [(0, 2)]⟩, rfl⟩
  have b : turning.Outcome (fieldType (typesOf turnRecords "b"))
      (.array [.bool false, .bool true]) :=
    ⟨twoTurns false, ⟨1, rfl⟩, ⟨fun _ => 0, 0⟩, ⟨0, 0, none, [(0, 1)]⟩,
      ⟨0, 0, none, [(0, 3)]⟩, rfl⟩
  refine ⟨turning_trusts, ⟨by decide, ?_, ?_, ?_, ?_⟩, ⟨_, 2, rfl⟩, fun v outcome => ?_⟩
  · exact fun name declared => List.mem_pair.mpr (required name declared)
  · exact List.forall_mem_cons.mpr ⟨a, List.forall_mem_singleton.mpr b⟩
  · exact List.forall_mem_cons.mpr ⟨rfl, List.forall_mem_singleton.mpr rfl⟩
  · exact List.forall_mem_cons.mpr ⟨fun _ => Value.noConfusion,
      List.forall_mem_singleton.mpr fun _ => Value.noConfusion⟩
  · obtain ⟨m, made, drawn, _⟩ := (outcome_intersect (by decide)).mp outcome
    have records : ∀ t ∈ turnRecords, t.IsRecord := by
      simp [turnRecords, Descriptor.IsRecord, Descriptor.tag, Descriptor.shape, Shape.tag]
    have flat : flatten turnRecords = turnRecords := rfl
    rw [flat, candidate_of_records records] at made
    exact not_hasOutcome_turnRecords ⟨m, made, v, drawn⟩

end Intersection

end Specimen
