import Specimen.Proofs.Compiler.Compilable
import Specimen.Proofs.Compiler.Soundness
import Specimen.Proofs.Intersection.Conjunction
import Specimen.Proofs.Intersection.Merged

/-!
# The built-in rules beside the generic way

For records and for unions there is a rule of its own in place of the generic way, which would draw
from any one of the types what all of them accept. The rules draw far fewer values in vain, but they
ask for more: merging needs a value for every field that some record declares, where the generic way
needs one record only and lets the fields of others be missing as far as their types accept an
undefined one; flattening draws every alternative on each attempt, where the generic way draws one.

So a rule can starve where the generic way does not, and as long as no tapes are shared it does
exactly when one of the parts it asks for starves by itself (`built_in_rule_outcomes`). It compiles
whenever the generic way does, except that merging hands the declarations of a field to the resolver
once more, where a rule or strategy that is registered may fail. Examples of each way to be worse
stand after the theorem.
-/

namespace Specimen

namespace Intersection

variable {c : Compiler} {types : List Descriptor} {g m : Generator} {v : Value}

/-- Each field that some record declares can be drawn by itself: what the type of the merged field is
compiled to draws a value that all the declared types accept. -/
def RequiredFieldsDraw (c : Compiler) (types : List Descriptor) : Prop :=
  ∀ entry ∈ fieldDecls types, entry.2.required = true →
    ∃ source w, c.Compiles (fieldType entry.2.types) source ∧ source.Draws w ∧
      Descriptor.guardAll entry.2.types w = true

/-- Each alternative of each union can be drawn by itself. -/
def AlternativesDraw (c : Compiler) (types : List Descriptor) : Prop :=
  ∀ t ∈ types, ∀ alternative ∈ alternativesOf t,
    ∃ source w, c.Compiles alternative source ∧ source.Draws w

/-! ## Merging -/

/-- A merged record was drawn field by field. -/
theorem requiredFieldsDraw_of_draws (made : c.Makes (mergeRecords types) m) (drawn : m.Draws v) :
    RequiredFieldsDraw c types := by
  obtain ⟨_, fields, merges, rfl⟩ := run_mergeRecords.mp (Compiler.makes_iff.mp made)
  obtain ⟨_, full, _⟩ := Generator.Draws.of_mapped drawn
  obtain ⟨members, _, each⟩ := Generator.Draws.of_recordOf full
  intro entry mem required
  obtain ⟨member, _, field, ⟨_, source, compiled, same⟩, _, hmember⟩ :=
    (merges.comp each).exists_of_mem_left mem
  rw [same, merged_of_required required] at hmember
  obtain ⟨hsource, accepted⟩ := Generator.Draws.of_filtered hmember
  exact ⟨source, member.2, Compiler.compiles_iff.mpr compiled, hsource, accepted⟩

/-- Without tapes the draws of the fields do not get into each other's way, and a field that no
record declares can be left out. -/
theorem exists_draws_of_requiredFieldsDraw (memoryless : c.Memoryless)
    (made : c.Makes (mergeRecords types) m) (draw : RequiredFieldsDraw c types) :
    ∃ v, m.Draws v := by
  obtain ⟨_, fields, merges, rfl⟩ := run_mergeRecords.mp (Compiler.makes_iff.mp made)
  have tapeless : ∀ t g, c.eventually t = .ok g → g.isTapeless = true :=
    fun t g compiled =>
      Compiler.isTapeless_of_compiles memoryless (Compiler.compiles_iff.mpr compiled)
  have apart := apart_of_fieldsApart (fieldsApart_of_tapeless tapeless) merges
  have each : ∀ field ∈ fields, ∃ member, Generator.Draws.Member field member := by
    intro field mem
    obtain ⟨entry, among, _, source, compiled, same⟩ := merges.exists_of_mem_right mem
    cases required : entry.2.required with
    | true =>
      obtain ⟨other, w, compiles, hw, accepted⟩ := draw entry among required
      have one : source = other := (Compiler.compiles_iff.mpr compiled).unique compiles
      refine ⟨(field.1, w), rfl, ?_⟩
      rw [same, merged_of_required required]
      exact Generator.draws_filtered.mpr ⟨one ▸ hw, accepted⟩
    | false =>
      refine ⟨(field.1, .undefined), rfl, ?_⟩
      rw [same, merged_of_optional required]
      exact Generator.draws_optional.mpr (.inr rfl)
  obtain ⟨members, drawn⟩ := List.Forall₂.exists_iff.mpr each
  exact ⟨_, Generator.draws_mapped.mpr
    ⟨_, (Generator.draws_recordOf apart).mpr ⟨members, drawn, rfl⟩, rfl⟩⟩

/-! ## Flattening -/

/-- A flattened union drew every alternative. -/
theorem alternativesDraw_of_draws (own : HaveOwnIds (types.flatMap alternativesOf))
    (made : c.Makes (flattenUnions types) m) (drawn : m.Draws v) : AlternativesDraw c types := by
  obtain ⟨_, candidates, each, rfl⟩ := run_flattenUnions.mp (Compiler.makes_iff.mp made)
  obtain ⟨values, draws, _⟩ := Generator.Draws.of_rotated drawn
  intro t mem alternative among
  have pooled := (mem_pool own).mpr (List.mem_flatMap.mpr ⟨t, mem, among⟩)
  obtain ⟨w, _, source, compiled, hw⟩ := (each.comp draws).exists_of_mem_left pooled
  exact ⟨source, w, Compiler.compiles_iff.mpr compiled, hw⟩

/-- What the generic way draws from unions was drawn from an alternative of one of them. -/
theorem exists_alternative_of_generic (unions : ∀ t ∈ types, t.tag = .union) (nonempty : types ≠ [])
    (made : c.Makes (generic types) g) (drawn : g.Draws v) :
    ∃ alternative ∈ types.flatMap alternativesOf, ∃ source,
      c.Compiles alternative source ∧ source.Draws v ∧ Descriptor.guardAll types v = true := by
  obtain ⟨first, others, each, rfl⟩ := (run_generic nonempty).mp (Compiler.makes_iff.mp made)
  obtain ⟨any, accepted⟩ := Generator.Draws.of_filtered drawn
  obtain ⟨option, chosen, hoption⟩ := Generator.Draws.of_oneOf any
  obtain ⟨⟨id, shape⟩, mem, compiled⟩ := each.exists_of_mem_right chosen
  have tag := unions _ mem
  cases shape with
  | union alternatives =>
    rw [Compiler.eventually_eq] at compiled
    obtain ⟨_, _, below, rfl⟩ := Compiler.run_step_union.mp compiled
    obtain ⟨source, picked, hsource⟩ := Generator.Draws.of_oneOf hoption
    obtain ⟨alternative, among, compiled⟩ := below.exists_of_mem_right picked
    exact ⟨alternative, List.mem_flatMap.mpr ⟨_, mem, among⟩, source,
      Compiler.compiles_iff.mpr compiled, hsource, accepted⟩
  | _ => cases tag

/-- Without tapes, an attempt at flattened unions can draw what the generic way drew, along with
whatever the other alternatives draw. -/
theorem exists_draws_of_alternativesDraw (memoryless : c.Memoryless)
    (own : HaveOwnIds (types.flatMap alternativesOf)) (unions : ∀ t ∈ types, t.tag = .union)
    (nonempty : types ≠ []) (made : c.Makes (generic types) g) (drawn : g.Draws v)
    (rule : c.Makes (flattenUnions types) m) (draw : AlternativesDraw c types) :
    ∃ v, m.Draws v := by
  obtain ⟨alternative, listed, kept, compiles, hkept, accepted⟩ :=
    exists_alternative_of_generic unions nonempty made drawn
  obtain ⟨_, candidates, each, rfl⟩ := run_flattenUnions.mp (Compiler.makes_iff.mp rule)
  have tapeless : Generator.areTapeless candidates = true := by
    refine Generator.areTapeless_eq_true.mpr fun candidate mem => ?_
    obtain ⟨t, _, compiled⟩ := each.exists_of_mem_right mem
    exact Compiler.isTapeless_of_compiles memoryless (Compiler.compiles_iff.mpr compiled)
  refine ⟨v, (Generator.draws_rotated
    (Generator.apart_of_areTapeless tapeless)).mpr ⟨fun candidate mem => ?_, ?_, accepted⟩⟩
  · obtain ⟨t, pooled, compiled⟩ := each.exists_of_mem_right mem
    obtain ⟨u, among, ofUnion⟩ := List.mem_flatMap.mp (mem_of_mem_pool pooled)
    obtain ⟨source, w, compiles, hw⟩ := draw u among t ofUnion
    have one : candidate = source := (Compiler.compiles_iff.mpr compiled).unique compiles
    exact ⟨w, one ▸ hw⟩
  · obtain ⟨candidate, mem, compiled⟩ := each.exists_of_mem_left ((mem_pool own).mpr listed)
    have one : candidate = kept := (Compiler.compiles_iff.mpr compiled).unique compiles
    exact ⟨candidate, mem, one ▸ hkept⟩

/-! ## Both -/

/-- Where the generic way compiles for two or more records, the merge stands in for it. It compiles
exactly if the type of each merged field does, which is always the case when no rule and no strategy
for intersections is registered; and it can draw something exactly if each field that some record
declares can be drawn by itself.

Where the generic way compiles for two or more unions that have alternatives, flattening stands in
for it and compiles as well; and given that the generic way can draw something, it can exactly if
each alternative can be drawn by itself.

That the parts can be drawn by themselves suffices where registered strategies make draws from the
random choices alone; it is needed in any case. -/
theorem built_in_rule_outcomes (c : Compiler) (types : List Descriptor) (g : Generator)
    (two : 2 ≤ types.length) (own : HaveOwnIds (Descriptor.reachedAll types))
    (made : c.Makes (generic types) g) :
    ((∀ t ∈ types, t.IsRecord) →
      candidate c types = mergeRecords types ∧
      ((∃ m, c.Makes (mergeRecords types) m) ↔
        ∀ entry ∈ fieldDecls types, c.Compilable (fieldType entry.2.types)) ∧
      (c.customRules = [] → c.customIntersections = [] → ∃ m, c.Makes (mergeRecords types) m) ∧
      ∀ m, c.Makes (mergeRecords types) m →
        ((∃ v, m.Draws v) → RequiredFieldsDraw c types) ∧
        (c.Memoryless → RequiredFieldsDraw c types → ∃ v, m.Draws v)) ∧
    ((∀ t ∈ types, t.tag = .union ∧ alternativesOf t ≠ []) →
      candidate c types = flattenUnions types ∧
      ∃ m, c.Makes (flattenUnions types) m ∧
        ((∃ v, m.Draws v) → AlternativesDraw c types) ∧
        (c.Memoryless → (∃ v, g.Draws v) → AlternativesDraw c types → ∃ v, m.Draws v)) := by
  have nonempty : types ≠ [] := List.ne_nil_of_length_pos (Nat.lt_of_lt_of_le Nat.zero_lt_two two)
  -- the fallback asks for all types, so that it compiles says that each of them does
  have compilable : ∀ t ∈ types, c.Compilable t := by
    simp only [Compiler.compilable_iff_eventually]
    exact (exists_run_generic nonempty).mp ⟨g, Compiler.makes_iff.mp made⟩
  refine ⟨fun records => ⟨candidate_of_records records, ?_, ?_, ?_⟩, fun filled => ?_⟩
  · simp only [Compiler.makes_iff, Compiler.compilable_iff_eventually]
    exact exists_run_mergeRecords records
  · intro noRules noTagged
    exact (Compiler.exists_makes_mergeRecords noRules noTagged own records).mpr compilable
  · intro m rule
    exact ⟨fun ⟨v, drawn⟩ => requiredFieldsDraw_of_draws rule drawn,
      fun memoryless => exists_draws_of_requiredFieldsDraw memoryless rule⟩
  · have unions : ∀ t ∈ types, t.tag = .union := fun t mem => (filled t mem).1
    have ownAlternatives : HaveOwnIds (types.flatMap alternativesOf) := by
      refine own.of_subset fun a listed => ?_
      obtain ⟨t, mem, among⟩ := List.mem_flatMap.mp listed
      have below := Shape.reached_subset_of_mem_parts (alternativesOf_subset_parts t among)
      exact Descriptor.mem_reachedAll.mpr
        ⟨t, mem, t.reachedFrom_subset (below a.self_mem_reached)⟩
    have rule : ∃ m, c.Makes (flattenUnions types) m := by
      simp only [Compiler.makes_iff]
      refine exists_run_flattenUnions.mpr ⟨fun t mem => (filled t mem).2, fun a pooled => ?_⟩
      obtain ⟨⟨id, shape⟩, mem, among⟩ := List.mem_flatMap.mp (mem_of_mem_pool pooled)
      -- a union is no intersection, so it compiles exactly if its alternatives do
      have plain : shape.tag ≠ .intersect := by
        have tag : shape.tag = .union := unions _ mem
        rw [tag]
        decide
      have parts := ((Compiler.compilable_node plain).mp (compilable _ mem)).2
      exact Compiler.compilable_iff_eventually.mp
        (parts a (alternativesOf_subset_parts _ among))
    obtain ⟨m, rule⟩ := rule
    refine ⟨candidate_of_unions nonempty unions, m, rule, ?_, ?_⟩
    · rintro ⟨v, drawn⟩
      exact alternativesDraw_of_draws ownAlternatives rule drawn
    · rintro memoryless ⟨v, drawn⟩ draw
      exact exists_draws_of_alternativesDraw memoryless ownAlternatives unions nonempty made drawn
        rule draw

/-! ## Rules that serve -/

/-- A switch that is on or off, and may have a label. -/
def labelledSwitch : List Descriptor :=
  [.node 1 (.record [("on", .node 2 .boolean)]),
    .node 3 (.partialRecord [("on", .node 4 .boolean), ("label", .node 5 .string)])]

/-- Unions whose alternatives all can be drawn. -/
def looseUnions : List Descriptor :=
  [.node 1 (.union [.node 2 .boolean, .node 3 .string]), .node 4 (.union [.node 5 .boolean])]

theorem requiredFieldsDraw_labelledSwitch : RequiredFieldsDraw .new labelledSwitch := by
  have listed : fieldDecls labelledSwitch =
      [("on", ⟨[.node 2 .boolean, .node 4 .boolean], true⟩),
        ("label", ⟨[.node 5 .string], false⟩)] := rfl
  intro entry mem required
  rw [listed] at mem
  rcases List.mem_pair.mp mem with rfl | rfl
  · exact ⟨_, .bool false, ⟨3, rfl⟩, ⟨⟨fun _ => 0, 0⟩, .start, ⟨2, 0, none, []⟩, rfl⟩, rfl⟩
  · cases required

theorem alternativesDraw_looseUnions : AlternativesDraw .new looseUnions := by
  have drawn : Generator.boolean.Draws (.bool false) :=
    ⟨⟨fun _ => 0, 0⟩, .start, ⟨1, 0, none, []⟩, rfl⟩
  intro t mem alternative among
  rcases List.mem_pair.mp mem with rfl | rfl
  · rcases List.mem_pair.mp among with rfl | rfl
    · exact ⟨.boolean, _, ⟨1, rfl⟩, drawn⟩
    · exact ⟨.text, .string "", ⟨1, rfl⟩, ⟨⟨fun _ => 0, 0⟩, .start, ⟨1, 0, none, []⟩, rfl⟩⟩
  · rw [List.mem_singleton.mp among]
    exact ⟨.boolean, _, ⟨1, rfl⟩, drawn⟩

/-- Both rules draw where all they ask for can be drawn. -/
theorem built_in_rules_serve :
    (∃ m, Compiler.new.Makes (mergeRecords labelledSwitch) m ∧ ∃ v, m.Draws v) ∧
      ∃ m, Compiler.new.Makes (flattenUnions looseUnions) m ∧ ∃ v, m.Draws v := by
  constructor
  · have records : ∀ t ∈ labelledSwitch, t.IsRecord := by
      simp [labelledSwitch, Descriptor.IsRecord, Descriptor.tag, Descriptor.shape, Shape.tag]
    obtain ⟨_, _, compiles, outcome⟩ := (built_in_rule_outcomes .new labelledSwitch _ (by decide)
      (haveOwnIds_of_nodup (by decide)) ⟨2, rfl⟩).1 records
    obtain ⟨m, rule⟩ := compiles rfl rfl
    exact ⟨m, rule, (outcome m rule).2 Compiler.memoryless_new requiredFieldsDraw_labelledSwitch⟩
  · have unions : ∀ t ∈ looseUnions, t.tag = .union ∧ alternativesOf t ≠ [] := by
      simp [looseUnions, Descriptor.tag, Descriptor.shape, Shape.tag, alternativesOf]
    obtain ⟨_, m, rule, _, outcome⟩ := (built_in_rule_outcomes .new looseUnions _ (by decide)
      (haveOwnIds_of_nodup (by decide)) ⟨2, rfl⟩).2 unions
    refine ⟨m, rule, outcome Compiler.memoryless_new ?_ alternativesDraw_looseUnions⟩
    exact ⟨.bool false, ⟨fun _ => 0, 0⟩, .start, ⟨3, 0, none, []⟩, rfl⟩

/-! ## Rules that starve or fail -/

/-- A plan comes to a generator that can draw something. -/
def HasOutcome (c : Compiler) (plan : Plan Generator) : Prop := ∃ g, c.Makes plan g ∧ ∃ v, g.Draws v

/-- A field that a record declares to be undefined or null, and a partial record to be a number if it
is there. -/
def absentNumber : List Descriptor :=
  [.node 1 (.record [("n", .node 2 .void)]), .node 3 (.partialRecord [("n", .node 4 .number)])]

/-- The generic way leaves the field undefined; the merge asks for a number that is null. -/
theorem not_requiredFieldsDraw_absentNumber : ¬ RequiredFieldsDraw .new absentNumber := by
  intro draw
  obtain ⟨_, w, _, _, accepted⟩ := draw ("n", ⟨[.node 2 .void, .node 4 .number], true⟩)
    (mem_fieldDecls.mpr ⟨rfl, nofun⟩) rfl
  cases w <;> cases accepted

/-- A union with an alternative that nothing is drawn for. -/
def deadAlternative : List Descriptor :=
  [.node 1 (.union [.node 2 .boolean, .node 3 (.intersect [.node 4 .number, .node 5 .string])]),
    .node 6 (.union [.node 7 .boolean])]

theorem not_alternativesDraw_deadAlternative : ¬ AlternativesDraw .new deadAlternative := by
  intro draw
  obtain ⟨source, w, ⟨depth, compiled⟩, drawn⟩ := draw _ List.mem_cons_self _
    (List.mem_cons_of_mem _ List.mem_cons_self)
  have accepted : Descriptor.guardAll [.node 4 .number, .node 5 .string] w = true := by
    cases depth with
    | zero => cases compiled
    | succ depth => exact guardAll_of_resolve compiled drawn
  cases w <;> cases accepted

/-- A compiler with a rule that refuses booleans beside literals. -/
def refusing : Compiler :=
  Compiler.new.registerIntersectionRule "refuse" [.boolean, .literal] fun _ _ =>
    Plan.fail (.invalidArgs "boolean" "refused")

/-- Records that never bring a boolean beside a literal, unless their fields are merged. -/
def flagRecords : List Descriptor :=
  [.node 1 (.record [("f", .node 2 .boolean)]),
    .node 3 (.record [("f", .node 4 (.literal (.bool true)))])]

theorem not_makes_flagRecords (m : Generator) : ¬ refusing.Makes (mergeRecords flagRecords) m := by
  rintro ⟨depth, made⟩
  cases depth with
  | zero => cases made
  | succ depth => cases made

/-! A tape that two fields share makes the draw of one decide about that of the other. -/

/-- True and false in turn. -/
def turns : Generator := .tape 0 [.bool true, .bool false]

/-- Whether the next turn is true. -/
def isEven (tapes : List (Nat × Nat)) : Bool := (tapes.lookup 0).getD 0 % 2 == 0

theorem turns_ok {source : Source} {run after : Run} {v : Value}
    (drawn : turns.draw source run = .ok v after) :
    v = .bool (isEven run.tapes) ∧ isEven after.tapes = !isEven run.tapes := by
  cases drawn
  have stood : isEven run.tapes = (run.drawnFrom 0 % 2 == 0) := rfl
  have moved : isEven ((0, run.drawnFrom 0 + 1) :: run.tapes.filter fun entry => entry.1 != 0) =
      ((run.drawnFrom 0 + 1) % 2 == 0) := rfl
  dsimp only
  rw [moved, stood]
  rcases Nat.mod_two_eq_zero_or_one (run.drawnFrom 0) with even | odd
  · simp [even, Nat.add_mod]
  · simp [odd, Nat.add_mod]

/-- Two turns leave the tape as it was. -/
theorem pair_ok {source : Source} {run after : Run} {v : Value}
    (drawn : (Generator.tupleOf [turns, turns]).draw source run = .ok v after) :
    v = .array [.bool (isEven run.tapes), .bool (!isEven run.tapes)] ∧
      isEven after.tapes = isEven run.tapes := by
  obtain ⟨vs, _, all, last⟩ := Draw.bind_eq_ok drawn
  obtain ⟨first, _, hfirst, rest⟩ := Draw.bind_eq_ok all
  obtain ⟨others, _, rest, hrest⟩ := Draw.bind_eq_ok rest
  obtain ⟨second, _, hsecond, nil⟩ := Draw.bind_eq_ok rest
  cases nil
  cases hrest
  cases last
  obtain ⟨rfl, moved⟩ := turns_ok hfirst
  obtain ⟨rfl, back⟩ := turns_ok hsecond
  rw [back, moved, Bool.not_not]
  exact ⟨rfl, rfl⟩

/-- Two turns, of which the first is given. -/
def twoTurns (first : Bool) : Generator :=
  .filtered (.tupleOf [turns, turns]) none fun v => v.equal (.array [.bool first, .bool !first])

/-- Draws end only if the next turn is this one, and it is the next one again after them. -/
def EndsAt (first : Bool) (g : Generator) : Prop :=
  ∀ source run after v, g.draw source run = .ok v after →
    isEven run.tapes = first ∧ isEven after.tapes = first

theorem endsAt_twoTurns (first : Bool) : EndsAt first (twoTurns first) := by
  intro source run after v drawn
  obtain ⟨before, still, ran, accepted⟩ :=
    Generator.filtered_last (P := fun tapes => isEven tapes = isEven run.tapes)
      (fun _ _ _ still ran => (pair_ok ran).2.trans still) rfl drawn
  obtain ⟨rfl, unmoved⟩ := pair_ok ran
  have same : isEven before.tapes = first := by
    revert accepted
    cases isEven before.tapes <;> cases first <;> simp [Value.equal, Value.equalItems]
  exact ⟨still.symm.trans same, unmoved.trans same⟩

theorem EndsAt.filtered {first : Bool} {g : Generator} {label : Option String}
    {keep : Value → Bool} (ends : EndsAt first g) : EndsAt first (.filtered g label keep) := by
  intro source run after v drawn
  constructor
  · by_contra other
    obtain ⟨before, still, ran, _⟩ :=
      Generator.filtered_last (P := fun tapes => isEven tapes ≠ first)
        (fun _ _ _ other ran => absurd (ends _ _ _ _ ran).1 other) other drawn
    exact still (ends _ _ _ _ ran).1
  · obtain ⟨_, _, ran, _⟩ :=
      Generator.filtered_last (P := fun _ => True) (by simp) trivial drawn
    exact (ends _ _ _ _ ran).2

/-- The predicate of all values. -/
def anything : Predicate := ⟨"anything", fun _ => true⟩

/-- An extension that accepts anything is what any compiler can be held to. -/
theorem answers_anything (c : Compiler) (id : Nat) (name : String) (payload : Json) :
    c.Answers (.node id (.extension name payload anything)) where
  tidy := rfl
  free := rfl
  trusts :=
    { extension := fun mem _ _ _ => by
        cases List.mem_singleton.mp mem
        rfl
      marked := fun mem => nomatch List.mem_singleton.mp mem
      correction := fun mem => nomatch List.mem_singleton.mp mem }

/-- A compiler with strategies that draw two turns each. -/
def turning : Compiler :=
  (Compiler.new.registerStrategy "rise" fun _ _ => pure (twoTurns true)).registerStrategy "fall"
    fun _ _ => pure (twoTurns false)

def turnRecords : List Descriptor :=
  [.node 1 (.record [("a", .node 2 (.extension "rise" .null anything))]),
    .node 3 (.record [("b", .node 4 (.extension "fall" .null anything))])]

/-- The strategies yield what their extensions accept, since these accept anything. -/
theorem turning_trusts : turning.Trusts (.node 0 (.intersect turnRecords)) := by
  have record : ∀ id name other extension, turning.Answers
      (.node id (.record [(name, .node other (.extension extension .null anything))])) :=
    fun _ _ _ _ => .of_parts rfl rfl nofun nofun
      (List.forall_mem_singleton.mpr (answers_anything _ _ _ _))
  have both : turning.Answers (.node 0 (.intersect turnRecords)) :=
    .of_parts rfl rfl nofun nofun (List.forall_mem_cons.mpr
      ⟨record _ _ _ _, List.forall_mem_singleton.mpr (record _ _ _ _)⟩)
  exact both.trusts

/-- Each field can be drawn by itself, from a tape that stands as it wants. -/
theorem requiredFieldsDraw_turnRecords : RequiredFieldsDraw turning turnRecords := by
  have listed : fieldDecls turnRecords =
      [("a", ⟨[.node 2 (.extension "rise" .null anything)], true⟩),
        ("b", ⟨[.node 4 (.extension "fall" .null anything)], true⟩)] := rfl
  intro entry mem required
  rw [listed] at mem
  rcases List.mem_pair.mp mem with rfl | rfl
  · exact ⟨twoTurns true, .array [.bool true, .bool false], ⟨1, rfl⟩,
      ⟨⟨fun _ => 0, 0⟩, .start, ⟨0, 0, none, [(0, 2)]⟩, rfl⟩, rfl⟩
  · exact ⟨twoTurns false, .array [.bool false, .bool true], ⟨1, rfl⟩,
      ⟨⟨fun _ => 0, 0⟩, ⟨0, 0, none, [(0, 1)]⟩, ⟨0, 0, none, [(0, 3)]⟩, rfl⟩, rfl⟩

/-- Where the first field leaves the tape, the second cannot be drawn. -/
theorem not_hasOutcome_turnRecords : ¬ HasOutcome turning (mergeRecords turnRecords) := by
  rintro ⟨m, made, v, drawn⟩
  have rise : EndsAt true (guarded (twoTurns true) "field `a` rejected"
      [.node 2 (.extension "rise" .null anything)]) := (endsAt_twoTurns true).filtered
  have fall : EndsAt false (guarded (twoTurns false) "field `b` rejected"
      [.node 4 (.extension "fall" .null anything)]) := (endsAt_twoTurns false).filtered
  have merged : turning.Makes (mergeRecords turnRecords) (Generator.dropAbsent (.recordOf
      [("a", guarded (twoTurns true) "field `a` rejected"
          [.node 2 (.extension "rise" .null anything)]),
        ("b", guarded (twoTurns false) "field `b` rejected"
          [.node 4 (.extension "fall" .null anything)])]) []) := ⟨1, rfl⟩
  rw [Compiler.makes_iff] at made merged
  rw [← Except.ok.inj (merged.symm.trans made)] at drawn
  obtain ⟨_, ⟨source, run, after, ran⟩, _⟩ := Generator.Draws.of_mapped drawn
  obtain ⟨_, _, ran, _⟩ := Draw.bind_eq_ok ran
  obtain ⟨_, between, first, ran⟩ := Draw.bind_eq_ok ran
  obtain ⟨_, _, ran, _⟩ := Draw.bind_eq_ok ran
  obtain ⟨_, _, second, _⟩ := Draw.bind_eq_ok ran
  exact Bool.false_ne_true ((fall _ _ _ _ second).1.symm.trans (rise _ _ _ _ first).2)

/-- The rule that stands in for the generic way can starve where it does not: for a field whose types
agree on undefined only, for an alternative that is never drawn, and for fields that draw from one
tape, though each can be drawn by itself and the strategies yield what they should. And the merge can
fail to compile where the generic way does not, since it resolves an intersection more. -/
theorem built_in_rules_starve :
    (HasOutcome .new (generic absentNumber) ∧
      ¬ HasOutcome .new (candidate .new absentNumber)) ∧
    (HasOutcome .new (generic deadAlternative) ∧
      ¬ HasOutcome .new (candidate .new deadAlternative)) ∧
    (HasOutcome refusing (generic flagRecords) ∧
      ∀ m, ¬ refusing.Makes (candidate refusing flagRecords) m) ∧
    HasOutcome turning (generic turnRecords) ∧
      turning.Trusts (.node 0 (.intersect turnRecords)) ∧
      RequiredFieldsDraw turning turnRecords ∧
      ¬ HasOutcome turning (candidate turning turnRecords) := by
  refine ⟨⟨?_, ?_⟩, ⟨?_, ?_⟩, ⟨?_, not_makes_flagRecords⟩, ?_, turning_trusts,
    requiredFieldsDraw_turnRecords, not_hasOutcome_turnRecords⟩
  · exact ⟨_, ⟨2, rfl⟩, .object [("n", .undefined)],
      ⟨fun _ => 0, 0⟩, .start, ⟨2, 0, none, []⟩, rfl⟩
  · rintro ⟨m, made, v, drawn⟩
    exact not_requiredFieldsDraw_absentNumber (requiredFieldsDraw_of_draws made drawn)
  · exact ⟨_, ⟨5, rfl⟩, .bool false, ⟨fun _ => 0, 0⟩, .start, ⟨3, 0, none, []⟩, rfl⟩
  · rintro ⟨m, made, v, drawn⟩
    exact not_alternativesDraw_deadAlternative
      (alternativesDraw_of_draws (haveOwnIds_of_nodup (by decide)) made drawn)
  · exact ⟨_, ⟨2, rfl⟩, .object [("f", .bool true)],
      ⟨fun _ => 1, 0⟩, .start, ⟨1, 0, none, []⟩, rfl⟩
  · exact ⟨_, ⟨2, rfl⟩, .object [("a", .array [.bool true, .bool false])],
      ⟨fun _ => 0, 0⟩, .start, ⟨1, 0, none, [(0, 2)]⟩, rfl⟩

end Intersection

end Specimen
