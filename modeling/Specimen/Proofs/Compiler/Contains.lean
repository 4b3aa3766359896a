import Mathlib.Tactic.Common
import Specimen.Compiler.Contains
import Specimen.Proofs.Compiler.Depth
import Specimen.Proofs.Compiler.Step
import Specimen.Proofs.Fields
import Specimen.Proofs.Generator.Idle
import Specimen.Proofs.Generator.Repair

/-!
# What counts is exact

The strategy of the counting constraint repairs its draws and still filters them, by the guard of
the node and its predicate. Whatever it is used on, what it draws has therefore passed both.

Used as intended, on arrays of a type whose items are drawn from that type as well, the filter finds
nothing to reject: elements and extras all belong to the element type, and a repair brings their
count to the wanted one (`countP_repairItems`), which is what the predicate then counts
(`accepted_of_repaired`). The predicate is a program of its own and reads the count anew, so the
agreement is part of what is proved.

What the two generators draw is a hypothesis here and not derived: it is what soundness says of
each.
-/

namespace Specimen

/-- A step compiles what it needs with room for the whole of its node. -/
theorem Compiler.compile_node (c : Compiler) (id : Nat) (shape : Shape) :
    c.compile (.node id shape) = (c.step (.node id shape)).run
      (c.compileWithin (Descriptor.shapeWeight shape + nestingRoom)) := by
  rw [compile, Descriptor.weight, Nat.add_right_comm]
  rfl

namespace Contains

variable {c : Compiler} {compile : Descriptor → Compiled} {node : MarkedConstraint}
  {array element item underlying : Descriptor} {test : Predicate}
  {correction : Option Correction} {args : Args Descriptor} {base extra elements items : Generator}
  {count id maxSize next : Nat} {g : Generator} {v : Value}

/-! ## The strategy -/

/-- What the strategy makes of its two generators, and what it asks of the values. -/
def repairing (node : MarkedConstraint) (item : Descriptor) (count : Nat) (base extra : Generator) :
    Generator :=
  .filtered (.mended base extra count item.guard) (some "contains repair missed")
    fun v => node.underlying.guard v && node.predicate.test v

/-- The strategy needs an item type, a count within the limit, and both generators. -/
theorem run_strategy_eq_ok : (strategy maxSize node).run compile = .ok g ↔
    ∃ item count base extra, Fields.get? node.args.types "item" = some item ∧
      (countOf node.args).run compile = .ok count ∧ count ≤ limit maxSize ∧
      compile node.underlying = .ok base ∧ compile item = .ok extra ∧
      g = repairing node item count base extra := by
  unfold strategy
  cases found : Fields.get? node.args.types "item" with
  | none =>
    constructor
    · intro ran
      cases ran
    · rintro ⟨item, _, _, _, same, _⟩
      cases same
  | some item =>
    rw [Plan.run_bind_eq_ok]
    constructor
    · rintro ⟨_, ⟨⟩, ran⟩
      obtain ⟨count, counted, ran⟩ := Plan.run_bind_eq_ok.mp ran
      split at ran
      case isTrue => cases ran
      case isFalse small =>
        obtain ⟨base, hbase, ran⟩ := Plan.run_bind_eq_ok.mp ran
        obtain ⟨extra, hextra, ran⟩ := Plan.run_bind_eq_ok.mp ran
        rw [Plan.run_generatorOf] at hbase hextra
        cases ran
        exact ⟨item, count, base, extra, rfl, counted, Nat.not_lt.mp small, hbase, hextra, rfl⟩
    · rintro ⟨_, count, base, extra, ⟨⟩, counted, small, hbase, hextra, rfl⟩
      refine ⟨item, rfl, Plan.run_bind_eq_ok.mpr ⟨count, counted, ?_⟩⟩
      rw [if_neg (Nat.not_lt.mpr small)]
      refine Plan.run_bind_eq_ok.mpr ⟨base, (Plan.run_generatorOf _ _).trans hbase, ?_⟩
      exact Plan.run_bind_eq_ok.mpr ⟨extra, (Plan.run_generatorOf _ _).trans hextra, rfl⟩

/-- The strategy stands behind every constraint of its tag. -/
theorem run_step_counted (registered : Fields.get? c.customConstraints tag = some strategy)
    (marked : args.tag = tag) :
    (c.step (.node id (.constraint underlying test correction (some args)))).run compile =
      (strategy c.maxSize ⟨underlying, test, correction, args⟩).run compile := by
  have marking : Descriptor.marking (some args) = some args := by
    rw [Descriptor.marking, Option.filter_some, marked]
    exact if_pos (by decide)
  simp only [Compiler.step, Descriptor.shape, Compiler.compileConstraint, marking, marked,
    registered]

/-- Whatever it is used on, what is drawn has passed the guard and the predicate of the node. -/
theorem accepted_of_counted (registered : Fields.get? c.customConstraints tag = some strategy)
    (marked : args.tag = tag)
    (compiled : c.compile (.node id (.constraint underlying test correction (some args))) =
      .ok g) (drawn : g.Draws v) : underlying.guard v = true ∧ test.test v = true := by
  rw [Compiler.compile_node, run_step_counted registered marked] at compiled
  obtain ⟨item, count, base, extra, _, _, _, _, _, rfl⟩ := run_strategy_eq_ok.mp compiled
  exact (Bool.and_eq_true _ _).mp drawn.of_filtered.2

/-! ## Arrays with so many items -/

/-- The arguments that ask for so many items of a type. -/
def argsOf (item : Descriptor) (count : Nat) : Args Descriptor :=
  ((Args.new tag).withParam "count" (Json.ofInt count)).withType "item" item

theorem arrayWith_eq (array item : Descriptor) (count next : Nat) :
    (arrayWith array item count).run next =
      (.node next (.constraint array (predicate item count) none (some (argsOf item count))),
        next + 1) := rfl

/-- A count of sixty-four bits is read back as it was written. -/
theorem countOf_argsOf (small : count ≤ countLimit) : countOf (argsOf item count) = pure count := by
  have fits : -0x8000000000000000 ≤ (count : Int) ∧ (count : Int) < 0x10000000000000000 := by
    unfold countLimit at small
    omega
  have read : Fields.get? (argsOf item count).params "count" =
      some (.number (.integer count fits)) := by
    change some (Json.ofInt count) = _
    rw [Json.ofInt, Numeral.ofInt?, dif_pos fits]
    rfl
  rw [countOf, read]
  exact (if_pos (Int.natCast_nonneg count)).trans (by rw [Int.toNat_natCast])

theorem le_limit_iff (small : count ≤ countLimit) :
    count ≤ limit maxSize ↔ count ≤ headroom * max 1 maxSize := by
  rw [limit, Nat.le_min, Nat.mul_comm, Nat.max_comm]
  exact and_iff_left small

/-- The constraint on what two types compile to is compiled on nothing else. -/
theorem compile_arrayWith (registered : Fields.get? c.customConstraints tag = some strategy)
    (small : count ≤ countLimit) (few : count ≤ headroom * max 1 c.maxSize)
    (helements : c.compile element = .ok elements) (hitems : c.compile item = .ok items) :
    c.compile ((arrayWith (.node id (.array element)) item count).run next).1 =
      .ok (repairing ⟨.node id (.array element), predicate item count, none, argsOf item count⟩ item
        count (.array elements c.maxSize) items) := by
  rw [arrayWith_eq, Compiler.compile_node, run_step_counted registered rfl, run_strategy_eq_ok]
  -- both types lie below the node, so there is more room for them than they have by themselves
  have weight : Descriptor.shapeWeight (.constraint (.node id (.array element))
      (predicate item count) none (some (argsOf item count))) =
        element.weight + 1 + (item.weight + 0) := rfl
  have inner : c.compileWithin (element.weight + (item.weight + Compiler.nestingRoom)) element =
      .ok elements := c.compileWithin_of_le (by omega) helements
  have outer : c.compileWithin (element.weight + (item.weight + Compiler.nestingRoom) + 1) item =
      .ok items := c.compileWithin_of_le (by omega) hitems
  have room : element.weight + 1 + (item.weight + 0) + Compiler.nestingRoom =
      element.weight + (item.weight + Compiler.nestingRoom) + 1 := by omega
  rw [weight, room]
  refine ⟨item, count, _, items, rfl, ?_, (le_limit_iff small).mpr few, ?_, outer, rfl⟩
  · exact congrArg (Plan.run _) (countOf_argsOf small)
  · exact Compiler.run_step_array.mpr ⟨elements, inner, rfl⟩

/-- A count beyond the limit is an error of the arguments, whatever the types. -/
theorem compile_arrayWith_of_lt (registered : Fields.get? c.customConstraints tag = some strategy)
    (small : count ≤ countLimit) (many : headroom * max 1 c.maxSize < count) :
    c.compile ((arrayWith array item count).run next).1 =
      .error (.error (.invalidArgs tag ("`count` " ++ toString count ++ " exceeds the limit of " ++
        toString (limit c.maxSize) ++ " for collection size " ++ toString c.maxSize))) := by
  have beyond : limit c.maxSize < count :=
    Nat.not_le.mp ((le_limit_iff small).not.mpr (Nat.not_le.mpr many))
  have given : Fields.get? (argsOf item count).types "item" = some item := rfl
  rw [arrayWith_eq, Compiler.compile_node, run_step_counted registered rfl, strategy]
  simp only [given, countOf_argsOf small]
  change (if limit c.maxSize < count then _ else _ : Plan Generator).run _ = _
  rw [if_pos beyond]
  rfl

/-- Whatever members, extras and slots are drawn, the repaired array passes the filter. -/
theorem accepted_of_repaired {node : MarkedConstraint} {members extras : List Value}
    {slots : List Nat} (refines : node.underlying = .node id (.array element))
    (counts : node.predicate = predicate item count)
    (belong : ∀ m ∈ members, element.guard m = true)
    (matching : ∀ e ∈ extras, item.guard e = true ∧ element.guard e = true)
    (enough : extras.length = count) (placed : slots.length = count) :
    (node.underlying.guard ((Value.array members).repair item.guard count extras slots) &&
      node.predicate.test ((Value.array members).repair item.guard count extras slots)) = true := by
  have counted := countP_repairItems members (fun e mem => (matching e mem).1) enough placed
  have belongs : ∀ m ∈ repairItems item.guard count members extras slots,
      element.guard m = true := by
    intro m mem
    rcases mem_of_mem_repairItems mem with extra | member
    · exact (matching m extra).2
    · exact belong m member
  rw [refines, counts, Value.repair, Bool.and_eq_true]
  refine ⟨List.all_eq_true.mpr belongs, ?_⟩
  change (some ((repairItems item.guard count members extras slots).countP item.guard) ==
    some count) = true
  rw [counted]
  exact beq_self_eq_true _

/-- What passes the filter is an array of the element type with so many items. -/
theorem exact_of_accepted (belongs : (Descriptor.node id (.array element)).guard v = true)
    (counts : (predicate item count).test v = true) :
    ∃ members, v = .array members ∧ (∀ m ∈ members, element.guard m = true) ∧
      members.countP item.guard = count := by
  cases v with
  | array members =>
    refine ⟨members, rfl, List.all_eq_true.mp belongs, ?_⟩
    exact Option.some.inj (eq_of_beq counts)
  | _ => cases belongs

/-- With the strategy registered, a constraint to `count` items on arrays of a type keeps its word.

Counts are of sixty-four bits. Within the limit on them, and if items are drawn from what both types
accept and elements from what theirs does, it compiles to a repair behind a filter. Every value
drawn is an array whose elements all belong to the type and of which exactly `count` are items; and
the filter rejects nothing: it keeps every repaired array, whatever its members, extras and slots,
so its draws are those of the repair, rejection by rejection. Beyond the limit the arguments are an
error. And whatever else the tag is put on, what is drawn satisfies the underlying type and the
predicate. -/
theorem counted_arrays_are_exact (c : Compiler)
    (registered : Fields.get? c.customConstraints tag = some strategy) :
    (∀ (element item : Descriptor) (elements items : Generator) (count id next : Nat),
      count ≤ countLimit → count ≤ headroom * max 1 c.maxSize →
      c.compile element = .ok elements → c.compile item = .ok items →
      (∀ v, elements.Draws v → element.guard v = true) →
      (∀ v, items.Draws v → item.guard v = true ∧ element.guard v = true) →
      ∃ repaired keep,
        c.compile ((arrayWith (.node id (.array element)) item count).run next).1 =
          .ok (.filtered repaired (some "contains repair missed") keep) ∧
        (∀ v, (Generator.filtered repaired (some "contains repair missed") keep).Draws v →
          ∃ members, v = .array members ∧ (∀ m ∈ members, element.guard m = true) ∧
            members.countP item.guard = count) ∧
        (∀ members extras slots, (∀ m ∈ members, element.guard m = true) →
          (∀ e ∈ extras, item.guard e = true ∧ element.guard e = true) →
          extras.length = count → slots.length = count →
          keep ((Value.array members).repair item.guard count extras slots) = true) ∧
        ∀ source run, run.spent ≤ source.budget →
          (Generator.filtered repaired (some "contains repair missed") keep).draw source run =
            repaired.draw source run) ∧
    (∀ (array item : Descriptor) (count next : Nat),
      count ≤ countLimit → headroom * max 1 c.maxSize < count →
      ∃ reason, c.compile ((arrayWith array item count).run next).1 =
        .error (.error (.invalidArgs tag reason))) ∧
    (∀ (underlying : Descriptor) (test : Predicate) (correction : Option Correction)
      (args : Args Descriptor) (id : Nat) (g : Generator) (v : Value), args.tag = tag →
      c.compile (.node id (.constraint underlying test correction (some args))) = .ok g →
      g.Draws v → underlying.guard v = true ∧ test.test v = true) := by
  refine ⟨?_, ?_, ?_⟩
  · intro element item elements items count id next small few helements hitems belong matching
    let node : MarkedConstraint :=
      ⟨.node id (.array element), predicate item count, none, argsOf item count⟩
    let keep : Value → Bool := fun v => node.underlying.guard v && node.predicate.test v
    -- what a repair makes is accepted, whichever extras and slots were drawn for it
    have passes : ∀ members extras slots, (∀ m ∈ members, element.guard m = true) →
        (∀ e ∈ extras, item.guard e = true ∧ element.guard e = true) →
        extras.length = count → slots.length = count →
        keep ((Value.array members).repair item.guard count extras slots) = true :=
      fun members extras slots belong matching enough placed =>
        have refines : node.underlying = .node id (.array element) := rfl
        accepted_of_repaired refines rfl belong matching enough placed
    refine ⟨.mended (.array elements c.maxSize) items count item.guard, keep,
      compile_arrayWith registered small few helements hitems, ?_, passes, ?_⟩
    · intro v drawn
      obtain ⟨belongs, counts⟩ := (Bool.and_eq_true _ _).mp drawn.of_filtered.2
      exact exact_of_accepted belongs counts
    · intro source run within
      refine Generator.alike_filtered_of_kept ?_ within
      intro v drawn
      obtain ⟨w, extras, slots, array, enough, each, placed, rfl⟩ := drawn.of_mended
      obtain ⟨members, rfl, _, inner⟩ := array.of_array
      exact passes members extras slots (fun m mem => belong m (inner m mem))
        (fun e mem => matching e (each e mem)) enough placed
  · intro array item count next small many
    exact ⟨_, compile_arrayWith_of_lt registered small many⟩
  · intro underlying test correction args id g v marked compiled drawn
    exact accepted_of_counted registered marked compiled drawn

/-- Arrays of truth values with exactly two truths among them are compiled, drawn, and have two. -/
theorem two_truths_are_drawn :
    ∃ g, (register .new).compile ((arrayWith (.node 1 (.array (.node 0 .boolean)))
        (.node 2 (.literal (.bool true))) 2).run 3).1 = .ok g ∧
      (∃ v, g.Draws v) ∧ ∀ v, g.Draws v → ∃ members, v = .array members ∧
        members.countP (Descriptor.node 2 (.literal (.bool true))).guard = 2 := by
  obtain ⟨repaired, keep, compiled, exactly, _, same⟩ :=
    (counted_arrays_are_exact (register .new) rfl).1 (.node 0 .boolean)
      (.node 2 (.literal (.bool true))) .boolean (.constant (.bool true)) 2 1 3 (by decide)
      (by decide) rfl rfl
      (fun v drawn => by obtain ⟨b, rfl⟩ := drawn.of_boolean; rfl)
      (fun v drawn => by rw [drawn.of_constant]; exact ⟨rfl, rfl⟩)
  refine ⟨_, compiled, ?_, ?_⟩
  · cases compiled
    exact ⟨.array [.bool true, .bool true], ⟨fun _ => 0, 0⟩, .start, _, rfl⟩
  · intro v drawn
    obtain ⟨members, array, _, two⟩ := exactly v drawn
    exact ⟨members, array, two⟩

end Contains

end Specimen
