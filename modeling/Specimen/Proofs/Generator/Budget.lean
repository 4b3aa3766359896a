import Mathlib.Data.ENat.Lattice
import Mathlib.Order.CompleteBooleanAlgebra
import Mathlib.Order.CompletePartialOrder
import Specimen.Proofs.Generator.Induction
import Specimen.Proofs.Generator.Patience

/-!
# The budget decides failure alone

The budget of a run is one number for all filters of a generator and all draws of the run, and it
has no part in what is drawn. How often the first draws reject is settled by the generator and the
choices (`rejections`), and the budget is compared with that number and nothing else: it is enough
for so many draws exactly if they reject no more often (`budget_only_decides_failure`).

The number is that of the draws without a budget, whose searches go on for as many rounds as they
are given (`drawBy`, which interprets a generator as `draw` does by `drawBy_untilKept`). It is
infinite where a search never ends. The induction over the combinators is `metered_drawBy`.
-/

namespace Specimen

namespace Draw

/-- Forgets which filter rejected last. -/
def unblamed : Draw Unit := fun _ run => .ok () { run with blamed := none }

/-! ## Computations without a search -/

namespace Metered

/-- Forgetting whom to blame costs nothing. -/
theorem unblamed : Metered unblamed fun _ => unblamed where
  unbudgeted _ _ _ _ _ := rfl
  counted _ _ _ := Nat.le_refl _
  further _ _ _ := .refl _
  succeeds within ran := by
    cases ran
    exact ⟨within, 0, rfl⟩
  starves _ ran := by cases ran

end Metered

/-- Where nothing is searched, patience makes no difference. -/
theorem closed_metered : Closed fun _ d => Metered d fun _ => d :=
  ⟨Metered.pure, Metered.word, Metered.bind⟩

end Draw

namespace Generator

/-! ## Drawing by other searches -/

mutual

/-- One draw in which every search is of a given kind. -/
def drawBy (search : Draw.Search) : Generator → Draw Value
  | .constant v => return v
  | .boolean => do return .bool ((← Draw.below 2) == 1)
  | .number => do return .number (← Draw.number)
  | .text => do return .string (← Draw.text)
  | .void => do return if (← Draw.below 2) == 0 then .undefined else .null
  | .callable => do return .callable ⟨← Draw.word⟩
  | .json depth => Draw.json depth
  | .tape id values => Draw.fromTape id values
  | .array element most => do
    let size ← Draw.below (most + 1)
    return .array (← Draw.times (drawBy search element) size)
  | .dictionary value most => do
    let size ← Draw.below (most + 1)
    let pairs ← Draw.times (do return (← Draw.text, ← drawBy search value)) size
    return .object (Fields.ofPairs pairs)
  | .oneOf first others => do
    match ← Draw.below (others.length + 1) with
    | 0 => drawBy search first
    | index + 1 => drawAtBy search others index
  | .tupleOf components => do return .array (← drawAllBy search components)
  | .recordOf fields => do return .object (Fields.ofPairs (← drawFieldsBy search fields))
  | .mapped source f => do return f (← drawBy search source)
  | .filtered source label keep =>
    search label do
      let v ← drawBy search source
      return if keep v then some v else none
  | .rotated candidates label keep =>
    search (some label) do
      let drawn ← drawAllBy search candidates
      return firstKept keep drawn (← Draw.below drawn.length)
  | .mended base extra count accepts => do
    let v ← drawBy search base
    let extras ← Draw.times (drawBy search extra) count
    let slots ← Draw.times Draw.word count
    return v.repair accepts count extras (slots.map UInt64.toNat)

/-- One draw from each, in order, by the same search. -/
def drawAllBy (search : Draw.Search) : List Generator → Draw (List Value)
  | [] => return []
  | g :: rest => do
    let first ← drawBy search g
    return first :: (← drawAllBy search rest)

/-- One draw from the option of an index, by the same search. -/
def drawAtBy (search : Draw.Search) : List Generator → Nat → Draw Value
  | [], _ => return .undefined
  | g :: _, 0 => drawBy search g
  | _ :: rest, index + 1 => drawAtBy search rest index

/-- One draw from each, in order, under its name, by the same search. -/
def drawFieldsBy (search : Draw.Search) :
    List (String × Generator) → Draw (List (String × Value))
  | [] => return []
  | (name, g) :: rest => do
    let first ← drawBy search g
    return (name, first) :: (← drawFieldsBy search rest)

end

mutual

/-- A draw is one whose searches hold every rejection against the budget. -/
theorem drawBy_untilKept : ∀ g : Generator, g.drawBy Draw.untilKept = g.draw
  | .constant _ | .boolean | .number | .text | .void | .callable | .json _ | .tape _ _ => rfl
  | .array element most => by rw [drawBy, drawBy_untilKept element, draw]
  | .dictionary value most => by rw [drawBy, drawBy_untilKept value, draw]
  | .oneOf first others => by
    refine congrArg (Draw.below (others.length + 1) >>= ·) (funext fun index => ?_)
    cases index with
    | zero => exact drawBy_untilKept first
    | succ index => exact drawAtBy_untilKept others index
  | .tupleOf components => by rw [drawBy, drawAllBy_untilKept components, draw]
  | .recordOf fields => by rw [drawBy, drawFieldsBy_untilKept fields, draw]
  | .mapped source f => by rw [drawBy, drawBy_untilKept source, draw]
  | .filtered source label keep => by rw [drawBy, drawBy_untilKept source, draw]
  | .rotated candidates label keep => by rw [drawBy, drawAllBy_untilKept candidates, draw]
  | .mended base extra count accepts => by
    rw [drawBy, drawBy_untilKept base, drawBy_untilKept extra, draw]

theorem drawAllBy_untilKept : ∀ gs : List Generator, drawAllBy Draw.untilKept gs = drawAll gs
  | [] => rfl
  | g :: rest => by rw [drawAllBy, drawBy_untilKept g, drawAllBy_untilKept rest, drawAll]

theorem drawAtBy_untilKept : ∀ (gs : List Generator) (index : Nat),
    drawAtBy Draw.untilKept gs index = drawAt gs index
  | [], _ => rfl
  | g :: _, 0 => drawBy_untilKept g
  | _ :: rest, index + 1 => drawAtBy_untilKept rest index

/-- Drawing by the search that the budget bounds is drawing. -/
theorem drawFieldsBy_untilKept : ∀ fields : List (String × Generator),
    drawFieldsBy Draw.untilKept fields = drawFields fields
  | [] => rfl
  | (name, g) :: rest => by
    rw [drawFieldsBy, drawBy_untilKept g, drawFieldsBy_untilKept rest, drawFields]

end

mutual

/-- Under a budget a draw is the patient one cut off, whatever the generator is made of. -/
theorem metered_drawBy : ∀ g : Generator,
    (g.drawBy Draw.untilKept).Metered fun rounds => g.drawBy (Draw.patiently rounds)
  | .constant _ => .pure _
  | .boolean => (Draw.closed_metered.below 2).bind fun _ => .pure _
  | .number => Draw.closed_metered.number.bind fun _ => .pure _
  | .text => Draw.closed_metered.text.bind fun _ => .pure _
  | .void => (Draw.closed_metered.below 2).bind fun _ => .pure _
  | .callable => Draw.Metered.word.bind fun _ => .pure _
  | .json depth => Draw.closed_metered.json depth
  | .tape id values => .fromTape id values
  | .array element most =>
    (Draw.closed_metered.below _).bind fun _ =>
      ((metered_drawBy element).times _).bind fun _ => .pure _
  | .dictionary value most =>
    (Draw.closed_metered.below _).bind fun size => Draw.Metered.bind
      (.times (Draw.closed_metered.text.bind fun _ =>
        (metered_drawBy value).bind fun _ => .pure _) size) fun _ => .pure _
  | .oneOf first others => by
    refine (Draw.closed_metered.below (others.length + 1)).bind fun index => ?_
    cases index with
    | zero => exact metered_drawBy first
    | succ index => exact metered_drawAtBy others index
  | .tupleOf components => (metered_drawAllBy components).bind fun _ => .pure _
  | .recordOf fields => (metered_drawFieldsBy fields).bind fun _ => .pure _
  | .mapped source _ => (metered_drawBy source).bind fun _ => .pure _
  | .filtered source _ _ => .untilKept ((metered_drawBy source).bind fun _ => .pure _)
  | .rotated candidates _ _ =>
    .untilKept ((metered_drawAllBy candidates).bind fun _ =>
      (Draw.closed_metered.below _).bind fun _ => .pure _)
  | .mended base extra count _ =>
    (metered_drawBy base).bind fun _ => ((metered_drawBy extra).times _).bind fun _ =>
      (Draw.Metered.word.times _).bind fun _ => .pure _

theorem metered_drawAllBy : ∀ gs : List Generator,
    (drawAllBy Draw.untilKept gs).Metered fun rounds => drawAllBy (Draw.patiently rounds) gs
  | [] => .pure _
  | g :: rest => (metered_drawBy g).bind fun _ => (metered_drawAllBy rest).bind fun _ => .pure _

theorem metered_drawAtBy : ∀ (gs : List Generator) (index : Nat),
    (drawAtBy Draw.untilKept gs index).Metered fun rounds =>
      drawAtBy (Draw.patiently rounds) gs index
  | [], _ => .pure _
  | g :: _, 0 => metered_drawBy g
  | _ :: rest, index + 1 => metered_drawAtBy rest index

theorem metered_drawFieldsBy : ∀ fields : List (String × Generator),
    (drawFieldsBy Draw.untilKept fields).Metered fun rounds =>
      drawFieldsBy (Draw.patiently rounds) fields
  | [] => .pure _
  | (_, g) :: rest =>
    (metered_drawBy g).bind fun _ => (metered_drawFieldsBy rest).bind fun _ => .pure _

end

/-! ## Runs of draws -/

variable {g : Generator} {source : Source} {run between after : Run} {choices : Choices}
  {budget more n : Nat} {v : Value} {vs : List Value} {e : GenError}

/-- So many draws in which every search is of a given kind; blame starts anew with each. -/
def drawsBy (search : Draw.Search) (g : Generator) (n : Nat) : Draw (List Value) :=
  Draw.times (do Draw.unblamed; g.drawBy search) n

/-- Several values in a row are metered as one computation, across which the budget is spent. -/
theorem metered_drawsBy (g : Generator) (n : Nat) :
    (drawsBy Draw.untilKept g n).Metered fun rounds => drawsBy (Draw.patiently rounds) g n :=
  (Draw.Metered.unblamed.bind fun _ => metered_drawBy g).times n

/-- How often a runner has rejected after so many more draws of a generator, over all its filters
and all its draws, if no rejection is held against it. -/
noncomputable def rejections (g : Generator) (choices : Choices) (run : Run) (n : Nat) : ENat :=
  ⨆ rounds, ((Draw.lastRun
    (drawsBy (Draw.patiently rounds) g n ⟨choices, 0⟩ run)).spent : ENat)

/-- The draw after the first `n` is the one that fails. -/
def FailsAfter (g : Generator) (source : Source) (run : Run) (n : Nat) (e : GenError)
    (after : Run) : Prop :=
  ∃ vs between, g.sample source n run = (.ok vs, between) ∧
    g.next source between = (.error e, after)

/-- What is told of draws: their results, or that the budget was spent and by whom. -/
def told {α : Type} : EStateM.Result Unit Run α → Except GenError α × Run
  | .ok a after => (.ok a, after)
  | .error () after => (.error (.retryBudgetExceeded (starvedReason after.blamed)), after)

theorem told_eq_ok {α : Type} {result : EStateM.Result Unit Run α} {a : α} :
    told result = (.ok a, after) ↔ result = .ok a after := by
  cases result with
  | ok b last => simp [told]
  | error _ last => simp [told]

/-- A starved draw is told as the error that names whom to blame. -/
theorem told_eq_error {α : Type} {result : EStateM.Result Unit Run α} :
    told result = (.error e, after) ↔
      result = .error () after ∧ e = .retryBudgetExceeded (starvedReason after.blamed) := by
  cases result with
  | ok b last => simp [told]
  | error _ last =>
    simp only [told, Prod.mk.injEq, Except.error.injEq, EStateM.Result.error.injEq, true_and]
    constructor
    · rintro ⟨rfl, rfl⟩
      exact ⟨rfl, rfl⟩
    · rintro ⟨rfl, rfl⟩
      exact ⟨rfl, rfl⟩

/-- Each value is drawn with nobody to blame yet. -/
theorem next_eq (g : Generator) (source : Source) (run : Run) :
    g.next source run = told (g.draw source { run with blamed := none }) := by
  unfold next
  cases g.draw source { run with blamed := none } with
  | ok => rfl
  | error => rfl

/-- A sample is its draws one after the other. -/
theorem sample_eq (g : Generator) (source : Source) : ∀ (n : Nat) (run : Run),
    g.sample source n run = told (drawsBy Draw.untilKept g n source run)
  | 0, _ => rfl
  | n + 1, run => by
    have first : ∀ {result}, g.draw source { run with blamed := none } = result →
        (do Draw.unblamed; g.drawBy Draw.untilKept : Draw Value) source run = result := by
      intro result ran
      rw [drawBy_untilKept]
      exact (Draw.bind_of_ok (a := ()) rfl).trans ran
    rw [sample, next_eq]
    cases ran : g.draw source { run with blamed := none } with
    | ok v between =>
      have rest : drawsBy Draw.untilKept g (n + 1) source run =
          (do return v :: (← drawsBy Draw.untilKept g n) : Draw _) source between :=
        Draw.bind_of_ok (first ran)
      rw [rest]
      simp only [told]
      rw [sample_eq g source n between]
      cases others : drawsBy Draw.untilKept g n source between with
      | ok vs after => rw [Draw.bind_of_ok others]; rfl
      | error _ after => rw [Draw.bind_of_error others]; rfl
    | error _ between =>
      have rest : drawsBy Draw.untilKept g (n + 1) source run = .error () between :=
        Draw.bind_of_error (first ran)
      rw [rest]
      rfl

/-! ### Where a run fails -/

/-- A sample succeeds if its first value does, and then the others with what is left of the budget.
-/
theorem sample_succ_eq_ok :
    g.sample source (n + 1) run = (.ok vs, after) ↔ ∃ v between rest,
      g.next source run = (.ok v, between) ∧ g.sample source n between = (.ok rest, after) ∧
        vs = v :: rest := by
  rw [sample]
  rcases g.next source run with ⟨_ | v, between⟩
  · simp
  · dsimp only
    rcases others : g.sample source n between with ⟨_ | rest, last⟩
    · simp [others]
    · simp [others, eq_comm, and_comm]

/-- It fails if its first value does or, after it, one of the others. -/
theorem sample_succ_eq_error :
    g.sample source (n + 1) run = (.error e, after) ↔ g.next source run = (.error e, after) ∨
      ∃ v between, g.next source run = (.ok v, between) ∧
        g.sample source n between = (.error e, after) := by
  rw [sample]
  rcases g.next source run with ⟨_ | v, between⟩
  · simp
  · dsimp only
    rcases others : g.sample source n between with ⟨_ | rest, last⟩
    · simp [others]
    · simp [others]

/-- A draw after others is the last of a longer sample. -/
theorem sample_succ_of_ok : ∀ {n : Nat} {run : Run} {vs : List Value},
    g.sample source n run = (.ok vs, between) → g.next source between = (.ok v, after) →
      g.sample source (n + 1) run = (.ok (vs ++ [v]), after)
  | 0, run, vs, sampled, drawn => by
    cases sampled
    exact sample_succ_eq_ok.mpr ⟨v, after, [], drawn, rfl, rfl⟩
  | n + 1, run, vs, sampled, drawn => by
    obtain ⟨w, here, rest, first, others, rfl⟩ := sample_succ_eq_ok.mp sampled
    exact sample_succ_eq_ok.mpr ⟨w, here, _, first, sample_succ_of_ok others drawn, rfl⟩

/-- If the draw after the first ones fails, the sample that includes it fails, and for that reason.
-/
theorem FailsAfter.sample_succ : ∀ {n : Nat} {run : Run}, g.FailsAfter source run n e after →
    g.sample source (n + 1) run = (.error e, after)
  | 0, run, ⟨vs, between, sampled, failed⟩ => by
    cases sampled
    exact sample_succ_eq_error.mpr (.inl failed)
  | n + 1, run, ⟨vs, between, sampled, failed⟩ => by
    obtain ⟨w, here, rest, first, others, rfl⟩ := sample_succ_eq_ok.mp sampled
    exact sample_succ_eq_error.mpr
      (.inr ⟨w, here, first, FailsAfter.sample_succ ⟨_, _, others, failed⟩⟩)

/-- A sample fails with one of its draws. -/
theorem failsAfter_of_sample : ∀ {n : Nat} {run : Run},
    g.sample source n run = (.error e, after) → ∃ i < n, g.FailsAfter source run i e after
  | 0, run, sampled => by cases sampled
  | n + 1, run, sampled => by
    rcases sample_succ_eq_error.mp sampled with failed | ⟨v, here, first, others⟩
    · exact ⟨0, Nat.succ_pos n, [], run, rfl, failed⟩
    · obtain ⟨i, lt, vs, between, before, failed⟩ := failsAfter_of_sample others
      exact ⟨i + 1, Nat.succ_lt_succ lt, v :: vs, between,
        sample_succ_eq_ok.mpr ⟨v, here, vs, first, before, rfl⟩, failed⟩

/-! ### The budget -/

/-- How often a sample rejects is no more than a bound if no amount of patience makes it more. -/
theorem rejections_le_iff (g : Generator) (choices : Choices) (run : Run) (n budget : Nat) :
    g.rejections choices run n ≤ budget ↔ ∀ rounds, (Draw.lastRun
      (drawsBy (Draw.patiently rounds) g n ⟨choices, budget⟩ run)).spent ≤ budget := by
  refine iSup_le_iff.trans (forall_congr' fun rounds => ?_)
  rw [(metered_drawsBy g n).unbudgeted rounds choices 0 budget run]
  exact Nat.cast_le

/-- A sample succeeds exactly if its draws reject no more often than the budget allows. -/
theorem sample_succeeds_iff (within : run.spent ≤ budget) :
    (∃ vs after, g.sample ⟨choices, budget⟩ n run = (.ok vs, after)) ↔
      g.rejections choices run n ≤ budget := by
  rw [rejections_le_iff, ← (metered_drawsBy g n).ends_iff within]
  simp only [sample_eq, told_eq_ok]

/-- What is sampled within a budget is sampled within a larger one. -/
theorem sample_of_le (within : run.spent ≤ budget) (le : budget ≤ more)
    (sampled : g.sample ⟨choices, budget⟩ n run = (.ok vs, after)) :
    g.sample ⟨choices, more⟩ n run = (.ok vs, after) := by
  rw [sample_eq, told_eq_ok] at sampled ⊢
  exact (metered_drawsBy g n).ok_of_le within le sampled

/-- A draw within a budget leaves a runner within it, and is the same within a larger one. -/
theorem next_of_le (within : run.spent ≤ budget)
    (drawn : g.next ⟨choices, budget⟩ run = (.ok v, after)) :
    after.spent ≤ budget ∧ ∀ more, budget ≤ more →
      g.next ⟨choices, more⟩ run = (.ok v, after) := by
  have metered := metered_drawBy g
  rw [drawBy_untilKept] at metered
  rw [next_eq, told_eq_ok] at drawn
  refine ⟨(metered.succeeds within drawn).1, fun more le => ?_⟩
  rw [next_eq, told_eq_ok]
  exact metered.ok_of_le within le drawn

/-- A draw fails exactly where the rejections first exceed the budget. -/
theorem failsAfter_iff (within : run.spent ≤ budget) :
    (∃ e after, g.FailsAfter ⟨choices, budget⟩ run n e after) ↔
      g.rejections choices run n ≤ budget ∧ budget < g.rejections choices run (n + 1) := by
  rw [← not_le, ← sample_succeeds_iff within, ← sample_succeeds_iff within]
  constructor
  · rintro ⟨e, after, fails⟩
    obtain ⟨vs, between, sampled, _⟩ := id fails
    refine ⟨⟨vs, between, sampled⟩, ?_⟩
    rintro ⟨ws, last, succeeds⟩
    cases fails.sample_succ.symm.trans succeeds
  · rintro ⟨⟨vs, between, sampled⟩, starves⟩
    rcases drawn : g.next ⟨choices, budget⟩ between with ⟨e | v, after⟩
    · exact ⟨e, after, vs, between, sampled, drawn⟩
    · exact absurd ⟨_, _, sample_succ_of_ok sampled drawn⟩ starves

/-- For any generator, any choices and any state a runner may be in, the budget has no other part
than this. A sample within a budget is the same within a larger one; it is within it exactly if the
runner then has rejected no more often than the budget allows; the draw at which it fails is the
first during which the rejections would exceed the budget, which is spent by then. -/
theorem budget_only_decides_failure (g : Generator) (choices : Choices) (run : Run) (budget : Nat)
    (within : run.spent ≤ budget) :
    (∀ n vs after, g.sample ⟨choices, budget⟩ n run = (.ok vs, after) → ∀ more, budget ≤ more →
      g.sample ⟨choices, more⟩ n run = (.ok vs, after)) ∧
    (∀ n, (∃ vs after, g.sample ⟨choices, budget⟩ n run = (.ok vs, after)) ↔
      g.rejections choices run n ≤ budget) ∧
    (∀ n, (∃ e after, g.FailsAfter ⟨choices, budget⟩ run n e after) ↔
      g.rejections choices run n ≤ budget ∧ budget < g.rejections choices run (n + 1)) ∧
    (∀ n e after, g.sample ⟨choices, budget⟩ n run = (.error e, after) →
      after.spent = budget ∧ (∃ reason, e = .retryBudgetExceeded reason) ∧
        ∃ i < n, g.FailsAfter ⟨choices, budget⟩ run i e after) := by
  refine ⟨fun n vs after sampled more le => sample_of_le within le sampled,
    fun n => sample_succeeds_iff within, fun n => failsAfter_iff within, fun n e after sampled => ?_⟩
  refine ⟨?_, ?_, failsAfter_of_sample sampled⟩
  · rw [sample_eq, told_eq_error] at sampled
    exact ((metered_drawsBy g n).starves within sampled.1).1
  · rw [sample_eq, told_eq_error] at sampled
    exact ⟨_, sampled.2⟩

/-- Booleans of a tape in turn, the false ones rejected under a label. -/
def picky : Generator :=
  filtered (tape 0 [.bool false, .bool true]) (some "picky") fun v => v.equal (.bool true)

/-- The picky generator rejects once in each draw. So with a budget of two or more there are two
values, with a budget of one the second draw starves, and with none the first rejection is the
end. -/
theorem picky_rejects_once_each :
    (∀ more, 2 ≤ more →
      (picky.sample ⟨fun _ => 0, more⟩ 2 .start).1 = .ok [.bool true, .bool true]) ∧
    ((∃ e after, picky.FailsAfter ⟨fun _ => 0, 1⟩ .start 1 e after) ∧
      picky.rejections (fun _ => 0) .start 1 ≤ (1 : Nat) ∧
      (1 : Nat) < picky.rejections (fun _ => 0) .start 2) ∧
    ((∃ e after, picky.FailsAfter ⟨fun _ => 0, 0⟩ .start 0 e after) ∧
      (0 : Nat) < picky.rejections (fun _ => 0) .start 1) := by
  refine ⟨fun more le => ?_, ?_, ?_⟩
  · have two := budget_only_decides_failure picky (fun _ => 0) .start 2 (Nat.zero_le _)
    exact congrArg Prod.fst (two.1 2 _ _ rfl more le)
  · have one := budget_only_decides_failure picky (fun _ => 0) .start 1 (Nat.zero_le _)
    have second : ∃ e after, picky.FailsAfter ⟨fun _ => 0, 1⟩ .start 1 e after :=
      ⟨_, _, _, _, rfl, rfl⟩
    exact ⟨second, (one.2.2.1 1).mp second⟩
  · have none := budget_only_decides_failure picky (fun _ => 0) .start 0 (Nat.zero_le _)
    have first : ∃ e after, picky.FailsAfter ⟨fun _ => 0, 0⟩ .start 0 e after :=
      ⟨_, _, _, _, rfl, rfl⟩
    exact ⟨first, ((none.2.2.1 0).mp first).2⟩

end Generator

end Specimen
