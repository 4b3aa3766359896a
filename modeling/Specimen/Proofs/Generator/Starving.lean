import Specimen.Proofs.Generator.Rejections

/-!
# Whose rejection starves a draw

A starved draw names a label, which it has from the state of its run: every rejection leaves its label
there. To say whose label that is, a draw is recorded (`Generator.recorded`): the same draw, with the
list of all its rejections, each with the place of the search that rejects and with what was spent
before. Leaving out the list gives the draw back, and in it the last rejection of a draw that starves
is the only one that finds the budget spent (`Recorded.Tells`).

So the label named is that of the search which this rejection is of (`starved_at`). That is so of any
runner with any past, as long as it has not overdrawn its budget, which no runner ever has
(`Past.within`).
-/

namespace Specimen

namespace Generator

variable {g h : Generator}

/-! ## Places -/

/-- The generators that a generator is directly made of. -/
def children : Generator → List Generator
  | .array element _ => [element]
  | .dictionary value _ => [value]
  | .oneOf first others => first :: others
  | .tupleOf components => components
  | .recordOf fields => fields.map Prod.snd
  | .mapped source _ => [source]
  | .filtered source _ _ => [source]
  | .rotated candidates _ _ => candidates
  | .mended base extra _ _ => [base, extra]
  | _ => []

/-- The generator at a place: the way down to it, by the positions of children. -/
def at? : List Nat → Generator → Option Generator
  | [], g => some g
  | i :: place, g => g.children[i]?.bind (at? place)

theorem nodes_subset_of_mem_children (mem : h ∈ g.children) : h.nodes ⊆ g.nodes := by
  intro inner below
  cases g with
  | array element most => exact .tail _ (List.mem_singleton.mp mem ▸ below)
  | dictionary value most => exact .tail _ (List.mem_singleton.mp mem ▸ below)
  | oneOf first others =>
    refine .tail _ (List.mem_append.mpr ?_)
    rcases List.mem_cons.mp mem with rfl | mem
    · exact .inl below
    · exact .inr (mem_nodesAll.mpr ⟨h, mem, below⟩)
  | tupleOf components => exact .tail _ (mem_nodesAll.mpr ⟨h, mem, below⟩)
  | recordOf fields =>
    obtain ⟨field, among, rfl⟩ := List.mem_map.mp mem
    exact .tail _ (mem_nodesFields.mpr ⟨field, among, below⟩)
  | mapped source f => exact .tail _ (List.mem_singleton.mp mem ▸ below)
  | filtered source label keep => exact .tail _ (List.mem_singleton.mp mem ▸ below)
  | rotated candidates label keep => exact .tail _ (mem_nodesAll.mpr ⟨h, mem, below⟩)
  | mended base extra count accepts =>
    refine .tail _ (List.mem_append.mpr ?_)
    rcases List.mem_cons.mp mem with rfl | mem
    · exact .inl below
    · exact .inr (List.mem_singleton.mp mem ▸ below)
  | _ => cases mem

/-- What stands at a place is a node. -/
theorem mem_nodes_of_at? {place : List Nat} :
    ∀ {g : Generator}, g.at? place = some h → h ∈ g.nodes := by
  induction place with
  | nil =>
    intro g found
    cases found
    exact self_mem_nodes h
  | cons i place ih =>
    intro g found
    obtain ⟨child, there, found⟩ := Option.bind_eq_some_iff.mp found
    exact nodes_subset_of_mem_children (List.mem_of_getElem? there) (ih found)

/-- What a search notes its rejections under: a label or nothing. -/
def noted? : Generator → Option (Option String)
  | .filtered _ label _ => some label
  | .rotated _ label _ => some (some label)
  | _ => none

end Generator

/-! ## Recorded computations -/

/-- A rejection in the course of a draw. -/
structure Rejection where
  /-- The place of the search that rejects. -/
  place : List Nat
  /-- What it is noted under. -/
  label : Option String
  /-- How many rejections were spent before. -/
  spent : Nat

/-- A computation with the list of its rejections. -/
def Recorded (α : Type) : Type := Source → Run → List Rejection × EStateM.Result Unit Run α

namespace Recorded

variable {α β : Type}

/-- A computation of which nothing is recorded. -/
def silent (d : Draw α) : Recorded α := fun source run => ([], d source run)

/-- One recorded computation after another. -/
def bind (r : Recorded α) (f : α → Recorded β) : Recorded β := fun source run =>
  match r source run with
  | (log, .ok a after) => (log ++ (f a source after).1, (f a source after).2)
  | (log, .error () after) => (log, .error () after)

instance : Monad Recorded where
  pure a := silent (pure a)
  bind := bind

/-- `count` recorded computations. -/
def times (one : Recorded α) : Nat → Recorded (List α)
  | 0 => return []
  | count + 1 => do
    let first ← one
    return first :: (← times one count)

/-- A rejection at a place. -/
def reject (place : List Nat) (label : Option String) : Recorded Unit := fun source run =>
  ([⟨place, label, run.spent⟩], Draw.reject label source run)

/-- Tries again after each rejection, at most `left` times. -/
def attempts (place : List Nat) (label : Option String) (attempt : Recorded (Option Value)) :
    Nat → Recorded Value
  | 0 => silent fun _ run => .error () run
  | left + 1 => do
    match ← attempt with
    | some v => return v
    | none => do
      reject place label
      attempts place label attempt left

/-- Tries until an attempt succeeds, or starves. -/
def untilKept (place : List Nat) (label : Option String) (attempt : Recorded (Option Value)) :
    Recorded Value := fun source run =>
  attempts place label attempt (source.budget + 1 - run.spent) source run

end Recorded

namespace Generator

open Recorded

mutual

/-- One draw from the generator at a place, with its rejections. -/
def recorded (place : List Nat) : Generator → Recorded Value
  | .array element most => do
    let size ← silent (Draw.below (most + 1))
    return .array (← times (recorded (place ++ [0]) element) size)
  | .dictionary value most => do
    let size ← silent (Draw.below (most + 1))
    let pairs ← times (do return (← silent Draw.text, ← recorded (place ++ [0]) value)) size
    return .object (Fields.ofPairs pairs)
  | .oneOf first others => do
    match ← silent (Draw.below (others.length + 1)) with
    | 0 => recorded (place ++ [0]) first
    | index + 1 => recordedAt place 1 others index
  | .tupleOf components => do return .array (← recordedAll place 0 components)
  | .recordOf fields => do return .object (Fields.ofPairs (← recordedFields place 0 fields))
  | .mapped source f => do return f (← recorded (place ++ [0]) source)
  | .filtered source label keep =>
    untilKept place label do
      let v ← recorded (place ++ [0]) source
      return if keep v then some v else none
  | .rotated candidates label keep =>
    untilKept place (some label) do
      let drawn ← recordedAll place 0 candidates
      return firstKept keep drawn (← silent (Draw.below drawn.length))
  | .mended base extra count accepts => do
    let v ← recorded (place ++ [0]) base
    let extras ← times (recorded (place ++ [1]) extra) count
    let slots ← silent (Draw.times Draw.word count)
    return v.repair accepts count extras (slots.map UInt64.toNat)
  | g => silent g.draw

/-- One draw from each of the children from a position on. -/
def recordedAll (place : List Nat) (i : Nat) : List Generator → Recorded (List Value)
  | [] => return []
  | g :: rest => do
    let first ← recorded (place ++ [i]) g
    return first :: (← recordedAll place (i + 1) rest)

/-- One draw from the child of an index, among those from a position on. -/
def recordedAt (place : List Nat) (i : Nat) : List Generator → Nat → Recorded Value
  | [], _ => return .undefined
  | g :: _, 0 => recorded (place ++ [i]) g
  | _ :: rest, index + 1 => recordedAt place (i + 1) rest index

/-- One draw from each of the fields from a position on, under its name. -/
def recordedFields (place : List Nat) (i : Nat) :
    List (String × Generator) → Recorded (List (String × Value))
  | [] => return []
  | (name, g) :: rest => do
    let first ← recorded (place ++ [i]) g
    return (name, first) :: (← recordedFields place (i + 1) rest)

end

end Generator

/-! ## What records tell -/

namespace Recorded

variable {α β : Type} {P : Rejection → Prop} {budget : Nat} {place : List Nat}
  {label : Option String}

theorem bind_of_ok {r : Recorded α} {f : α → Recorded β} {source : Source} {run between : Run}
    {log : List Rejection} {a : α} (ran : r source run = (log, .ok a between)) :
    (r >>= f) source run = (log ++ (f a source between).1, (f a source between).2) := by
  change bind r f source run = _
  rw [bind, ran]

theorem bind_of_error {r : Recorded α} {f : α → Recorded β} {source : Source} {run after : Run}
    {log : List Rejection} (ran : r source run = (log, .error () after)) :
    (r >>= f) source run = (log, .error () after) := by
  change bind r f source run = _
  rw [bind, ran]

/-! ### Records of the same computation -/

/-- A record of a computation: but for the list, it comes to the same. -/
def Erases (r : Recorded α) (d : Draw α) : Prop := ∀ source run, (r source run).2 = d source run

namespace Erases

theorem bind {r : Recorded α} {d : Draw α} {f : α → Recorded β} {f' : α → Draw β}
    (first : Erases r d) (rest : ∀ a, Erases (f a) (f' a)) : Erases (r >>= f) (d >>= f') := by
  intro source run
  have same := first source run
  rcases ran : r source run with ⟨log, ⟨a, between⟩ | ⟨⟨⟩, after⟩⟩
  · rw [ran] at same
    rw [bind_of_ok ran, Draw.bind_of_ok same.symm]
    exact rest a source between
  · rw [ran] at same
    rw [bind_of_error ran, Draw.bind_of_error same.symm]

theorem attempts {attempt : Recorded (Option Value)} {d : Draw (Option Value)}
    (each : Erases attempt d) : ∀ left,
      Erases (attempts place label attempt left) (Draw.attempts label d left)
  | 0 => fun _ _ => rfl
  | left + 1 => by
    refine each.bind fun result => ?_
    cases result with
    | some v => exact fun _ _ => rfl
    | none => exact bind (r := reject place label) (fun _ _ => rfl) fun _ => attempts each left

end Erases

/-! ### Which rejection starves -/

/-- What is recorded of a computation that starts with so much spent of a budget. All its rejections
are of a kind; each that it survives spends one, and it starves of the one that finds the budget
spent, whose label is blamed. -/
inductive Accounts (P : Rejection → Prop) (budget start : Nat) :
    List Rejection × EStateM.Result Unit Run α → Prop
  | survived {log : List Rejection} {a : α} {after : Run} (spent : after.spent = start + log.length)
    (within : after.spent ≤ budget) (each : ∀ e ∈ log, e.spent < budget ∧ P e) :
    Accounts P budget start (log, .ok a after)
  | starved {before : List Rejection} {last : Rejection} {after : Run}
    (each : ∀ e ∈ before, e.spent < budget ∧ P e) (overdrawn : last.spent = budget) (kind : P last)
    (blamed : ∀ label ∈ last.label, after.blamed = some label) :
    Accounts P budget start (before ++ [last], .error () after)

theorem Accounts.prepend {start : Nat} {log more : List Rejection}
    {result : EStateM.Result Unit Run α} (each : ∀ e ∈ log, e.spent < budget ∧ P e)
    (rest : Accounts P budget (start + log.length) (more, result)) :
    Accounts P budget start (log ++ more, result) := by
  cases rest with
  | survived spent within others =>
    refine .survived ?_ within fun e mem => (List.mem_append.mp mem).elim (each e) (others e)
    rw [spent, List.length_append, Nat.add_assoc]
  | starved others overdrawn kind blamed =>
    rw [← List.append_assoc]
    refine .starved ?_ overdrawn kind blamed
    exact fun e mem => (List.mem_append.mp mem).elim (each e) (others e)

/-- A record of a computation that accounts for its rejections wherever the budget is not overdrawn.
-/
structure Tells (P : Rejection → Prop) (r : Recorded α) (d : Draw α) : Prop where
  erased : Erases r d
  accounts : ∀ {source run}, run.spent ≤ source.budget →
    Accounts P source.budget run.spent (r source run)

namespace Tells

/-- Where nothing is rejected, there is nothing to record. -/
theorem silent {d : Draw α} (steady : d.Steady) : Tells P (silent d) d where
  erased _ _ := rfl
  accounts {source run} here := by
    obtain ⟨a, after, ran, same⟩ := steady here
    rw [Recorded.silent, ran]
    exact .survived same (same.trans_le here) nofun

theorem pure (a : α) : Tells P (Pure.pure a : Recorded α) (Pure.pure a) :=
  silent (Draw.closed_steady.pure a)

theorem bind {r : Recorded α} {d : Draw α} {f : α → Recorded β} {f' : α → Draw β}
    (first : Tells P r d) (rest : ∀ a, Tells P (f a) (f' a)) : Tells P (r >>= f) (d >>= f') where
  erased := first.erased.bind fun a => (rest a).erased
  accounts {source run} here := by
    have told := first.accounts here
    rcases ran : r source run with ⟨log, ⟨a, between⟩ | ⟨⟨⟩, after⟩⟩
    · rw [ran] at told
      rw [bind_of_ok ran]
      cases told with
      | survived spent within each => exact .prepend each (spent ▸ (rest a).accounts within)
    · rw [ran] at told
      rw [bind_of_error ran]
      cases told with
      | starved each overdrawn kind blamed => exact .starved each overdrawn kind blamed

theorem times {one : Recorded α} {d : Draw α} (each : Tells P one d) : ∀ count,
    Tells P (times one count) (Draw.times d count)
  | 0 => pure []
  | count + 1 => each.bind fun _ => (times each count).bind fun _ => pure _

/-- By induction on the attempts that are left, which are more than the rejections that are. -/
private theorem accounts_attempts {attempt : Recorded (Option Value)} {d : Draw (Option Value)}
    (each : Tells P attempt d) (kind : ∀ spent, P ⟨place, label, spent⟩) :
    ∀ (left : Nat) {source : Source} {run : Run}, run.spent ≤ source.budget →
      source.budget < run.spent + left →
        Accounts P source.budget run.spent (attempts place label attempt left source run)
  | 0, source, run, here, enough => absurd enough (Nat.not_lt.mpr here)
  | left + 1, source, run, here, enough => by
    have told := each.accounts here
    rw [attempts]
    rcases ran : attempt source run with ⟨log, ⟨result, between⟩ | ⟨⟨⟩, after⟩⟩
    · rw [ran] at told
      rw [bind_of_ok ran]
      cases told with
      | survived spent within survived =>
        refine .prepend survived ?_
        rw [← spent]
        cases result with
        | some v => exact .survived rfl within nofun
        | none =>
          -- the rejection of this attempt is either counted, or the one that finds the budget spent
          by_cases more : between.spent < source.budget
          · have noted : reject place label source between =
                ([⟨place, label, between.spent⟩], .ok () (Draw.tallied between label)) :=
              congrArg (Prod.mk _) (if_neg (Nat.not_le.mpr more))
            have inside : (Draw.tallied between label).spent ≤ source.budget := more
            have onward : source.budget < (Draw.tallied between label).spent + left := by
              change source.budget < between.spent + 1 + left
              omega
            dsimp only
            rw [bind_of_ok noted]
            refine .prepend (List.forall_mem_singleton.mpr ⟨more, kind _⟩) ?_
            exact accounts_attempts each kind left inside onward
          · have spent : source.budget ≤ between.spent := Nat.not_lt.mp more
            have noted : reject place label source between = ([⟨place, label, between.spent⟩],
                .error () { between with blamed := label.or between.blamed }) :=
              congrArg (Prod.mk _) (if_pos spent)
            dsimp only
            rw [bind_of_error noted]
            have first : ∀ e ∈ ([] : List Rejection), e.spent < source.budget ∧ P e := nofun
            refine Accounts.starved first (Nat.le_antisymm within spent) (kind _) ?_
            rintro name ⟨⟩
            rfl
    · rw [ran] at told
      rw [bind_of_error ran]
      cases told with
      | starved before overdrawn kind blamed => exact .starved before overdrawn kind blamed

theorem untilKept {attempt : Recorded (Option Value)} {d : Draw (Option Value)}
    (each : Tells P attempt d) (kind : ∀ spent, P ⟨place, label, spent⟩) :
    Tells P (untilKept place label attempt) (Draw.untilKept label d) where
  erased source run := each.erased.attempts _ source run
  accounts {source run} here := accounts_attempts each kind _ here (by omega)

end Tells

end Recorded

namespace Generator

open Recorded

variable {P : Rejection → Prop} {g : Generator} {place : List Nat} {i : Nat}

/-! ## Records of draws -/

/-- What is noted by searches in the generator at a place is of a kind. -/
def NotesOnly (P : Rejection → Prop) (place : List Nat) (g : Generator) : Prop :=
  ∀ below h label, g.at? below = some h → h.noted? = some label →
    ∀ spent, P ⟨place ++ below, label, spent⟩

/-- What is noted by searches in the children from a position on is of a kind. -/
def EachNotesOnly (P : Rejection → Prop) (place : List Nat) (i : Nat) (gs : List Generator) : Prop :=
  ∀ k g, gs[k]? = some g → NotesOnly P (place ++ [i + k]) g

theorem NotesOnly.here {label : Option String} (kind : NotesOnly P place g)
    (noted : g.noted? = some label) (spent : Nat) : P ⟨place, label, spent⟩ := by
  have own := kind [] g label rfl noted spent
  rwa [List.append_nil] at own

theorem NotesOnly.children (kind : NotesOnly P place g) : EachNotesOnly P place 0 g.children := by
  intro k child there below h label found noted spent
  have own := kind (k :: below) h label (Option.bind_eq_some_iff.mpr ⟨child, there, found⟩) noted spent
  rwa [List.append_cons, ← Nat.zero_add k] at own

theorem EachNotesOnly.head {rest : List Generator} (kind : EachNotesOnly P place i (g :: rest)) :
    NotesOnly P (place ++ [i]) g :=
  kind 0 g rfl

theorem EachNotesOnly.tail {rest : List Generator} (kind : EachNotesOnly P place i (g :: rest)) :
    EachNotesOnly P place (i + 1) rest := by
  intro k child there
  rw [Nat.add_right_comm]
  exact kind (k + 1) child there

mutual

/-- The record of a draw accounts for it. -/
theorem tells_recorded : ∀ (place : List Nat) (g : Generator), NotesOnly P place g →
    Tells P (recorded place g) g.draw
  | _, .constant _, _ => .pure _
  | _, .boolean, _ => .silent (steady_of_plain (List.forall_mem_singleton.mpr rfl))
  | _, .number, _ => .silent (steady_of_plain (List.forall_mem_singleton.mpr rfl))
  | _, .text, _ => .silent (steady_of_plain (List.forall_mem_singleton.mpr rfl))
  | _, .void, _ => .silent (steady_of_plain (List.forall_mem_singleton.mpr rfl))
  | _, .callable, _ => .silent (steady_of_plain (List.forall_mem_singleton.mpr rfl))
  | _, .json _, _ => .silent (steady_of_plain (List.forall_mem_singleton.mpr rfl))
  | _, .tape _ _, _ => .silent fun _ _ _ => ⟨_, _, rfl, rfl⟩
  | place, .array element most, kind => by
    have each := tells_recorded (place ++ [0]) element kind.children.head
    exact (Tells.silent (Draw.closed_steady.below _)).bind fun size =>
      (each.times size).bind fun _ => .pure _
  | place, .dictionary value most, kind => by
    have each := tells_recorded (place ++ [0]) value kind.children.head
    have member := (Tells.silent (P := P) Draw.closed_steady.text).bind fun name =>
      each.bind fun v => .pure (name, v)
    exact (Tells.silent (Draw.closed_steady.below _)).bind fun size =>
      (member.times size).bind fun _ => .pure _
  | place, .oneOf first others, kind => by
    refine (Tells.silent (Draw.closed_steady.below _)).bind fun index => ?_
    cases index with
    | zero => exact tells_recorded (place ++ [0]) first kind.children.head
    | succ index => exact tells_recordedAt place 1 others kind.children.tail index
  | place, .tupleOf components, kind =>
    (tells_recordedAll place 0 components kind.children).bind fun _ => .pure _
  | place, .recordOf fields, kind =>
    (tells_recordedFields place 0 fields kind.children).bind fun _ => .pure _
  | place, .mapped source _, kind =>
    (tells_recorded (place ++ [0]) source kind.children.head).bind fun _ => .pure _
  | place, .filtered source _ _, kind => by
    have inner := tells_recorded (place ++ [0]) source kind.children.head
    -- of all shapes only the searches write anything into the record
    exact .untilKept (inner.bind fun _ => .pure _) (kind.here rfl)
  | place, .rotated candidates _ _, kind => by
    have each := tells_recordedAll place 0 candidates kind.children
    refine .untilKept (each.bind fun drawn => ?_) (kind.here rfl)
    exact (Tells.silent (Draw.closed_steady.below _)).bind fun _ => .pure _
  | place, .mended base extra count _, kind => by
    have inner := tells_recorded (place ++ [0]) base kind.children.head
    have each := tells_recorded (place ++ [1]) extra kind.children.tail.head
    exact inner.bind fun _ => (each.times count).bind fun _ =>
      (Tells.silent (Draw.closed_steady.times Draw.closed_steady.word count)).bind fun _ => .pure _

theorem tells_recordedAll : ∀ (place : List Nat) (i : Nat) (gs : List Generator),
    EachNotesOnly P place i gs → Tells P (recordedAll place i gs) (drawAll gs)
  | _, _, [], _ => .pure _
  | place, i, g :: rest, kind => by
    have first := tells_recorded (place ++ [i]) g kind.head
    have others := tells_recordedAll place (i + 1) rest kind.tail
    exact first.bind fun _ => others.bind fun _ => .pure _

theorem tells_recordedAt : ∀ (place : List Nat) (i : Nat) (gs : List Generator),
    EachNotesOnly P place i gs → ∀ index, Tells P (recordedAt place i gs index) (drawAt gs index)
  | _, _, [], _, _ => .pure _
  | place, i, g :: _, kind, 0 => tells_recorded (place ++ [i]) g kind.head
  | place, i, _ :: rest, kind, index + 1 => tells_recordedAt place (i + 1) rest kind.tail index

theorem tells_recordedFields : ∀ (place : List Nat) (i : Nat) (fields : List (String × Generator)),
    EachNotesOnly P place i (fields.map Prod.snd) →
      Tells P (recordedFields place i fields) (drawFields fields)
  | _, _, [], _ => .pure _
  | place, i, (_, g) :: rest, kind => by
    have first := tells_recorded (place ++ [i]) g kind.head
    have others := tells_recordedFields place (i + 1) rest kind.tail
    exact first.bind fun _ => others.bind fun _ => .pure _

end

/-- The record of the next draw of a runner. -/
def record (g : Generator) (source : Source) (run : Run) :
    List Rejection × EStateM.Result Unit Run Value :=
  g.recorded [] source { run with blamed := none }

/-- Rejections of the searches in a generator, at their places and under their labels. -/
def Noted (g : Generator) (rejection : Rejection) : Prop :=
  ∃ search, g.at? rejection.place = some search ∧ search.noted? = some rejection.label

theorem tells_record (g : Generator) : Recorded.Tells g.Noted (g.recorded []) g.draw :=
  tells_recorded [] g fun _ search _ found noted _ => ⟨search, found, noted⟩

variable {source : Source} {run after : Run} {e : GenError}

/-- A draw that fails has rejected until the budget was spent, and the rejection that found it spent
is the last one; what it is noted under is named. -/
theorem starved_at (within : run.spent ≤ source.budget)
    (failed : g.next source run = (.error e, after)) :
    ∃ before last, g.record source run = (before ++ [last], .error () after) ∧
      (∀ rejection ∈ before, rejection.spent < source.budget) ∧ last.spent = source.budget ∧
      g.Noted last ∧
      ∀ label ∈ last.label, e = .retryBudgetExceeded (starvedReason (some label)) := by
  rw [next_eq, told_eq_error] at failed
  obtain ⟨starved, rfl⟩ := failed
  have within' : { run with blamed := none : Run }.spent ≤ source.budget := within
  have told := (tells_record g).accounts within'
  have same := (tells_record g).erased source { run with blamed := none }
  rw [starved] at same
  rcases recorded : g.recorded [] source { run with blamed := none } with ⟨log, result⟩
  rw [recorded] at told same
  cases told with
  | survived => cases same
  | @starved before last after' each overdrawn kind blamed =>
    cases same
    refine ⟨before, last, recorded, fun rejection mem => (each rejection mem).1, overdrawn, kind, ?_⟩
    intro label noted
    rw [blamed label noted]

end Generator

/-! ## Runners with a past -/

/-- The states that a runner may be in between two draws, on a thread where anything may have gone
on. -/
inductive Past (source : Source) : Run → Prop
  /-- It is new. Other runners may have left blame behind, and moved tapes on. -/
  | fresh (blamed : Option String) (tapes : List (Nat × Nat)) : Past source ⟨0, 0, blamed, tapes⟩
  /-- It has drawn from some generator, and the draw has succeeded or failed. -/
  | drawn {run : Run} (g : Generator) (past : Past source run) : Past source (g.next source run).2
  /-- Other runners have drawn, or callables have been called. -/
  | elsewhere {run : Run} (blamed : Option String) (tapes : List (Nat × Nat))
    (past : Past source run) : Past source { run with blamed := blamed, tapes := tapes }

/-- A runner never overdraws its budget. -/
theorem Past.within {source : Source} {run : Run} (past : Past source run) :
    run.spent ≤ source.budget := by
  induction past with
  | fresh blamed tapes => exact Nat.zero_le _
  | @drawn run g _ within =>
    rcases drawn : g.next source run with ⟨e | v, after⟩
    · have within' : { run with blamed := none : Run }.spent ≤ source.budget := within
      have metered := Generator.metered_drawBy g
      rw [Generator.drawBy_untilKept] at metered
      rw [Generator.next_eq, Generator.told_eq_error] at drawn
      exact (metered.starves within' drawn.1).1.le
    · exact (Generator.next_of_le within drawn).1
  | elsewhere blamed tapes _ within => exact within

end Specimen
