import Mathlib.Data.List.Rotate
import Specimen.Proofs.Generator.Draws
import Specimen.Proofs.Generator.Patience

/-!
# Checked draws

Draws are total because their operations are: a remainder by nought is the number itself, a place
past the end of a list is its end, and a tape without values gives something undefined. Here each
operation that has such a domain checks it, and outside of it the draw panics. What a checked draw
does otherwise is what a draw does (`drawChecked_follows`), so a generator whose checked draws never
panic is drawn as it is (`neverPanics_iff`), with every operation inside its domain.

What can panic is a choice among no options, the remainder that brings a start, an index or a slot
into range, the lookup of a candidate, an insertion, the difference of two counts, and a tape. The
slots of a repair are always in range (`Value.repair?_eq`), and so are the indices of a search as
soon as there is a candidate (`firstKept?_eq`). Leaves choose among fixed options and are not looked
into. Lists are as long as they have to be; that memory may not hold them is another matter.

`Follows` serves twice: a checked draw follows a draw, and it may panic on the way, which is how all
generators are drawn, or it may not.
-/

namespace Specimen

/-! ## Checked operations -/

section Operations

variable {α : Type}

/-- A remainder, by something. -/
def remainder? (n m : Nat) : Option Nat := if m = 0 then none else some (n % m)

/-- What is left when less is taken away, or as much. -/
def difference? (n m : Nat) : Option Nat := if m ≤ n then some (n - m) else none

/-- Items with one put in, at a place that they have or at their end. -/
def insertAt? (items : List α) (place : Nat) (item : α) : Option (List α) :=
  if place ≤ items.length then some (insertAt items place item) else none

theorem remainder?_eq {n m : Nat} (nonzero : m ≠ 0) : remainder? n m = some (n % m) :=
  if_neg nonzero

theorem difference?_eq {n m : Nat} (less : m ≤ n) : difference? n m = some (n - m) := if_pos less

/-! ### Repairs -/

/-- Puts extras in one after the other, each at its slot counted round the list as it then is. -/
def spliceAll? : List α → List (α × Nat) → Option (List α)
  | items, [] => some items
  | items, (extra, slot) :: rest => do
    let place ← remainder? slot (items.length + 1)
    spliceAll? (← insertAt? items place extra) rest

/-- The slots run from before the first item to behind the last, so there is always one. -/
theorem spliceAll?_eq : ∀ (items : List α) (extras : List (α × Nat)),
    spliceAll? items extras = some (spliceAll items extras)
  | _, [] => rfl
  | items, (extra, slot) :: rest => by
    have inside : slot % (items.length + 1) ≤ items.length :=
      Nat.lt_succ_iff.mp (Nat.mod_lt _ (Nat.succ_pos _))
    rw [spliceAll?, remainder?_eq (Nat.succ_ne_zero _)]
    change (insertAt? items _ extra >>= fun items => spliceAll? items rest) = _
    rw [insertAt?, if_pos inside]
    exact spliceAll?_eq _ rest

/-- Items with extras put in, or surplus left out, so that the right number is accepted. How many
extras are needed is a difference of counts. -/
def repairItems? (accepts : α → Bool) (count : Nat) (items extras : List α) (slots : List Nat) :
    Option (List α) :=
  let found := items.countP accepts
  if found < count then do
    spliceAll? items ((extras.zip slots).take (← difference? count found))
  else if count < found then some (keepFirst accepts count items)
  else some items

/-- The difference is taken only where fewer are accepted than should be. -/
theorem repairItems?_eq (accepts : α → Bool) (count : Nat) (items extras : List α)
    (slots : List Nat) :
    repairItems? accepts count items extras slots =
      some (repairItems accepts count items extras slots) := by
  unfold repairItems? repairItems
  dsimp only
  split
  case isTrue few =>
    rw [difference?_eq (Nat.le_of_lt few)]
    exact spliceAll?_eq items _
  case isFalse =>
    split
    · rfl
    · rfl

/-- An array so repaired; nothing else is. -/
def Value.repair? (accepts : Value → Bool) (count : Nat) (v : Value) (extras : List Value)
    (slots : List Nat) : Option Value :=
  match v with
  | .array items => (repairItems? accepts count items extras slots).map .array
  | v => some v

/-- No repair leaves the domain of an operation, whatever its extras and slots. -/
theorem Value.repair?_eq (accepts : Value → Bool) (count : Nat) (v : Value) (extras : List Value)
    (slots : List Nat) :
    v.repair? accepts count extras slots = some (v.repair accepts count extras slots) := by
  cases v with
  | array items => exact congrArg (Option.map Value.array) (repairItems?_eq _ _ _ _ _)
  | _ => rfl

/-! ### Searches -/

/-- The first value kept among those at some distances from an offset, going round. -/
def search? (keep : Value → Bool) (drawn : List Value) (offset : Nat) :
    List Nat → Option (Option Value)
  | [] => some none
  | distance :: rest => do
    let index ← remainder? (offset + distance) drawn.length
    let v ← drawn[index]?
    if keep v then return some v else search? keep drawn offset rest

/-- The search from a start, which is brought into range first. That is where it panics if there is
no candidate. -/
def firstKept? (keep : Value → Bool) (drawn : List Value) (start : Nat) :
    Option (Option Value) := do
  search? keep drawn (← remainder? start drawn.length) (List.range drawn.length)

variable {keep : Value → Bool} {drawn : List Value}

/-- A search that has come so far finds the first value kept in what is left of the round. -/
theorem search?_range' {offset : Nat} : ∀ {left distance : Nat}, distance + left = drawn.length →
    search? keep drawn offset (List.range' distance left) =
      some (((drawn.rotate offset).drop distance).find? keep)
  | 0, distance, all => by
    rw [List.drop_eq_nil_of_le (by rw [List.length_rotate]; omega)]
    rfl
  | left + 1, distance, all => by
    have inside : distance < drawn.length := by omega
    have inside' : distance < (drawn.rotate offset).length := by rwa [List.length_rotate]
    have nonzero : drawn.length ≠ 0 := by omega
    -- to go round by remainders is to go along the rotated list
    have index : drawn[(offset + distance) % drawn.length]? =
        some (drawn.rotate offset)[distance] := by
      rw [Nat.add_comm, ← List.getElem?_rotate inside, List.getElem?_eq_getElem inside']
    rw [List.range'_succ, search?, remainder?_eq nonzero, List.drop_eq_getElem_cons inside',
      List.find?_cons]
    change (drawn[(offset + distance) % drawn.length]? >>= _) = _
    rw [index]
    change (if keep _ = true then _ else _) = _
    split
    case isTrue kept => rw [kept]; rfl
    case isFalse other =>
      rw [Bool.not_eq_true] at other
      rw [other]
      exact search?_range' (by omega)

/-- As soon as there is a candidate, every index of the search is in range. -/
theorem firstKept?_eq (nonempty : drawn ≠ []) (start : Nat) :
    firstKept? keep drawn start = some (firstKept keep drawn start) := by
  rw [firstKept?, remainder?_eq (mt List.length_eq_zero_iff.mp nonempty), List.range_eq_range']
  change search? keep drawn (start % drawn.length) _ = _
  rw [search?_range' (Nat.zero_add _), List.drop_zero, List.rotate_mod,
    List.rotate_eq_drop_append_take_mod]
  rfl

end Operations

/-! ## Checked computations -/

/-- Why a checked draw gives no value: it starved, or an operation was used outside its domain. -/
inductive Checked.Halt
  | starved | panicked

/-- A draw in progress whose operations check their domains. -/
abbrev Checked := ReaderT Source (EStateM Checked.Halt Run)

namespace Checked

variable {α β : Type}

/-- A draw as a checked draw: it never panics. -/
def lift (d : Draw α) : Checked α := fun source run =>
  match d source run with
  | .ok a after => .ok a after
  | .error () after => .error .starved after

/-- An operation was used outside its domain. -/
def panic : Checked α := fun _ run => .error .panicked run

/-- The result of a checked operation. -/
def result : Option α → Checked α
  | some a => pure a
  | none => panic

/-- A natural below `n`, if there is one. -/
def below (n : Nat) : Checked Nat := if n = 0 then panic else lift (Draw.below n)

/-- The next value of a tape, if it has values. -/
def fromTape (id : Nat) : List Value → Checked Value
  | [] => panic
  | v :: values => lift (Draw.fromTape id (v :: values))

/-- Several checked draws, one after the other. -/
def times (one : Checked α) : Nat → Checked (List α)
  | 0 => return []
  | count + 1 => do
    let first ← one
    return first :: (← times one count)

/-- Checked attempts until one succeeds. Starving is no panic. -/
def attempts (label : Option String) (attempt : Checked (Option Value)) : Nat → Checked Value
  | 0 => fun _ run => .error .starved run
  | left + 1 => do
    match ← attempt with
    | some v => return v
    | none => do
      lift (Draw.reject label)
      attempts label attempt left

/-- As many checked attempts as the budget leaves. -/
def untilKept (label : Option String) (attempt : Checked (Option Value)) : Checked Value :=
  fun source run => attempts label attempt (source.budget + 1 - run.spent) source run

section Runs

variable {x : Checked α} {d : Draw α} {source : Source} {run after : Run} {a : α}

theorem bind_of_ok {f : α → Checked β} (ran : x source run = .ok a after) :
    (x >>= f) source run = f a source after := by
  change EStateM.bind (x source) (fun a => f a source) run = _
  rw [EStateM.bind, ran]

/-- A draw that has halted goes no further, for whichever reason it has. -/
theorem bind_of_error {f : α → Checked β} {halt : Halt} (ran : x source run = .error halt after) :
    (x >>= f) source run = .error halt after := by
  change EStateM.bind (x source) (fun a => f a source) run = _
  rw [EStateM.bind, ran]

theorem lift_of_ok (ran : d source run = .ok a after) : lift d source run = .ok a after := by
  rw [lift, ran]

theorem lift_of_error (ran : d source run = .error () after) :
    lift d source run = .error .starved after := by
  rw [lift, ran]

/-- Draws that come to the same come to the same as checked ones. -/
theorem lift_congr {e : Draw α} {between : Run} (same : d source run = e source between) :
    lift d source run = lift e source between := by
  rw [lift, lift, same]

/-- A draw as it is has nothing to panic at. -/
theorem lift_ne_panicked : lift d source run ≠ .error .panicked after := by
  unfold lift
  split <;> nofun

end Runs

/-- Does what a draw does, or panics, if it may. -/
def Follows (mayPanic : Prop) (x : Checked α) (d : Draw α) : Prop :=
  ∀ source run, x source run = lift d source run ∨
    mayPanic ∧ ∃ after, x source run = .error .panicked after

namespace Follows

variable {mayPanic : Prop} {x : Checked α} {d : Draw α}

theorem lift (d : Draw α) : Follows mayPanic (lift d) d := fun _ _ => .inl rfl

theorem pure (a : α) : Follows mayPanic (pure a) (pure a) := fun _ _ => .inl rfl

theorem panic (may : mayPanic) : Follows mayPanic panic d := fun _ run => .inr ⟨may, run, rfl⟩

/-- The result of an operation is followed if the operation is inside its domain, or panicking is
allowed. -/
theorem result {checked : Option α} {a : α}
    (agrees : checked = some a ∨ mayPanic ∧ checked = none) :
    Follows mayPanic (result checked) (Pure.pure a) := by
  rcases agrees with rfl | ⟨may, rfl⟩
  · exact pure a
  · exact panic may

/-- A sequence is followed part by part. The second part is asked for only after results that the
first can give, since its operations may be in their domains for no other reason. -/
theorem bind {f : α → Checked β} {e : α → Draw β} (first : Follows mayPanic x d)
    (second : ∀ a, d.Gives a → Follows mayPanic (f a) (e a)) :
    Follows mayPanic (x >>= f) (d >>= e) := by
  intro source run
  rcases first source run with same | ⟨may, after, panicked⟩
  · cases drawn : d source run with
    | ok a between =>
      rw [bind_of_ok (same.trans (lift_of_ok drawn)), lift_congr (Draw.bind_of_ok drawn)]
      exact second a ⟨source, run, between, drawn⟩ source between
    | error _ after =>
      left
      rw [bind_of_error (same.trans (lift_of_error drawn))]
      exact (lift_of_error (Draw.bind_of_error drawn)).symm
  · exact .inr ⟨may, after, bind_of_error panicked⟩

/-- A choice panics only among no options. -/
theorem below {n : Nat} (nonzero : mayPanic ∨ n ≠ 0) :
    Follows mayPanic (below n) (Draw.below n) := by
  unfold Checked.below
  split
  case isTrue zero => exact panic (nonzero.resolve_right fun other => other zero)
  case isFalse => exact lift _

/-- A tape panics only if it has no values. -/
theorem fromTape {id : Nat} {values : List Value} (nonempty : mayPanic ∨ values ≠ []) :
    Follows mayPanic (fromTape id values) (Draw.fromTape id values) := by
  cases values with
  | nil => exact panic (nonempty.resolve_right fun other => other rfl)
  | cons v rest => exact lift (Draw.fromTape id (v :: rest))

theorem times (each : Follows mayPanic x d) :
    ∀ count, Follows mayPanic (times x count) (Draw.times d count)
  | 0 => pure []
  | count + 1 => each.bind fun a _ => (times each count).bind fun rest _ => pure (a :: rest)

variable {label : Option String} {attempt : Checked (Option Value)}
  {attempt' : Draw (Option Value)}

/-- Attempts are followed one by one, and the budget runs out for both at once. -/
theorem attempts (each : Follows mayPanic attempt attempt') :
    ∀ left, Follows mayPanic (attempts label attempt left) (Draw.attempts label attempt' left)
  | 0 => fun _ _ => .inl rfl
  | left + 1 => each.bind fun tried _ =>
    match tried with
    | some v => pure v
    | none => (lift _).bind fun _ _ => attempts each left

/-- How many attempts are left is counted alike. -/
theorem untilKept (each : Follows mayPanic attempt attempt') :
    Follows mayPanic (untilKept label attempt) (Draw.untilKept label attempt') :=
  fun source run => attempts each (source.budget + 1 - run.spent) source run

end Follows

end Checked

/-! ## Checked draws of generators -/

namespace Generator

open Checked

mutual

/-- One draw whose operations check their domains. -/
def drawChecked : Generator → Checked Value
  | .tape id values => fromTape id values
  | .array element most => do
    let size ← below (most + 1)
    return .array (← times (drawChecked element) size)
  | .dictionary value most => do
    let size ← below (most + 1)
    let pairs ← times (do return (← lift Draw.text, ← drawChecked value)) size
    return .object (Fields.ofPairs pairs)
  | .oneOf first others => do
    match ← below (others.length + 1) with
    | 0 => drawChecked first
    | index + 1 => drawAtChecked others index
  | .tupleOf components => do return .array (← drawAllChecked components)
  | .recordOf fields => do return .object (Fields.ofPairs (← drawFieldsChecked fields))
  | .mapped source f => do return f (← drawChecked source)
  | .filtered source label keep =>
    untilKept label do
      let v ← drawChecked source
      return if keep v then some v else none
  | .rotated candidates label keep =>
    untilKept (some label) do
      let drawn ← drawAllChecked candidates
      result (firstKept? keep drawn (← below drawn.length))
  | .mended base extra count accepts => do
    let v ← drawChecked base
    let extras ← times (drawChecked extra) count
    let slots ← lift (Draw.times Draw.word count)
    result (v.repair? accepts count extras (slots.map UInt64.toNat))
  | g => lift g.draw

/-- One checked draw from each, in order. -/
def drawAllChecked : List Generator → Checked (List Value)
  | [] => return []
  | g :: rest => do
    let first ← drawChecked g
    return first :: (← drawAllChecked rest)

/-- One checked draw from the option of an index, which must be one of theirs. -/
def drawAtChecked : List Generator → Nat → Checked Value
  | [], _ => panic
  | g :: _, 0 => drawChecked g
  | _ :: rest, index + 1 => drawAtChecked rest index

/-- One checked draw from each, in order, under its name. -/
def drawFieldsChecked : List (String × Generator) → Checked (List (String × Value))
  | [] => return []
  | (name, g) :: rest => do
    let first ← drawChecked g
    return (name, first) :: (← drawFieldsChecked rest)

end

/-- The checked draws of a generator follow its draws. -/
def Follows (mayPanic : Prop) (g : Generator) : Prop :=
  Checked.Follows mayPanic g.drawChecked g.draw

namespace Follows

variable {mayPanic : Prop} {g base extra : Generator} {gs : List Generator}

/-- One law for each way of putting generators together, from here on: if the parts are followed, so
is the whole. An array chooses its length among at least one. -/
theorem array {most : Nat} (each : g.Follows mayPanic) : (array g most).Follows mayPanic :=
  (Checked.Follows.below (.inr (Nat.succ_ne_zero most))).bind fun _ _ =>
    (Checked.Follows.times each _).bind fun _ _ => .pure _

theorem dictionary {most : Nat} (each : g.Follows mayPanic) :
    (dictionary g most).Follows mayPanic := by
  have member := (Checked.Follows.lift Draw.text).bind fun name _ =>
    Checked.Follows.bind each fun v _ => .pure (name, v)
  exact (Checked.Follows.below (.inr (Nat.succ_ne_zero most))).bind fun _ _ =>
    (Checked.Follows.times member _).bind fun _ _ => .pure _

/-- Options that are there are looked up by an index that is. -/
theorem drawAt (each : ∀ g ∈ gs, g.Follows mayPanic) : ∀ {index : Nat}, index < gs.length →
    Checked.Follows mayPanic (drawAtChecked gs index) (Generator.drawAt gs index) := by
  induction gs with
  | nil => nofun
  | cons g rest ih =>
    intro index inside
    cases index with
    | zero => exact each g List.mem_cons_self
    | succ index =>
      exact ih (fun g mem => each g (List.mem_cons_of_mem _ mem)) (Nat.lt_of_succ_lt_succ inside)

/-- A choice has a first option, so there is always something to choose. -/
theorem oneOf (first : g.Follows mayPanic) (others : ∀ g ∈ gs, g.Follows mayPanic) :
    (oneOf g gs).Follows mayPanic := by
  refine (Checked.Follows.below (.inr (Nat.succ_ne_zero _))).bind fun index given => ?_
  have inside := given.below (Nat.succ_pos _)
  cases index with
  | zero => exact first
  | succ index => exact drawAt others (Nat.lt_of_succ_lt_succ inside)

/-- Lists of generators are followed if each of them is. -/
theorem drawAll (each : ∀ g ∈ gs, g.Follows mayPanic) :
    Checked.Follows mayPanic (drawAllChecked gs) (Generator.drawAll gs) := by
  induction gs with
  | nil => exact .pure []
  | cons g rest ih =>
    obtain ⟨head, tail⟩ := List.forall_mem_cons.mp each
    exact Checked.Follows.bind head fun _ _ => (ih tail).bind fun _ _ => .pure _

theorem tupleOf (each : ∀ g ∈ gs, g.Follows mayPanic) : (tupleOf gs).Follows mayPanic :=
  (drawAll each).bind fun _ _ => .pure _

/-- So are fields. -/
theorem drawFields {fields : List (String × Generator)}
    (each : ∀ field ∈ fields, field.2.Follows mayPanic) :
    Checked.Follows mayPanic (drawFieldsChecked fields) (Generator.drawFields fields) := by
  induction fields with
  | nil => exact .pure []
  | cons field rest ih =>
    obtain ⟨head, tail⟩ := List.forall_mem_cons.mp each
    exact Checked.Follows.bind head fun _ _ => (ih tail).bind fun _ _ => .pure _

theorem recordOf {fields : List (String × Generator)}
    (each : ∀ field ∈ fields, field.2.Follows mayPanic) : (recordOf fields).Follows mayPanic :=
  (drawFields each).bind fun _ _ => .pure _

theorem mapped {f : Value → Value} (inner : g.Follows mayPanic) :
    (mapped g f).Follows mayPanic :=
  Checked.Follows.bind inner fun _ _ => .pure _

theorem filtered {label : Option String} {keep : Value → Bool} (inner : g.Follows mayPanic) :
    (filtered g label keep).Follows mayPanic :=
  .untilKept (Checked.Follows.bind inner fun _ _ => .pure _)

/-- A search among candidates stays in range, if there are any. -/
theorem rotated {label : String} {keep : Value → Bool} (nonempty : mayPanic ∨ gs ≠ [])
    (each : ∀ g ∈ gs, g.Follows mayPanic) : (rotated gs label keep).Follows mayPanic := by
  refine .untilKept ((drawAll each).bind fun drawn given => ?_)
  have length := (Draws.of_drawAll given).length_eq
  -- where nothing was drawn, there is no start to be had, let alone a candidate
  by_cases empty : drawn = []
  · have may : mayPanic := nonempty.resolve_right fun other => by
      rw [empty] at length
      exact other (List.length_eq_zero_iff.mp length)
    subst empty
    exact (Checked.Follows.below (.inl may)).bind fun _ _ => .result (.inr ⟨may, rfl⟩)
  · have candidates : drawn.length ≠ 0 := mt List.length_eq_zero_iff.mp empty
    exact (Checked.Follows.below (.inr candidates)).bind fun start _ =>
      .result (.inl (firstKept?_eq empty start))

/-- A repair is inside its domains whatever is drawn for it. -/
theorem mended {count : Nat} {accepts : Value → Bool} (inner : base.Follows mayPanic)
    (each : extra.Follows mayPanic) : (mended base extra count accepts).Follows mayPanic :=
  Checked.Follows.bind inner fun v _ => (Checked.Follows.times each _).bind fun _ _ =>
    (Checked.Follows.lift _).bind fun _ _ => .result (.inl (v.repair?_eq _ _ _ _))

theorem optional (inner : g.Follows mayPanic) : (optional g).Follows mayPanic :=
  inner.oneOf fun _ mem => List.mem_singleton.mp mem ▸ Checked.Follows.lift _

end Follows

mutual

/-- Unless it panics, a checked draw is a draw. The induction is on the generator. -/
theorem drawChecked_follows : ∀ g : Generator, g.Follows True
  | .tape _ _ => Checked.Follows.fromTape (.inl trivial)
  | .array element _ => .array (drawChecked_follows element)
  | .dictionary value _ => .dictionary (drawChecked_follows value)
  | .oneOf first others => .oneOf (drawChecked_follows first) (each_drawChecked_follows others)
  | .tupleOf components => .tupleOf (each_drawChecked_follows components)
  | .recordOf fields => .recordOf (each_field_drawChecked_follows fields)
  | .mapped source _ => .mapped (drawChecked_follows source)
  | .filtered source _ _ => .filtered (drawChecked_follows source)
  | .rotated candidates _ _ => .rotated (.inl trivial) (each_drawChecked_follows candidates)
  | .mended base extra _ _ => .mended (drawChecked_follows base) (drawChecked_follows extra)
  | .constant _ | .boolean | .number | .text | .void | .callable | .json _ =>
    Checked.Follows.lift _

/-- Every generator is followed if panicking is allowed, here for the components of a tuple. -/
theorem each_drawChecked_follows : ∀ gs : List Generator, ∀ g ∈ gs, g.Follows True
  | [] => nofun
  | g :: rest => List.forall_mem_cons.mpr ⟨drawChecked_follows g, each_drawChecked_follows rest⟩

/-- The same for the fields of a record. -/
theorem each_field_drawChecked_follows :
    ∀ fields : List (String × Generator), ∀ field ∈ fields, field.2.Follows True
  | [] => nofun
  | (_, g) :: rest =>
    List.forall_mem_cons.mpr ⟨drawChecked_follows g, each_field_drawChecked_follows rest⟩

end

/-- No checked draw panics, from whatever choices, under whatever budget and wherever in a run. -/
def NeverPanics (g : Generator) : Prop :=
  ∀ source run after, g.drawChecked source run ≠ .error .panicked after

/-- Never panicking is being followed where no panic is allowed: the form in which it is proved. -/
theorem neverPanics_iff_follows {g : Generator} : g.NeverPanics ↔ g.Follows False := by
  constructor
  · intro calm source run
    rcases drawChecked_follows g source run with same | ⟨_, after, panicked⟩
    · exact .inl same
    · exact absurd panicked (calm source run after)
  · intro follows source run after panicked
    rcases follows source run with same | ⟨no, _⟩
    · exact Checked.lift_ne_panicked (same.symm.trans panicked)
    · exact no

/-- A generator that never panics is drawn the same whether its operations are checked or not. -/
theorem neverPanics_iff {g : Generator} :
    g.NeverPanics ↔ g.drawChecked = Checked.lift g.draw := by
  rw [neverPanics_iff_follows]
  constructor
  · intro follows
    funext source run
    exact (follows source run).resolve_right fun ⟨no, _⟩ => no
  · intro same source run
    exact .inl (congrFun (congrFun same source) run)

/-- A search among no candidates has nowhere to start. -/
example : ¬ (rotated [] "no candidates" fun _ => true).NeverPanics :=
  fun never => never ⟨fun _ => 0, 0⟩ .start .start rfl

end Generator

end Specimen
