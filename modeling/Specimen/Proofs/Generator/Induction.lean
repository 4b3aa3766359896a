import Mathlib.Tactic.Common
import Specimen.Generator.Draw

/-!
# Induction over what draws are made of

Every draw is put together in sequence from constant answers, words, values of tapes and searches. A
property that holds of answers and words and passes on to sequences (`Closed`) therefore holds of
all computations without tapes and searches, and of the draw of a generator as soon as it agrees
with the tapes and filters that occur in it (`Closed.draw`). What is to be known of all draws is
stated as such a property, and this is its induction.

Which generators occur is said by a list (`nodes`), so conditions on the tapes or filters of a
generator are conditions on its nodes.
-/

namespace Specimen

namespace Generator

/-! ## Nodes -/

mutual

/-- The generators that a generator is made of, itself the first. -/
def nodes : Generator → List Generator
  | .array element most => .array element most :: nodes element
  | .dictionary value most => .dictionary value most :: nodes value
  | .oneOf first others => .oneOf first others :: (nodes first ++ nodesAll others)
  | .tupleOf components => .tupleOf components :: nodesAll components
  | .recordOf fields => .recordOf fields :: nodesFields fields
  | .mapped source f => .mapped source f :: nodes source
  | .filtered source label keep => .filtered source label keep :: nodes source
  | .rotated candidates label keep => .rotated candidates label keep :: nodesAll candidates
  | .mended base extra count accepts =>
    .mended base extra count accepts :: (nodes base ++ nodes extra)
  | g => [g]

/-- The generators that some are made of. -/
def nodesAll : List Generator → List Generator
  | [] => []
  | g :: rest => nodes g ++ nodesAll rest

/-- The generators that named ones are made of. -/
def nodesFields : List (String × Generator) → List Generator
  | [] => []
  | (_, g) :: rest => nodes g ++ nodesFields rest

end

theorem self_mem_nodes (g : Generator) : g ∈ g.nodes := by
  cases g <;> simp [nodes]

theorem mem_nodesAll {h : Generator} {gs : List Generator} :
    h ∈ nodesAll gs ↔ ∃ g ∈ gs, h ∈ g.nodes := by
  induction gs with
  | nil => simp [nodesAll]
  | cons g rest ih => simp [nodesAll, ih]

theorem mem_nodesFields {h : Generator} {fields : List (String × Generator)} :
    h ∈ nodesFields fields ↔ ∃ field ∈ fields, h ∈ field.2.nodes := by
  induction fields with
  | nil => simp [nodesFields]
  | cons field rest ih => simp [nodesFields, ih]

/-- Whether a generator is neither a tape nor a search. -/
def isPlain : Generator → Bool
  | .tape _ _ => false
  | .filtered _ _ _ => false
  | .rotated _ _ _ => false
  | _ => true

/-- What makes a generator optional adds generators of its own, and all of those are plain. -/
theorem mem_nodes_optional {g h : Generator} (mem : h ∈ (optional g).nodes) :
    h.isPlain = true ∨ h ∈ g.nodes := by
  have nodes : (optional g).nodes = optional g :: (g.nodes ++ [constant .undefined]) := rfl
  rw [nodes] at mem
  rcases List.mem_cons.mp mem with rfl | mem
  · exact .inl rfl
  · rcases List.mem_append.mp mem with inner | absent
    · exact .inr inner
    · exact .inl (List.mem_singleton.mp absent ▸ rfl)

end Generator

/-! ## Closed properties -/

/-- A property of computations that answers and words have and that passes on to sequences. -/
structure Closed (P : (α : Type) → Draw α → Prop) : Prop where
  pure : ∀ {α : Type} (a : α), P α (pure a)
  word : P UInt64 Draw.word
  bind : ∀ {α β : Type} {d : Draw α} {f : α → Draw β}, P α d → (∀ a, P β (f a)) → P β (d >>= f)

namespace Closed

variable {P : (α : Type) → Draw α → Prop} (closed : Closed P)

include closed

/-- A number of several words, by as many steps; the other draws of plain values rest on this one.
-/
theorem natural : ∀ words, P Nat (Draw.natural words)
  | 0 => closed.pure 0
  | words + 1 => closed.bind closed.word fun _ =>
    closed.bind (natural words) fun _ => closed.pure _

theorem below (n : Nat) : P Nat (Draw.below n) :=
  closed.bind (closed.natural _) fun _ => closed.pure _

/-- As many draws as are asked for, one after the other. -/
theorem times {α : Type} {one : Draw α} (each : P α one) : ∀ count,
    P (List α) (Draw.times one count)
  | 0 => closed.pure []
  | count + 1 => closed.bind each fun _ => closed.bind (times each count) fun _ => closed.pure _

theorem number : P Number Draw.number := by
  refine closed.bind (closed.below 7) fun kind => closed.bind closed.word fun w => ?_
  dsimp only
  split
  · exact closed.pure _
  · exact closed.pure _
  · exact closed.bind (closed.below 2046) fun _ => closed.pure _

/-- Characters are drawn by their place among those that exist, so no draw has to be repeated. -/
theorem character : P Char Draw.character :=
  closed.bind (closed.below _) fun _ => closed.bind (closed.below _) fun _ => closed.pure _

theorem text : P String Draw.text :=
  closed.bind (closed.below 33) fun _ =>
    closed.bind (closed.times closed.character _) fun _ => closed.pure _

theorem leaf : P Value Draw.leaf := by
  refine closed.bind (closed.below 4) fun kind => ?_
  split
  · exact closed.pure _
  · exact closed.bind (closed.below 2) fun _ => closed.pure _
  · exact closed.bind closed.number fun _ => closed.pure _
  · exact closed.bind closed.text fun _ => closed.pure _

/-- Any JSON value down to a depth, by induction on it. -/
theorem json : ∀ depth, P Value (Draw.json depth)
  | 0 => closed.leaf
  | depth + 1 => by
    have items := fun size => closed.times (json depth) size
    have members := fun size => closed.times (closed.bind closed.text fun name =>
      closed.bind (json depth) fun v => closed.pure (name, v)) size
    refine closed.bind (closed.below 5) fun kind => ?_
    split
    · exact closed.leaf
    · exact closed.bind (closed.below 8) fun _ => closed.bind (items _) fun _ => closed.pure _
    · exact closed.bind (closed.below 8) fun _ => closed.bind (items _) fun _ => closed.pure _
    · exact closed.bind (closed.below 8) fun _ => closed.bind (members _) fun _ => closed.pure _

/-! ### Draws of generators -/

omit closed

/-- A property agrees with a tape if it holds of what the tape gives, and with a search if it passes
on to it from the draws that are searched. -/
def Admits (P : (α : Type) → Draw α → Prop) : Generator → Prop
  | .tape id values => P Value (Draw.fromTape id values)
  | .filtered source label keep =>
    P Value source.draw → P Value (Generator.filtered source label keep).draw
  | .rotated candidates label keep =>
    P (List Value) (Generator.drawAll candidates) →
      P Value (Generator.rotated candidates label keep).draw
  | _ => True

include closed

/-- What passes on from attempts to searches agrees with filters. -/
theorem admits_filtered {source : Generator} {label : Option String} {keep : Value → Bool}
    (search : ∀ attempt, P (Option Value) attempt → P Value (Draw.untilKept label attempt)) :
    Admits P (.filtered source label keep) :=
  fun inner => search _ (closed.bind inner fun _ => closed.pure _)

/-- A search among candidates has the property if the search itself has, whatever it tries. -/
theorem admits_rotated {candidates : List Generator} {label : String} {keep : Value → Bool}
    (search : ∀ attempt, P (Option Value) attempt →
      P Value (Draw.untilKept (some label) attempt)) :
    Admits P (.rotated candidates label keep) :=
  fun each => search _ (closed.bind each fun _ => closed.bind (closed.below _) fun _ =>
    closed.pure _)

/-- What holds of the draws of fields holds of their draw one after the other. -/
theorem eachField {fields : List (String × Generator)}
    (each : ∀ field ∈ fields, P Value field.2.draw) :
    P (List (String × Value)) (Generator.drawFields fields) := by
  induction fields with
  | nil => exact closed.pure _
  | cons field rest ih =>
    obtain ⟨head, tail⟩ := List.forall_mem_cons.mp each
    exact closed.bind head fun _ => closed.bind (ih tail) fun _ => closed.pure _

/-- An optional value is drawn or left out. -/
theorem optional {source : Generator} (inner : P Value source.draw) :
    P Value (Generator.optional source).draw := by
  refine closed.bind (closed.below _) fun index => ?_
  match index with
  | 0 => exact inner
  | 1 => exact closed.pure _
  | _ + 2 => exact closed.pure _

mutual

/-- The property holds of a draw from every generator, if it holds at those of its parts that are
not plain: by induction on the generator, one case for each way in which it is put together. -/
theorem draw : ∀ g : Generator, (∀ h ∈ g.nodes, Admits P h) → P Value g.draw
  | .constant _, _ => closed.pure _
  | .boolean, _ => closed.bind (closed.below 2) fun _ => closed.pure _
  | .number, _ => closed.bind closed.number fun _ => closed.pure _
  | .text, _ => closed.bind closed.text fun _ => closed.pure _
  | .void, _ => closed.bind (closed.below 2) fun _ => closed.pure _
  | .callable, _ => closed.bind closed.word fun _ => closed.pure _
  | .json depth, _ => closed.json depth
  | .tape id values, admits => admits (.tape id values) (Generator.self_mem_nodes _)
  | .array element most, admits => by
    have each := draw element fun h mem => admits h (List.mem_cons_of_mem _ mem)
    exact closed.bind (closed.below _) fun size =>
      closed.bind (closed.times each size) fun _ => closed.pure _
  | .dictionary value most, admits => by
    have each := draw value fun h mem => admits h (List.mem_cons_of_mem _ mem)
    have member := closed.bind closed.text fun name =>
      closed.bind each fun v => closed.pure (name, v)
    exact closed.bind (closed.below _) fun size =>
      closed.bind (closed.times member size) fun _ => closed.pure _
  | .oneOf first others, admits => by
    refine closed.bind (closed.below _) fun index => ?_
    cases index with
    | zero =>
      exact draw first fun h mem => admits h (.tail _ (List.mem_append_left _ mem))
    | succ index =>
      exact drawAt others (fun h mem => admits h (.tail _ (List.mem_append_right _ mem))) index
  | .tupleOf components, admits => by
    have each := drawAll components fun h mem => admits h (List.mem_cons_of_mem _ mem)
    exact closed.bind each fun _ => closed.pure _
  | .recordOf fields, admits => by
    have each := drawFields fields fun h mem => admits h (List.mem_cons_of_mem _ mem)
    exact closed.bind each fun _ => closed.pure _
  | .mapped source _, admits => by
    have inner := draw source fun h mem => admits h (List.mem_cons_of_mem _ mem)
    exact closed.bind inner fun _ => closed.pure _
  | .filtered source label keep, admits => by
    have inner := draw source fun h mem => admits h (List.mem_cons_of_mem _ mem)
    exact admits (.filtered source label keep) (Generator.self_mem_nodes _) inner
  | .rotated candidates label keep, admits => by
    have each := drawAll candidates fun h mem => admits h (List.mem_cons_of_mem _ mem)
    exact admits (.rotated candidates label keep) (Generator.self_mem_nodes _) each
  | .mended base extra count _, admits => by
    have inner := draw base fun h mem => admits h (.tail _ (List.mem_append_left _ mem))
    have each := draw extra fun h mem => admits h (.tail _ (List.mem_append_right _ mem))
    exact closed.bind inner fun _ => closed.bind (closed.times each count) fun _ =>
      closed.bind (closed.times closed.word count) fun _ => closed.pure _

/-- A tuple's components are drawn from left to right. -/
theorem drawAll : ∀ gs : List Generator, (∀ h ∈ Generator.nodesAll gs, Admits P h) →
    P (List Value) (Generator.drawAll gs)
  | [], _ => closed.pure _
  | g :: rest, admits => by
    have head := draw g fun h mem => admits h (List.mem_append_left _ mem)
    have tail := drawAll rest fun h mem => admits h (List.mem_append_right _ mem)
    exact closed.bind head fun _ => closed.bind tail fun _ => closed.pure _

/-- An alternative is drawn alone; those before it are passed over without a word. -/
theorem drawAt : ∀ gs : List Generator, (∀ h ∈ Generator.nodesAll gs, Admits P h) →
    ∀ index, P Value (Generator.drawAt gs index)
  | [], _, _ => closed.pure _
  | g :: _, admits, 0 => draw g fun h mem => admits h (List.mem_append_left _ mem)
  | _ :: rest, admits, index + 1 =>
    drawAt rest (fun h mem => admits h (List.mem_append_right _ mem)) index

/-- A record's fields are drawn from left to right, the names going along. -/
theorem drawFields : ∀ fields : List (String × Generator),
    (∀ h ∈ Generator.nodesFields fields, Admits P h) →
      P (List (String × Value)) (Generator.drawFields fields)
  | [], _ => closed.pure _
  | (_, g) :: rest, admits => by
    have head := draw g fun h mem => admits h (List.mem_append_left _ mem)
    have tail := drawFields rest fun h mem => admits h (List.mem_append_right _ mem)
    exact closed.bind head fun _ => closed.bind tail fun _ => closed.pure _

end

end Closed

end Specimen
