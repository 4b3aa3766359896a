import Mathlib.Data.List.Forall2
import Mathlib.Tactic.Common
import Specimen.Generator.Draw

/-!
# What can be drawn

A computation gives a value when some run of it, from some choices, under some budget and from some
state, ends in that value; a generator draws what its draw gives. What is said here of every value
that can be drawn is therefore said of all seeds, all budgets and all histories at once.

For each combinator a lemma says what its draws are made of. The two that matter most concern
rejection: whatever a filter gives, it keeps (`Draws.of_filtered`), and so does the choice among
candidates (`Draws.of_rotated`), however often either had to start over.
-/

namespace Specimen

namespace Draw

variable {α β : Type}

/-- Some run of a computation ends in this value. -/
def Gives (d : Draw α) (a : α) : Prop := ∃ source run after, d source run = .ok a after

/-- A sequence that comes to something has come to something halfway. -/
theorem bind_eq_ok {d : Draw α} {f : α → Draw β} {source : Source} {run after : Run} {b : β}
    (ran : (d >>= f) source run = .ok b after) :
    ∃ a between, d source run = .ok a between ∧ f a source between = .ok b after := by
  change EStateM.bind (d source) (fun a => f a source) run = _ at ran
  unfold EStateM.bind at ran
  split at ran
  · exact ⟨_, _, by assumption, ran⟩
  · cases ran

/-- What a sequence gives, its second part gives after a result that the first part gives. The runs
in which they do so need not be told. -/
theorem Gives.bind {d : Draw α} {f : α → Draw β} {b : β} :
    (d >>= f).Gives b → ∃ a, d.Gives a ∧ (f a).Gives b := by
  rintro ⟨source, run, after, ran⟩
  obtain ⟨a, between, first, second⟩ := bind_eq_ok ran
  exact ⟨a, ⟨source, run, between, first⟩, ⟨source, between, after, second⟩⟩

theorem Gives.pure {a b : α} : (pure a : Draw α).Gives b → b = a := by
  rintro ⟨source, run, after, ran⟩
  cases ran
  rfl

/-- A choice among some is one of them. Of a choice among none nothing is said. -/
theorem Gives.below {n k : Nat} (given : (below n).Gives k) : 0 < n → k < n := by
  obtain ⟨w, _, last⟩ := given.bind
  intro some
  rw [last.pure]
  exact Nat.mod_lt _ some

/-- As many results as were asked for, and each of them is one that a single draw gives. -/
theorem Gives.times {one : Draw α} :
    ∀ {count : Nat} {as : List α}, (times one count).Gives as →
      as.length = count ∧ ∀ a ∈ as, one.Gives a
  | 0, as, given => by simp [given.pure]
  | count + 1, as, given => by
    obtain ⟨first, hfirst, given⟩ := given.bind
    obtain ⟨others, hothers, given⟩ := given.bind
    obtain ⟨length, each⟩ := Gives.times hothers
    rw [given.pure]
    refine ⟨by simp [length], ?_⟩
    intro a mem
    rcases List.mem_cons.mp mem with rfl | mem
    · exact hfirst
    · exact each a mem

/-- A rejection is noted without reading a tape. -/
theorem reject_tapes {label : Option String} {source : Source} {run after : Run}
    (noted : reject label source run = .ok () after) : after.tapes = run.tapes := by
  unfold reject at noted
  dsimp only at noted
  split at noted
  · cases noted
  · cases noted; rfl

/-- A search ends in its last attempt, and what no attempt changes about the tapes is then as it was
when the search began. -/
theorem attempts_last {label : Option String} {attempt : Draw (Option Value)} {source : Source}
    {P : List (Nat × Nat) → Prop}
    (keeps : ∀ run result after, P run.tapes → attempt source run = .ok result after →
      P after.tapes) :
    ∀ {left : Nat} {run after : Run} {v : Value}, P run.tapes →
      attempts label attempt left source run = .ok v after →
      ∃ before, P before.tapes ∧ attempt source before = .ok (some v) after
  | 0, _, _, _, _, ran => by cases ran
  | left + 1, run, after, v, here, ran => by
    obtain ⟨result, between, tried, ran⟩ := bind_eq_ok ran
    cases result with
    | some w => cases ran; exact ⟨run, here, tried⟩
    | none =>
      obtain ⟨_, noted, rejected, ran⟩ := bind_eq_ok ran
      have still : P noted.tapes := by
        rw [reject_tapes rejected]
        exact keeps run none between here tried
      exact attempts_last keeps still ran

/-- The value of a search is that of an attempt. -/
theorem Gives.untilKept {label : Option String} {attempt : Draw (Option Value)} {v : Value} :
    (untilKept label attempt).Gives v → attempt.Gives (some v) := by
  rintro ⟨source, run, after, ran⟩
  obtain ⟨before, _, last⟩ := attempts_last (P := fun _ => True) (by simp) trivial ran
  exact ⟨source, before, after, last⟩

end Draw

namespace Generator

/-- A value that can be drawn. -/
def Draws (g : Generator) (v : Value) : Prop := g.draw.Gives v

/-- A filter ends in a draw of its source that it keeps, and what no draw of the source changes about
the tapes is as it was before. -/
theorem filtered_last {g : Generator} {label : Option String} {keep : Value → Bool}
    {source : Source} {P : List (Nat × Nat) → Prop}
    (keeps : ∀ run v after, P run.tapes → g.draw source run = .ok v after → P after.tapes)
    {run after : Run} {v : Value} (here : P run.tapes)
    (drawn : (filtered g label keep).draw source run = .ok v after) :
    ∃ before, P before.tapes ∧ g.draw source before = .ok v after ∧ keep v = true := by
  let attempt : Draw (Option Value) := do
    let v ← g.draw
    return if keep v then some v else none
  have tried : ∀ run result after, attempt source run = .ok result after →
      ∃ w, g.draw source run = .ok w after ∧ result = if keep w then some w else none := by
    intro run result after ran
    obtain ⟨w, between, first, last⟩ := Draw.bind_eq_ok ran
    cases last
    exact ⟨w, first, rfl⟩
  have still : ∀ run result after, P run.tapes → attempt source run = .ok result after →
      P after.tapes := by
    intro run result after here ran
    obtain ⟨w, first, _⟩ := tried run result after ran
    exact keeps run w after here first
  obtain ⟨before, there, last⟩ := Draw.attempts_last still here drawn
  obtain ⟨w, ran, same⟩ := tried before (some v) after last
  split at same
  case isTrue kept => cases same; exact ⟨before, there, ran, kept⟩
  case isFalse => cases same

namespace Draws

variable {v : Value}

/-! ## Leaves -/

theorem of_constant {w : Value} (drawn : (constant w).Draws v) : v = w := drawn.pure

/-- Which values a leaf can draw at all; the laws for leaves say no more than their type. -/
theorem of_boolean (drawn : boolean.Draws v) : ∃ b, v = .bool b := by
  obtain ⟨k, _, last⟩ := drawn.bind
  exact ⟨_, last.pure⟩

theorem of_number (drawn : number.Draws v) : ∃ x, v = .number x := by
  obtain ⟨x, _, last⟩ := drawn.bind
  exact ⟨x, last.pure⟩

theorem of_text (drawn : text.Draws v) : ∃ s, v = .string s := by
  obtain ⟨s, _, last⟩ := drawn.bind
  exact ⟨s, last.pure⟩

theorem of_void (drawn : void.Draws v) : v = .undefined ∨ v = .null := by
  obtain ⟨k, _, last⟩ := drawn.bind
  rw [last.pure]
  split
  · exact .inl rfl
  · exact .inr rfl

theorem of_callable (drawn : callable.Draws v) : ∃ c, v = .callable c := by
  obtain ⟨w, _, last⟩ := drawn.bind
  exact ⟨⟨w⟩, last.pure⟩

/-! ## Lists of generators -/

/-- A value for each generator, in their order. -/
theorem of_drawAll :
    ∀ {gs : List Generator} {vs : List Value}, (drawAll gs).Gives vs → List.Forall₂ Draws gs vs
  | [], vs, given => by rw [given.pure]; exact .nil
  | g :: gs, vs, given => by
    obtain ⟨first, hfirst, given⟩ := given.bind
    obtain ⟨others, hothers, given⟩ := given.bind
    rw [given.pure]
    exact .cons hfirst (of_drawAll hothers)

/-- The index chooses one of the options, as long as there are as many. -/
theorem of_drawAt :
    ∀ {gs : List Generator} {index : Nat}, index < gs.length → (drawAt gs index).Gives v →
      ∃ g ∈ gs, g.Draws v
  | g :: gs, 0, _, given => ⟨g, List.mem_cons_self, given⟩
  | g :: gs, index + 1, lt, given => by
    obtain ⟨h, mem, drawn⟩ := of_drawAt (Nat.lt_of_succ_lt_succ lt) given
    exact ⟨h, List.mem_cons_of_mem _ mem, drawn⟩

/-- A member is drawn under the name of its field. -/
def Member (field : String × Generator) (member : String × Value) : Prop :=
  member.1 = field.1 ∧ field.2.Draws member.2

/-- A member for each field, under its name and in its place. -/
theorem of_drawFields :
    ∀ {fields : List (String × Generator)} {members : List (String × Value)},
      (drawFields fields).Gives members → List.Forall₂ Member fields members
  | [], members, given => by rw [given.pure]; exact .nil
  | (name, g) :: fields, members, given => by
    obtain ⟨first, hfirst, given⟩ := given.bind
    obtain ⟨others, hothers, given⟩ := given.bind
    rw [given.pure]
    exact .cons ⟨rfl, hfirst⟩ (of_drawFields hothers)

/-! ## Combinators -/

/-- An array has at most as many items as it may, and each item is a value that the element draws.
-/
theorem of_array {element : Generator} {most : Nat} (drawn : (array element most).Draws v) :
    ∃ items, v = .array items ∧ items.length ≤ most ∧ ∀ item ∈ items, element.Draws item := by
  obtain ⟨size, hsize, drawn⟩ := drawn.bind
  obtain ⟨items, hitems, last⟩ := drawn.bind
  obtain ⟨length, each⟩ := hitems.times
  have small := hsize.below (Nat.succ_pos most)
  exact ⟨items, last.pure, by omega, each⟩

/-- Names are drawn as well and may coincide; of members with one name the last is kept. -/
theorem of_dictionary {value : Generator} {most : Nat} (drawn : (dictionary value most).Draws v) :
    ∃ pairs, v = .object (Fields.ofPairs pairs) ∧ pairs.length ≤ most ∧
      ∀ pair ∈ pairs, value.Draws pair.2 := by
  obtain ⟨size, hsize, drawn⟩ := drawn.bind
  obtain ⟨pairs, hpairs, last⟩ := drawn.bind
  obtain ⟨length, each⟩ := hpairs.times
  have small := hsize.below (Nat.succ_pos most)
  refine ⟨pairs, last.pure, by omega, ?_⟩
  intro pair mem
  obtain ⟨name, _, given⟩ := (each pair mem).bind
  obtain ⟨w, hw, given⟩ := given.bind
  rw [given.pure]
  exact hw

/-- A choice draws from one of its options. -/
theorem of_oneOf {first : Generator} {others : List Generator}
    (drawn : (oneOf first others).Draws v) : ∃ g ∈ first :: others, g.Draws v := by
  obtain ⟨index, hindex, drawn⟩ := drawn.bind
  have lt := hindex.below (Nat.succ_pos _)
  cases index with
  | zero => exact ⟨first, List.mem_cons_self, drawn⟩
  | succ index =>
    obtain ⟨g, mem, drawn⟩ := of_drawAt (Nat.lt_of_succ_lt_succ lt) drawn
    exact ⟨g, List.mem_cons_of_mem _ mem, drawn⟩

/-- An optional value is there or undefined. -/
theorem of_optional {source : Generator} (drawn : (optional source).Draws v) :
    source.Draws v ∨ v = .undefined := by
  obtain ⟨option, mem, given⟩ := of_oneOf drawn
  rcases List.mem_pair.mp mem with rfl | rfl
  · exact .inl given
  · exact .inr (of_constant given)

theorem of_tupleOf {components : List Generator} (drawn : (tupleOf components).Draws v) :
    ∃ items, v = .array items ∧ List.Forall₂ Draws components items := by
  obtain ⟨items, hitems, last⟩ := drawn.bind
  exact ⟨items, last.pure, of_drawAll hitems⟩

/-- A record has a member for each field. Fields that are declared twice coincide in the object, not
in the members. -/
theorem of_recordOf {fields : List (String × Generator)} (drawn : (recordOf fields).Draws v) :
    ∃ members, v = .object (Fields.ofPairs members) ∧ List.Forall₂ Member fields members := by
  obtain ⟨members, hmembers, last⟩ := drawn.bind
  exact ⟨members, last.pure, of_drawFields hmembers⟩

theorem of_mapped {source : Generator} {f : Value → Value} (drawn : (mapped source f).Draws v) :
    ∃ w, source.Draws w ∧ v = f w := by
  obtain ⟨w, hw, last⟩ := drawn.bind
  exact ⟨w, hw, last.pure⟩

/-- What a filter gives was drawn from its source, and is kept. -/
theorem of_filtered {g : Generator} {label : Option String} {keep : Value → Bool}
    (drawn : (filtered g label keep).Draws v) : g.Draws v ∧ keep v = true := by
  obtain ⟨source, run, after, ran⟩ := drawn
  obtain ⟨before, _, last, kept⟩ := filtered_last (P := fun _ => True) (by simp) trivial ran
  exact ⟨⟨source, before, after, last⟩, kept⟩

/-- A search that finds something finds one of the values drawn, and one that is kept. -/
theorem firstKept_some {keep : Value → Bool} {drawn : List Value} {start : Nat}
    (found : firstKept keep drawn start = some v) : v ∈ drawn ∧ keep v = true := by
  unfold firstKept at found
  refine ⟨?_, List.find?_some found⟩
  rcases List.mem_append.mp (List.mem_of_find?_eq_some found) with mem | mem
  · exact List.mem_of_mem_drop mem
  · exact List.mem_of_mem_take mem

/-- What a choice among candidates gives is a candidate of one attempt, and is kept. -/
theorem of_rotated {candidates : List Generator} {label : String} {keep : Value → Bool}
    (drawn : (rotated candidates label keep).Draws v) :
    ∃ values, List.Forall₂ Draws candidates values ∧ v ∈ values ∧ keep v = true := by
  obtain ⟨values, hvalues, last⟩ := (Draw.Gives.untilKept drawn).bind
  obtain ⟨start, _, last⟩ := last.bind
  obtain ⟨mem, kept⟩ := firstKept_some last.pure.symm
  exact ⟨values, of_drawAll hvalues, mem, kept⟩

/-- What is mended is a value of the base, repaired with so many extras and slots. -/
theorem of_mended {base extra : Generator} {count : Nat} {accepts : Value → Bool}
    (drawn : (mended base extra count accepts).Draws v) :
    ∃ w extras slots, base.Draws w ∧ extras.length = count ∧ (∀ e ∈ extras, extra.Draws e) ∧
      slots.length = count ∧ v = w.repair accepts count extras slots := by
  obtain ⟨w, hw, drawn⟩ := drawn.bind
  obtain ⟨extras, hextras, drawn⟩ := drawn.bind
  obtain ⟨words, hwords, last⟩ := drawn.bind
  obtain ⟨enough, each⟩ := hextras.times
  refine ⟨w, extras, words.map UInt64.toNat, hw, enough, each, ?_, last.pure⟩
  rw [List.length_map, hwords.times.1]

end Draws

/-! ## Runs of draws -/

variable {g : Generator} {source : Source} {run after : Run}

/-- A value that a run comes to can be drawn. -/
theorem draws_of_next {v : Value} (drawn : g.next source run = (.ok v, after)) : g.Draws v := by
  unfold next at drawn
  split at drawn
  case h_1 w _ ran => cases drawn; exact ⟨source, _, _, ran⟩
  case h_2 => cases drawn

/-- A draw fails for want of budget only. -/
theorem next_error {e : GenError} (failed : g.next source run = (.error e, after)) :
    ∃ reason, e = .retryBudgetExceeded reason := by
  unfold next at failed
  split at failed
  case h_1 => cases failed
  case h_2 => cases failed; exact ⟨_, rfl⟩

end Generator

end Specimen
