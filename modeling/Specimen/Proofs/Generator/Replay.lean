import Mathlib.Algebra.Group.Nat.Defs
import Mathlib.Data.List.Basic
import Mathlib.Data.Nat.Basic
import Specimen.Proofs.Generator.Draws
import Specimen.Proofs.Generator.Induction
import Specimen.Proofs.Generator.Patience

/-!
# Drawing the same again

What a computation reads is the words of the stream, the budget, and how far its own tapes have
moved. So whatever it came to once, it comes to again wherever the same words come next, its tapes
stand as they stood, and the budget can bear as many rejections; and it then moves its own tapes as
it did and no other (`Replays`). Computations that keep to some tapes in this way are `Local` to
them; the draw of a generator is local to the tapes that occur in it.

From this follows what a sequence can give. If its two parts have no tape in common, then words and
tapes for both can be put side by side (`Replays.beside`), so that what comes first does not decide
what can come second (`Local.gives_bind`). With a common tape it may.

Not established here: how likely any value is.
-/

namespace Specimen

/-- The words of a stream from a position on begin with these. -/
def Choices.Continues (choices : Choices) : Nat → List UInt64 → Prop
  | _, [] => True
  | position, w :: words => choices position = w ∧ Continues choices (position + 1) words

namespace Choices

theorem continues_append {choices : Choices} {position : Nat} {words more : List UInt64} :
    choices.Continues position (words ++ more) ↔
      choices.Continues position words ∧ choices.Continues (position + words.length) more := by
  induction words generalizing position with
  | nil => simp [Continues]
  | cons w words ih => simp [Continues, ih, and_assoc, Nat.add_comm, Nat.add_left_comm]

/-- The stream of some words, and zeros after them. -/
def ofWords (words : List UInt64) : Choices := fun position => words.getD position 0

theorem ofWords_continues (words : List UInt64) :
    ∀ before : List UInt64, (ofWords (before ++ words)).Continues before.length words := by
  induction words with
  | nil => exact fun _ => trivial
  | cons w words ih =>
    intro before
    have rest := ih (before ++ [w])
    rw [List.append_assoc, List.singleton_append, List.length_append] at rest
    exact ⟨by simp [ofWords], rest⟩

end Choices

/-! ## Tapes of a run -/

namespace Run

theorem drawnFrom_of_tapes {run other : Run} (same : run.tapes = other.tapes) (id : Nat) :
    run.drawnFrom id = other.drawnFrom id := by
  rw [drawnFrom, drawnFrom, same]

private theorem lookup_filter_ne {id other : Nat} (apart : other ≠ id) :
    ∀ tapes : List (Nat × Nat),
      (tapes.filter fun entry => entry.1 != id).lookup other = tapes.lookup other
  | [] => rfl
  | (key, place) :: rest => by
    by_cases same : key = id
    · have missed : (other == key) = false := by simp [same, apart]
      rw [List.filter_cons_of_neg (by simp [same]), List.lookup_cons, missed,
        lookup_filter_ne apart rest]
    · rw [List.filter_cons_of_pos (by simp [same]), List.lookup_cons, List.lookup_cons,
        lookup_filter_ne apart rest]

/-- A tape that is drawn from moves by one, and the others stay. -/
theorem drawnFrom_moved (run : Run) (id other : Nat) :
    { run with tapes := (id, run.drawnFrom id + 1) ::
        run.tapes.filter fun entry => entry.1 != id }.drawnFrom other =
      if other = id then run.drawnFrom id + 1 else run.drawnFrom other := by
  by_cases same : other = id
  · rw [if_pos same, drawnFrom, List.lookup_cons, beq_iff_eq.mpr same]
    rfl
  · have missed : (other == id) = false := by simp [same]
    rw [if_neg same, drawnFrom, List.lookup_cons, missed, lookup_filter_ne same]
    rfl

/-- A run whose tapes have moved so far. -/
def standing (ids : List Nat) (places : Nat → Nat) : Run :=
  { start with tapes := ids.map fun id => (id, places id) }

theorem drawnFrom_standing {ids : List Nat} {places : Nat → Nat} {id : Nat} (mem : id ∈ ids) :
    (standing ids places).drawnFrom id = places id := by
  have found : (ids.map fun id => (id, places id)).lookup id = some (places id) := by
    induction ids with
    | nil => cases mem
    | cons first rest ih =>
      rw [List.map_cons, List.lookup_cons]
      by_cases same : id = first
      · rw [beq_iff_eq.mpr same, same]
      · have later : id ∈ rest := (List.mem_cons.mp mem).resolve_left same
        rw [beq_eq_false_iff_ne.mpr same]
        exact ih later
  exact congrArg (Option.getD · 0) found

end Run

/-- Where some tapes stand in one way and the others in another. -/
def meld (ids : List Nat) (here there : Nat → Nat) : Nat → Nat :=
  fun id => if id ∈ ids then here id else there id

namespace Draw

variable {α β : Type} {d : Draw α} {f : α → Draw β} {ids others : List Nat}
  {words more : List UInt64} {cost extra : Nat} {here there beyond : Nat → Nat} {a : α} {b : β}
  {label : Option String} {attempt : Draw (Option Value)} {v : Value}

/-! ## Replays -/

/-- One run has come out of another by reading so many words, rejecting so often, and moving these
tapes so far and no others. -/
structure Advances (ids : List Nat) (words : List UInt64) (cost : Nat) (there : Nat → Nat)
    (run after : Run) : Prop where
  position : after.position = run.position + words.length
  spent : after.spent = run.spent + cost
  inside : ∀ id ∈ ids, after.drawnFrom id = there id
  outside : ∀ id, id ∉ ids → after.drawnFrom id = run.drawnFrom id

/-- Wherever these words come next, the tapes stand here and the budget can bear so many rejections,
a computation reads the words, rejects so often and ends in this value, and the tapes stand there.
-/
def Replays (ids : List Nat) (d : Draw α) (words : List UInt64) (cost : Nat)
    (here there : Nat → Nat) (a : α) : Prop :=
  ∀ source run, source.choices.Continues run.position words → run.spent + cost ≤ source.budget →
    (∀ id ∈ ids, run.drawnFrom id = here id) →
      ∃ after, d source run = .ok a after ∧ Advances ids words cost there run after

theorem Advances.trans {run between after : Run} (first : Advances ids words cost there run between)
    (second : Advances ids more extra beyond between after) :
    Advances ids (words ++ more) (cost + extra) beyond run after where
  position := by rw [second.position, first.position, List.length_append, Nat.add_assoc]
  spent := by rw [second.spent, first.spent, Nat.add_assoc]
  inside := second.inside
  outside id out := (second.outside id out).trans (first.outside id out)

/-- One part of a sequence after the other, over the same tapes. -/
theorem Replays.bind (first : Replays ids d words cost here there a)
    (second : Replays ids (f a) more extra there beyond b) :
    Replays ids (d >>= f) (words ++ more) (cost + extra) here beyond b := by
  intro source run continues within standing
  obtain ⟨now, next⟩ := Choices.continues_append.mp continues
  obtain ⟨between, ran, advances⟩ := first source run now (by omega) standing
  rw [← advances.position] at next
  have left : between.spent + extra ≤ source.budget := by
    have spent := advances.spent
    omega
  obtain ⟨after, ran', advances'⟩ := second source between next left advances.inside
  exact ⟨after, (bind_of_ok ran).trans ran', advances.trans advances'⟩

/-- One part of a sequence after the other, each over tapes of its own. -/
theorem Replays.beside {later last : Nat → Nat} (apart : ids.Disjoint others)
    (first : Replays ids d words cost here there a)
    (second : Replays others (f a) more extra later last b) :
    Replays (ids ++ others) (d >>= f) (words ++ more) (cost + extra) (meld ids here later)
      (meld ids there last) b := by
  intro source run continues within standing
  obtain ⟨now, next⟩ := Choices.continues_append.mp continues
  have own : ∀ id ∈ ids, run.drawnFrom id = here id := fun id mem =>
    (standing id (List.mem_append_left _ mem)).trans (if_pos mem)
  obtain ⟨between, ran, advances⟩ := first source run now (by omega) own
  rw [← advances.position] at next
  have left : between.spent + extra ≤ source.budget := by
    have spent := advances.spent
    omega
  -- the first part has left the tapes of the second where they stood
  have other : ∀ id ∈ others, id ∉ ids := fun id mem among => apart among mem
  have still : ∀ id ∈ others, between.drawnFrom id = later id := fun id mem =>
    (advances.outside id (other id mem)).trans
      ((standing id (List.mem_append_right _ mem)).trans (if_neg (other id mem)))
  obtain ⟨after, ran', advances'⟩ := second source between next left still
  refine ⟨after, (bind_of_ok ran).trans ran', ?_, ?_, fun id mem => ?_, fun id out => ?_⟩
  · rw [advances'.position, advances.position, List.length_append, Nat.add_assoc]
  · rw [advances'.spent, advances.spent, Nat.add_assoc]
  · by_cases among : id ∈ ids
    · have out : id ∉ others := fun mem => apart among mem
      exact (advances'.outside id out).trans
        ((advances.inside id among).trans (if_pos among).symm)
    · have among' : id ∈ others := (List.mem_append.mp mem).resolve_left among
      exact (advances'.inside id among').trans (if_neg among).symm
  · obtain ⟨out, out'⟩ := not_or.mp (List.mem_append.not.mp out)
    exact (advances'.outside id out').trans (advances.outside id out)

/-- What is replayed is given, by a run that starts with everything in place. -/
theorem Replays.gives (replays : Replays ids d words cost here there a) : d.Gives a := by
  obtain ⟨after, ran, _⟩ := replays ⟨.ofWords words, cost⟩ (.standing ids here)
    (Choices.ofWords_continues words []) (Nat.le_of_eq (Nat.zero_add cost))
    fun _ mem => Run.drawnFrom_standing mem
  exact ⟨_, _, _, ran⟩

/-! ## Local computations -/

/-- Whatever a computation comes to, it comes to again over these tapes. -/
def Local (ids : List Nat) (d : Draw α) : Prop :=
  ∀ ⦃source run a after⦄, d source run = .ok a after →
    ∃ words cost, Replays ids d words cost run.drawnFrom after.drawnFrom a

/-- Answers and words need no tapes, and sequences none but those of their parts. -/
theorem closed_local (ids : List Nat) : Closed fun _ => Local ids where
  pure a := by
    intro source run _ after ran
    cases ran
    refine ⟨[], 0, fun source' run' _ _ standing => ⟨run', rfl, rfl, rfl, standing, ?_⟩⟩
    exact fun _ _ => rfl
  word := by
    intro source run w after ran
    cases ran
    refine ⟨[source.choices run.position], 0, fun source' run' continues _ standing => ?_⟩
    refine ⟨{ run' with position := run'.position + 1 }, ?_, rfl, rfl, standing, fun _ _ => rfl⟩
    rw [← continues.1]
    rfl
  bind first rest := by
    intro source run b last ran
    obtain ⟨a, between, ran, ran'⟩ := bind_eq_ok ran
    obtain ⟨words, cost, replays⟩ := first ran
    obtain ⟨more, extra, replays'⟩ := rest a ran'
    exact ⟨words ++ more, cost + extra, replays.bind replays'⟩

theorem local_fromTape {id : Nat} {values : List Value} (mem : id ∈ ids) :
    Local ids (fromTape id values) := by
  intro source run w after ran
  cases ran
  refine ⟨[], 0, fun source' run' _ _ standing => ?_⟩
  have same : run'.drawnFrom id = run.drawnFrom id := standing id mem
  let tapes := (id, run'.drawnFrom id + 1) :: run'.tapes.filter fun entry => entry.1 != id
  refine ⟨{ run' with tapes := tapes }, by rw [← same]; rfl, rfl, rfl, fun other among => ?_,
    fun other out => ?_⟩
  · refine (Run.drawnFrom_moved run' id other).trans ?_
    rw [same, standing other among]
    exact (Run.drawnFrom_moved run id other).symm
  · have another : other ≠ id := fun one => out (one ▸ mem)
    exact (Run.drawnFrom_moved run' id other).trans (if_neg another)

/-- A search that starts over is replayed with every attempt it took; there is room for them, since
each that failed was paid for. By induction on the attempts that were left. -/
private theorem local_attempts (each : Local ids attempt) : ∀ {left : Nat} {source run v after},
    attempts label attempt left source run = .ok v after →
      ∃ words cost, ∀ room, cost < room →
        Replays ids (attempts label attempt room) words cost run.drawnFrom after.drawnFrom v
  | 0, _, _, _, _, ran => by cases ran
  | left + 1, source, run, v, after, ran => by
    obtain ⟨result, between, tried, ran⟩ := bind_eq_ok ran
    obtain ⟨words, cost, replays⟩ := each tried
    cases result with
    | some w =>
      cases ran
      refine ⟨words, cost, fun room more source' run' continues within standing => ?_⟩
      obtain ⟨room, rfl⟩ : ∃ less, room = less + 1 := ⟨room - 1, by omega⟩
      obtain ⟨last, ran', advances⟩ := replays source' run' continues within standing
      exact ⟨last, attempts_of_some ran', advances⟩
    | none =>
      obtain ⟨_, noted, rejected, ran⟩ := bind_eq_ok ran
      obtain ⟨words', extra, replays'⟩ := local_attempts each ran
      refine ⟨words ++ words', cost + (1 + extra), fun room more source' run' continues within
        standing => ?_⟩
      obtain ⟨room, rfl⟩ : ∃ less, room = less + 1 := ⟨room - 1, by omega⟩
      -- the words of the failed attempt come first, then those of the rest of the search
      obtain ⟨now, next⟩ := Choices.continues_append.mp continues
      obtain ⟨last, ran', advances⟩ := replays source' run' now (by omega) standing
      have spent := advances.spent
      have left : last.spent < source'.budget := by omega
      rw [← advances.position] at next
      have still : ∀ id ∈ ids, (tallied last label).drawnFrom id = noted.drawnFrom id := by
        intro id mem
        rw [Run.drawnFrom_of_tapes (reject_tapes rejected)]
        exact advances.inside id mem
      -- the rejection between the two has to be paid for as well
      have paid : (tallied last label).spent + extra ≤ source'.budget := by
        change last.spent + 1 + extra ≤ _
        omega
      obtain ⟨final, ran'', advances'⟩ := replays' room (by omega) source' (tallied last label)
        next paid still
      refine ⟨final, (attempts_of_none ran' left).trans ran'', ?_⟩
      refine advances.trans ⟨advances'.position, ?_, advances'.inside, advances'.outside⟩
      rw [advances'.spent]
      change last.spent + 1 + extra = _
      omega

theorem local_untilKept (each : Local ids attempt) : Local ids (untilKept label attempt) := by
  intro source run v after ran
  obtain ⟨words, cost, replays⟩ := local_attempts each ran
  refine ⟨words, cost, fun source' run' continues within standing => ?_⟩
  exact replays _ (by omega) source' run' continues within standing

/-! ## What local computations give -/

theorem gives_pure {a b : α} : (pure a : Draw α).Gives b ↔ b = a := by
  constructor
  · exact Gives.pure
  · rintro rfl
    exact ⟨⟨.ofWords [], 0⟩, .start, _, rfl⟩

/-- Whatever comes first, everything that can come second still can, if the two share no tape. -/
theorem Local.gives_bind (first : Local ids d) (rest : ∀ a, Local others (f a))
    (apart : ids.Disjoint others) : (d >>= f).Gives b ↔ ∃ a, d.Gives a ∧ (f a).Gives b := by
  constructor
  · exact Gives.bind
  · rintro ⟨a, ⟨_, _, _, ran⟩, ⟨_, _, _, ran'⟩⟩
    obtain ⟨words, cost, replays⟩ := first ran
    obtain ⟨more, extra, replays'⟩ := rest a ran'
    exact (replays.beside apart replays').gives

/-- What is only made of a given value. -/
theorem gives_map {g : α → β} : (d >>= fun a => pure (g a)).Gives b ↔ ∃ a, d.Gives a ∧ b = g a := by
  constructor
  · intro given
    obtain ⟨a, first, last⟩ := given.bind
    exact ⟨a, first, last.pure⟩
  · rintro ⟨a, ⟨source, run, after, ran⟩, rfl⟩
    exact ⟨source, run, after, bind_of_ok ran⟩

/-- A search that can succeed can succeed at once. -/
theorem Local.gives_untilKept (each : Local ids attempt) :
    (untilKept label attempt).Gives v ↔ attempt.Gives (some v) := by
  refine ⟨Gives.untilKept, fun ⟨_, _, _, ran⟩ => ?_⟩
  obtain ⟨words, cost, replays⟩ := each ran
  obtain ⟨after, ran', _⟩ := replays ⟨.ofWords words, cost⟩ (.standing ids _)
    (Choices.ofWords_continues words []) (Nat.le_of_eq (Nat.zero_add cost))
    fun _ mem => Run.drawnFrom_standing mem
  exact ⟨_, .standing ids _, after,
    (attempts_of_some ran' : attempts label attempt (cost + 1) _ _ = _)⟩

theorem gives_word (w : UInt64) : word.Gives w := ⟨⟨fun _ => w, 0⟩, .start, _, rfl⟩

/-- Every natural that so many words can hold is made of some. -/
theorem gives_natural : ∀ {words k : Nat}, k < UInt64.size ^ words → (natural words).Gives k
  | 0, k, fits => by
    rw [Nat.pow_zero, Nat.lt_one_iff] at fits
    exact gives_pure.mpr fits
  | words + 1, k, fits => by
    have high : k / UInt64.size < UInt64.size ^ words :=
      Nat.div_lt_of_lt_mul (by rwa [← Nat.pow_succ'])
    have low : k % UInt64.size < UInt64.size := Nat.mod_lt k (by decide)
    have closed := closed_local []
    refine (Local.gives_bind closed.word (fun _ =>
      closed.bind (closed.natural words) fun _ => closed.pure _) (List.disjoint_nil_left _)).mpr
        ⟨UInt64.ofNat (k % UInt64.size), gives_word _, ?_⟩
    refine gives_map.mpr ⟨_, gives_natural high, ?_⟩
    rw [UInt64.toNat_ofNat_of_lt' low, Nat.mod_add_div]

/-- Every number below a bound can be drawn. -/
theorem gives_below {n k : Nat} (lt : k < n) : (below n).Gives k := by
  have one : n < UInt64.size * (n / UInt64.size + 1) := Nat.lt_mul_div_succ n (by decide)
  have fits : n < UInt64.size ^ (n / UInt64.size + 1) :=
    Nat.lt_of_lt_of_le one (Nat.mul_le_pow (by decide) _)
  exact gives_map.mpr ⟨k, gives_natural (Nat.lt_trans lt fits), (Nat.mod_eq_of_lt lt).symm⟩

/-- Whatever number is drawn first, everything that can come after it still can. -/
theorem gives_below_bind {n : Nat} {f : Nat → Draw β} (rest : ∀ k, Local ids (f k)) :
    (below n >>= f).Gives b ↔ ∃ k, (below n).Gives k ∧ (f k).Gives b :=
  Local.gives_bind ((closed_local []).below n) rest (List.disjoint_nil_left _)

end Draw

end Specimen
