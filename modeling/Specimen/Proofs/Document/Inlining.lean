import Mathlib.Data.List.Nodup
import Specimen.Proofs.Document.Reading
import Specimen.Proofs.Document.Trees

/-!
# Lowering is inlining

Lowering walks the trees of a document in another order, since it remembers what it has finished and
numbers the nodes as it makes them. It comes to the same: there is one identity for each place at which
a node is made, such that every lowered type is the tree of its name, with these identities
(`Lowering.numbered_of_lower`).

The proof keeps a list of the places whose nodes have been made, in the order in which they were made
(`Tracks`). The identity of a node is its position in the list, so identities are distinct if no
place is in it twice: a declaration is lowered once, and a place in it is passed once. What has been
remembered is the tree of its name under all identities that fit the list, and stays so as the list
grows.
-/

namespace Specimen

namespace Lowering

variable {d : Document} {start : Nat} {active : List String} {current : String}
  {made news : List Site} {own : Site → Nat}

/-! ## What lowering keeps track of -/

/-- Identities by which the sites made so far are numbered from `start` on. -/
def Fits (start : Nat) (made : List Site) (own : Site → Nat) : Prop :=
  ∀ i site, made[i]? = some site → own site = start + i

/-- Identities that fit a list fit its beginning: sites that are added do not move those before. -/
theorem Fits.before (fits : Fits start (made ++ news) own) : Fits start made own := by
  intro i site there
  have small : i < made.length := (List.getElem?_eq_some_iff.mp there).1
  exact fits i site ((List.getElem?_append_left small).trans there)

/-- The site made last has the identity handed out last. -/
theorem Fits.last {site : Site} (fits : Fits start (made ++ [site]) own) :
    own site = start + made.length :=
  fits made.length site List.getElem?_concat_length

/-- A state of lowering and the sites whose nodes have been made, in order: they are as many as
identities have been handed out, none is made twice, and each is of a declaration that is finished or
in progress. What is remembered is the tree of its name. -/
structure Tracks (d : Document) (start : Nat) (active : List String) (made : List Site)
    (state : Lowered) : Prop where
  counted : state.nextId = start + made.length
  nodup : made.Nodup
  begun : ∀ site ∈ made, site.1 ∈ Fields.keys state.done ∨ site.1 ∈ active
  done : ∀ entry ∈ state.done, ∀ own, Fits start made own → d.Inlines own entry.1 entry.2

namespace Tracks

variable {state : Lowered} {name : String}

/-- Beginning another declaration makes nothing yet. -/
theorem enter (tracks : Tracks d start active made state) (name : String) :
    Tracks d start (active ++ [name]) made state :=
  { tracks with begun := fun site mem => (tracks.begun site mem).imp_right (List.mem_append_left _) }

/-- A name that is neither finished nor in progress has no nodes. -/
theorem untouched (tracks : Tracks d start active made state)
    (missing : Fields.get? state.done name = none) (idle : name ∉ active) (place : List Nat) :
    (name, place) ∉ made := by
  intro mem
  rcases tracks.begun _ mem with finished | busy
  · obtain ⟨t, found⟩ := Fields.exists_get? finished
    cases missing.symm.trans found
  · exact idle busy

/-- A declaration that is finished may be remembered, since its tree is the same under all
identities that fit, also when the list has grown. -/
theorem finish {t : Descriptor} (tracks : Tracks d start (active ++ [name]) made state)
    (trees : ∀ own, Fits start made own → d.Inlines own name t) :
    Tracks d start active made { state with done := state.done ++ [(name, t)] } where
  counted := tracks.counted
  nodup := tracks.nodup
  begun site mem := by
    rw [Fields.keys, List.map_append, List.mem_append]
    rcases tracks.begun site mem with finished | busy
    · exact .inl (.inl finished)
    · rcases List.mem_append.mp busy with busy | here
      · exact .inr busy
      · exact .inl (.inr here)
  done entry mem := by
    rcases List.mem_append.mp mem with earlier | here
    · exact tracks.done entry earlier
    · rw [List.mem_singleton.mp here]
      exact trees

end Tracks

/-- A part of lowering, within a declaration in progress, that comes to what a tree is specified by.
Of the declaration itself it makes nodes at some places only, and of others in progress none. -/
def Grows {α : Type} (d : Document) (start : Nat) (active : List String) (current : String)
    (part : Lowering α) (places : List Nat → Prop) (tree : (Site → Nat) → Nat → Option α) : Prop :=
  ∀ ⦃made state a after⦄, Tracks d start active made state →
    (∀ place, places place → (current, place) ∉ made) → part.run state = .ok (a, after) →
      ∃ news, Tracks d start active (made ++ news) after ∧
        (∀ site ∈ news, site.1 ∈ active → site.1 = current ∧ places site.2) ∧
        ∀ own, Fits start (made ++ news) own → Eventually (tree own) a

namespace Grows

variable {α β : Type} {part : Lowering α} {places others : List Nat → Prop}
  {tree : (Site → Nat) → Nat → Option α}

/-- A part that makes no nodes. -/
theorem nothing {a : α} (steady : ∀ state b after, part.run state = .ok (b, after) →
    b = a ∧ after = state) : Grows d start active current part places fun _ _ => some a := by
  intro made state b after tracks _ ran
  obtain ⟨rfl, rfl⟩ := steady state b after ran
  refine ⟨[], ?_, nofun, fun _ _ => .const b⟩
  rwa [List.append_nil]

theorem pure (a : α) : Grows d start active current (pure a) places fun _ _ => some a :=
  nothing fun _ _ _ ran => by cases ran; exact ⟨rfl, rfl⟩

/-- Places may be said less exactly. -/
theorem mono (grows : Grows d start active current part places tree)
    (wider : ∀ place, places place → others place) :
    Grows d start active current part others tree := by
  intro made state a after tracks free ran
  obtain ⟨news, tracks, sites, trees⟩ := grows tracks (fun place at_ => free place (wider place at_)) ran
  refine ⟨news, tracks, fun site mem known => ?_, trees⟩
  obtain ⟨here, at_⟩ := sites site mem known
  exact ⟨here, wider _ at_⟩

theorem bind {next : α → Lowering β} {onward : α → (Site → Nat) → Nat → Option β}
    (present : current ∈ active) (first : Grows d start active current part places tree)
    (rest : ∀ a, Grows d start active current (next a) others (onward a))
    (apart : ∀ place, places place → ¬ others place) :
    Grows d start active current (part >>= next) (fun place => places place ∨ others place)
      fun own depth => (tree own depth).bind fun a => onward a own depth := by
  intro made state b after tracks free ran
  rw [StateT.run_bind] at ran
  obtain ⟨⟨a, between⟩, first', rest'⟩ := Except.bind_eq_ok.mp ran
  obtain ⟨news, tracks, sites, trees⟩ := first tracks (fun place at_ => free place (.inl at_)) first'
  have free' : ∀ place, others place → (current, place) ∉ made ++ news := by
    intro place at_ mem
    rcases List.mem_append.mp mem with before | new
    · exact free place (.inr at_) before
    · exact apart place (sites _ new present).2 at_
  obtain ⟨more, tracks, sites', trees'⟩ := rest a tracks free' rest'
  rw [List.append_assoc] at tracks trees'
  refine ⟨news ++ more, tracks, fun site mem known => ?_, fun own fits => ?_⟩
  · rcases List.mem_append.mp mem with mem | mem
    · exact ⟨(sites site mem known).1, .inl (sites site mem known).2⟩
    · exact ⟨(sites' site mem known).1, .inr (sites' site mem known).2⟩
  · rw [← List.append_assoc] at fits
    exact (trees own fits.before).bind (trees' own (by rwa [List.append_assoc] at fits))

/-- A part that comes after one which makes no nodes. -/
theorem after {next : α → Lowering β} {onward : α → (Site → Nat) → Nat → Option β}
    (present : current ∈ active) (first : Grows d start active current part (fun _ => False) tree)
    (rest : ∀ a, Grows d start active current (next a) others (onward a)) :
    Grows d start active current (part >>= next) others
      fun own depth => (tree own depth).bind fun a => onward a own depth :=
  (first.bind present rest fun _ => False.elim).mono fun _ at_ => at_.resolve_left id

/-- What is made of a result has no place of its own. -/
theorem map (present : current ∈ active) (grows : Grows d start active current part places tree)
    (f : α → β) : Grows d start active current (do return f (← part)) places
      fun own depth => (tree own depth).bind fun a => some (f a) :=
  have done : ∀ a, Grows d start active current (Pure.pure (f a) : Lowering β) (fun _ => False)
      fun _ _ => some (f a) := fun a => pure (f a)
  (grows.bind present done fun _ _ => id).mono fun _ at_ => at_.resolve_right id

theorem within {scope : LoweringScope} (grows : Grows d start active current part places tree) :
    Grows d start active current (Lowering.within scope part) places tree :=
  fun _ _ _ _ tracks free ran => grows tracks free (Except.mapError_eq_ok.mp ran)

/-- A new node, at a place where there is none. -/
theorem fresh (present : current ∈ active) (place : List Nat) (shape : Shape) :
    Grows d start active current (Lowering.fresh (Descriptor.make shape)) (· = place)
      fun own _ => some (.node (own (current, place)) shape) := by
  intro made state t after tracks free ran
  cases ran
  refine ⟨[(current, place)], ?_, ?_, fun own fits => ?_⟩
  · refine ⟨?_, ?_, ?_, ?_⟩
    · rw [List.length_append, ← Nat.add_assoc, ← tracks.counted]
      rfl
    · refine List.nodup_append.mpr ⟨tracks.nodup, List.nodup_singleton _, ?_⟩
      rintro site mem _ single rfl
      exact free place rfl (List.mem_singleton.mp single ▸ mem)
    · intro site mem
      rcases List.mem_append.mp mem with mem | mem
      · exact tracks.begun site mem
      · exact .inr (List.mem_singleton.mp mem ▸ present)
    · exact fun entry mem own fits => tracks.done entry mem own fits.before
  · intro site mem _
    cases List.mem_singleton.mp mem
    exact ⟨rfl, rfl⟩
  · have same : own (current, place) = state.nextId := fits.last.trans tracks.counted.symm
    rw [← same]
    exact .const (Descriptor.node (own (current, place)) shape)

/-- Reading a program makes no node, and comes to the same each time. -/
theorem program (source : String) :
    Grows d start active current (Lowering.program source) (fun _ => False)
      fun _ _ => Node.program? source := by
  unfold Lowering.program Node.program?
  cases Program.compile source with
  | ok p => exact pure p
  | error e => exact fun _ _ _ _ _ _ ran => by cases ran

/-- Nor does reading a correction, if there is one. -/
theorem correction (source : Option String) :
    Grows d start active current (Lowering.correction source) (fun _ => False)
      fun _ _ => Node.correction? source := by
  cases source with
  | none => exact pure none
  | some source =>
    intro made state fix after tracks free ran
    have ran : (Lowering.within .correction (Lowering.program source) >>= fun p =>
        Pure.pure (some p.correction)).run state = .ok (fix, after) := ran
    rw [StateT.run_bind] at ran
    obtain ⟨⟨p, between⟩, compiled, made'⟩ := Except.bind_eq_ok.mp ran
    obtain ⟨news, tracks, sites, trees⟩ := (program source).within tracks free compiled
    cases made'
    refine ⟨news, tracks, sites, fun own fits => ?_⟩
    have fixed : Eventually (fun _ => some (some p.correction)) (some p.correction) := .const _
    exact (trees own fits).bind fixed

end Grows

/-! ## Nodes -/

section Nodes

/-- The places below a place, from a position on. -/
def Beside (place : List Nat) (i : Nat) (q : List Nat) : Prop := ∃ j, i ≤ j ∧ place ++ [j] <+: q

variable {place q : List Nat} {i : Nat}

/-- A child is beside those before it. -/
theorem beside_child (below : place ++ [i] <+: q) : Beside place i q := ⟨i, Nat.le_refl i, below⟩

/-- What is beside a later child is beside an earlier one. -/
theorem Beside.earlier {j : Nat} (beside : Beside place j q) (le : i ≤ j) : Beside place i q := by
  obtain ⟨k, later, below⟩ := beside
  exact ⟨k, Nat.le_trans le later, below⟩

/-- What is beside children is below their parent. -/
theorem Beside.below (beside : Beside place i q) : place <+: q := by
  obtain ⟨j, -, below⟩ := beside
  exact (List.prefix_append place [j]).trans below

/-- And it is not the parent itself, which is made after them all. -/
theorem Beside.ne (beside : Beside place i q) : q ≠ place := by
  obtain ⟨j, -, below⟩ := beside
  rintro rfl
  have short := below.length_le
  rw [List.length_append, List.length_singleton] at short
  exact absurd short (Nat.not_succ_le_self _)

/-- Children of one place have nothing below them in common. -/
theorem not_beside_succ (below : place ++ [i] <+: q) : ¬ Beside place (i + 1) q := by
  rintro ⟨j, later, other⟩
  have same : place ++ [i] = place ++ [j] :=
    (List.prefix_of_prefix_length_le below other (by simp)).eq_of_length (by simp)
  have same : i = j := by simpa using same
  omega

private theorem prefix_of_eq (same : q = place) : place <+: q := same ▸ List.prefix_rfl

section Parts

variable (present : current ∈ active)

include present

/-- A node without parts. -/
theorem Grows.leaf (place : List Nat) (shape : Shape) :
    Grows d start active current (Lowering.fresh (Descriptor.make shape)) (place <+: ·)
      fun own _ => some (.node (own (current, place)) shape) :=
  (Grows.fresh present place shape).mono fun _ => prefix_of_eq

/-- A node after its parts, which stand beside one another below it. -/
theorem Grows.topped {α : Type} {part : Lowering α} {tree : (Site → Nat) → Nat → Option α}
    (parts : Grows d start active current part (Beside place i) tree) (shape : α → Shape) :
    Grows d start active current (do let a ← part; Lowering.fresh (Descriptor.make (shape a)))
      (fun q => Beside place i q ∨ q = place)
      fun own depth => (tree own depth).bind fun a =>
        some (.node (own (current, place)) (shape a)) :=
  parts.bind present (fun a => Grows.fresh present place (shape a)) fun _ => Beside.ne

/-- A node is made after its parts, at a place above theirs. The last step of every shape that has
parts. -/
theorem Grows.above {α : Type} {part : Lowering α} {tree : (Site → Nat) → Nat → Option α}
    (parts : Grows d start active current part (Beside place i) tree) (shape : α → Shape) :
    Grows d start active current (do let a ← part; Lowering.fresh (Descriptor.make (shape a)))
      (place <+: ·)
      fun own depth => (tree own depth).bind fun a =>
        some (.node (own (current, place)) (shape a)) :=
  (parts.topped present shape).mono fun _ at_ => at_.elim Beside.below prefix_of_eq

/-- What comes after a child and stands beside it. -/
theorem Grows.beside {α β : Type} {part : Lowering α} {tree : (Site → Nat) → Nat → Option α}
    {next : α → Lowering β} {onward : α → (Site → Nat) → Nat → Option β}
    (child : Grows d start active current part (place ++ [i] <+: ·) tree)
    (rest : ∀ a, Grows d start active current (next a) (Beside place (i + 1)) (onward a)) :
    Grows d start active current (part >>= next) (Beside place i)
      fun own depth => (tree own depth).bind fun a => onward a own depth :=
  (child.bind present rest fun _ => not_beside_succ).mono fun _ at_ =>
    at_.elim beside_child fun later => later.earlier (Nat.le_succ i)

/-- What comes after a child and stands beside it, or above. -/
theorem Grows.following {α β : Type} {part : Lowering α} {tree : (Site → Nat) → Nat → Option α}
    {next : α → Lowering β} {onward : α → (Site → Nat) → Nat → Option β}
    (child : Grows d start active current part (place ++ [i] <+: ·) tree)
    (rest : ∀ a, Grows d start active current (next a) (fun q => Beside place (i + 1) q ∨ q = place)
      (onward a)) :
    Grows d start active current (part >>= next) (fun q => Beside place i q ∨ q = place)
      fun own depth => (tree own depth).bind fun a => onward a own depth := by
  refine (child.bind present rest ?_).mono ?_
  · rintro q below (beside | rfl)
    · exact not_beside_succ below beside
    · exact (beside_child below).ne rfl
  · rintro q (below | beside | same)
    · exact .inl (beside_child below)
    · exact .inl (beside.earlier (Nat.le_succ i))
    · exact .inr same

end Parts

variable {resolve : String → Lowering Descriptor}

mutual

/-- Lowering a node comes to its tree, and makes nodes at and below its place. -/
theorem node_grows (present : current ∈ active)
    (resolved : ∀ name, Grows d start active current (resolve name) (fun _ => False)
      fun own depth => d.inlined own depth name) :
    ∀ (place : List Nat) (n : Node),
      Grows d start active current (node resolve n) (place <+: ·) fun own depth =>
        n.inline (fun q => own (current, q)) (d.inlined own depth) place
  | place, .always => .leaf present place .always
  | place, .boolean => .leaf present place .boolean
  | place, .number => .leaf present place .number
  | place, .string => .leaf present place .string
  | place, .void => .leaf present place .void
  | place, .function => .leaf present place .function
  | place, .literal value => .leaf present place (.literal value.value)
  | place, .array element =>
    .above present ((node_grows present resolved (place ++ [0]) element).mono
      fun _ => beside_child) .array
  | place, .tuple components =>
    .above present (nodes_grows present resolved place 0 components) .tuple
  | place, .dictionary value =>
    .above present ((node_grows present resolved (place ++ [0]) value).mono
      fun _ => beside_child) .dictionary
  | place, .record fields =>
    .above present (namedFields_grows present resolved place 0 fields) fun fields =>
      .record (Fields.ofPairs fields)
  | place, .partialRecord fields =>
    .above present (namedFields_grows present resolved place 0 fields) fun fields =>
      .partialRecord (Fields.ofPairs fields)
  | place, .union alternatives =>
    .above present (nodes_grows present resolved place 0 alternatives) .union
  | place, .intersect intersectees =>
    .above present (nodes_grows present resolved place 0 intersectees) .intersect
  | _, .reference name => (resolved name).mono nofun
  | place, .constraint underlying predicate fix none =>
    ((node_grows present resolved (place ++ [0]) underlying).following present fun _ =>
      (Grows.program predicate).after present fun _ =>
      (Grows.correction fix).after present fun _ =>
      (Grows.fresh present place _).mono fun _ => .inr).mono
      fun _ at_ => at_.elim Beside.below prefix_of_eq
  | place, .constraint underlying predicate fix (some ⟨tag, params, types⟩) =>
    ((node_grows present resolved (place ++ [0]) underlying).following present fun _ =>
      (Grows.program predicate).after present fun _ =>
      (Grows.correction fix).after present fun _ =>
      (namedTypes_grows present resolved place 1 types).topped present fun types =>
        .constraint _ _ _ (some ⟨tag, params, types⟩)).mono
      fun _ at_ => at_.elim Beside.below prefix_of_eq
  | place, .extension name guard payload =>
    (Grows.program guard).after present fun guard =>
      .leaf present place (.extension name payload guard.predicate)

/-- Nodes in a list are lowered from left to right, each beside those before it. -/
theorem nodes_grows (present : current ∈ active)
    (resolved : ∀ name, Grows d start active current (resolve name) (fun _ => False)
      fun own depth => d.inlined own depth name) :
    ∀ (place : List Nat) (i : Nat) (ns : List Node),
      Grows d start active current (nodes resolve ns) (Beside place i) fun own depth =>
        Node.inlineAll (fun q => own (current, q)) (d.inlined own depth) place i ns
  | _, _, [] => .pure []
  | place, i, n :: rest =>
    (node_grows present resolved (place ++ [i]) n).beside present fun first =>
      (nodes_grows present resolved place (i + 1) rest).map present (first :: ·)

/-- Fields are lowered likewise, within the scope of their names. -/
theorem namedFields_grows (present : current ∈ active)
    (resolved : ∀ name, Grows d start active current (resolve name) (fun _ => False)
      fun own depth => d.inlined own depth name) :
    ∀ (place : List Nat) (i : Nat) (fields : List (String × Node)),
      Grows d start active current (namedFields resolve fields) (Beside place i) fun own depth =>
        Node.inlineFields (fun q => own (current, q)) (d.inlined own depth) place i fields
  | _, _, [] => .pure []
  | place, i, (name, n) :: rest =>
    (node_grows present resolved (place ++ [i]) n).within.beside present fun first =>
      (namedFields_grows present resolved place (i + 1) rest).map present ((name, first) :: ·)

/-- And so are the types of arguments, which are places like any other. -/
theorem namedTypes_grows (present : current ∈ active)
    (resolved : ∀ name, Grows d start active current (resolve name) (fun _ => False)
      fun own depth => d.inlined own depth name) :
    ∀ (place : List Nat) (i : Nat) (types : List (String × Node)),
      Grows d start active current (namedTypes resolve types) (Beside place i) fun own depth =>
        Node.inlineFields (fun q => own (current, q)) (d.inlined own depth) place i types
  | _, _, [] => .pure []
  | place, i, (name, n) :: rest =>
    (node_grows present resolved (place ++ [i]) n).beside present fun first =>
      (namedTypes_grows present resolved place (i + 1) rest).map present ((name, first) :: ·)

end

end Nodes

/-! ## Names -/

/-- A name that is met has its tree, made now or remembered. The recursion is on how many more names
may be in progress. -/
theorem named_grows : ∀ (left : Nat) (active : List String) (current name : String),
    Grows d start active current (named d left active name) (fun _ => False)
      fun own depth => d.inlined own depth name
  | left, active, current, name => by
    intro made state t after tracks _ ran
    unfold named at ran
    rw [StateT.run_bind] at ran
    obtain ⟨⟨_, _⟩, ⟨⟩, ran⟩ := Except.bind_eq_ok.mp ran
    dsimp only at ran
    split at ran
    case h_1 found remembered =>
      cases ran
      refine ⟨[], ?_, nofun, fun own fits => ?_⟩
      · rwa [List.append_nil]
      · exact tracks.done _ (Fields.mem_of_get? remembered) own fits.before
    case h_2 missing =>
    split at ran
    case isTrue => cases ran
    case isFalse idle =>
    have idle : name ∉ active := mt List.contains_iff_mem.mpr idle
    split at ran
    case h_1 => cases ran
    case h_2 => cases ran
    case h_3 declaration left declared _ =>
    obtain ⟨⟨t, between⟩, below, ran⟩ := Except.bind_eq_ok.mp ran
    cases ran
    have grows : Grows d start (active ++ [name]) name
        (node (named d left (active ++ [name])) declaration) ([] <+: ·) fun own depth =>
          declaration.inline (fun place => own (name, place)) (d.inlined own depth) [] :=
      node_grows List.mem_concat_self (named_grows left (active ++ [name]) name) [] declaration
    obtain ⟨news, tracks, sites, trees⟩ := grows (tracks.enter name)
      (fun place _ => tracks.untouched missing idle place) (Except.mapError_eq_ok.mp below)
    have tree : ∀ own, Fits start (made ++ news) own → d.Inlines own name t := by
      intro own fits
      refine .of_succ ?_
      simp only [Document.inlined, declared, Option.bind_some]
      exact trees own fits
    refine ⟨news, tracks.finish tree, fun site mem known => ?_, tree⟩
    -- the new sites of names in progress are of this one, which was not in progress before
    obtain ⟨here, -⟩ := sites site mem (List.mem_append_left _ known)
    exact absurd (here ▸ known) idle

/-! ## Documents -/

/-- The declarations of a document are lowered one after the other; those that were reached from
earlier ones are there already. -/
theorem each_grows : ∀ (names : List String) {made : List Site} {state : Lowered}
    {types : List (String × Descriptor)} {after : Lowered}, Tracks d start [] made state →
      (each d names).run state = .ok (types, after) →
        ∃ news, Tracks d start [] (made ++ news) after ∧ Fields.keys types = names ∧
          ∀ own, Fits start (made ++ news) own →
            ∀ entry ∈ types, d.Inlines own entry.1 entry.2
  | [], made, state, types, after, tracks, ran => by
    cases ran
    refine ⟨[], ?_, rfl, nofun⟩
    rwa [List.append_nil]
  | name :: rest, made, state, types, after, tracks, ran => by
    unfold each at ran
    rw [StateT.run_bind] at ran
    obtain ⟨⟨t, between⟩, first, ran⟩ := Except.bind_eq_ok.mp ran
    rw [StateT.run_bind] at ran
    obtain ⟨⟨types, last⟩, others, ran⟩ := Except.bind_eq_ok.mp ran
    cases ran
    obtain ⟨news, tracks, -, trees⟩ := named_grows _ _ name name tracks (fun _ => nofun) first
    obtain ⟨more, tracks, keys, all⟩ := each_grows rest tracks others
    rw [List.append_assoc] at tracks all
    refine ⟨news ++ more, tracks, congrArg (name :: ·) keys, fun own fits => ?_⟩
    refine List.forall_mem_cons.mpr ⟨?_, all own fits⟩
    rw [← List.append_assoc] at fits
    exact trees own fits.before

/-- Types that are the trees of their names, with one identity for each site at which a node was
made: whichever identities fit the list of these sites. -/
structure Numbered (d : Document) (start : Nat) (made : List Site)
    (types : List (String × Descriptor)) : Prop where
  keys : Fields.keys types = Fields.keys d
  nodup : made.Nodup
  trees : ∀ own, Fits start made own → ∀ entry ∈ types, d.Inlines own entry.1 entry.2

theorem numbered_of_lower {types : List (String × Descriptor)} {last : Nat}
    (lowered : d.lower start = .ok (types, last)) : ∃ made, Numbered d start made types := by
  unfold Document.lower at lowered
  split at lowered
  case h_1 types' after ran =>
    cases lowered
    have clean : Tracks d start [] [] ⟨start, []⟩ :=
      { counted := rfl, nodup := .nil, begun := nofun, done := nofun }
    obtain ⟨made, tracks, keys, trees⟩ := each_grows (d.map Prod.fst) clean ran
    exact ⟨made, keys, tracks.nodup, trees⟩
  case h_2 => cases lowered

end Lowering

end Specimen
