import Mathlib
import Specimen.Proofs.Document.References
import Specimen.Proofs.Fields

/-!
# Lowering accepts the well-formed documents

A document can be lowered exactly if it is well formed, and what an error says of one that cannot is
true: the types it is said to be in are a walk of the reference graph, from the first declared name
from which a fault can be reached to a name whose own declaration is at fault (`lower_iff_wellFormed`).

Names are lowered depth first, with the names in progress in order and the finished ones remembered.
Two invariants carry the proof. Whatever is remembered is sound, so that to remember is not to
overlook a fault; and the names in progress are a walk without repetition, so that there are never
more of them than declarations and the bound on the recursion is never what stops it.
-/

namespace Specimen

/-- The types that an error is said to be in, outermost first. -/
def LoweringError.types (e : LoweringError) : List String :=
  e.scopes.filterMap fun
    | .type name => some name
    | _ => none

namespace Lowering

variable {document : Document} {first last : String} {walk : List String}

/-- Only sound names are remembered. -/
def Remembers (document : Document) (state : Lowered) : Prop :=
  ∀ entry ∈ state.done, document.Sound entry.1

/-- What a part of lowering within the types of a walk may come to: if it succeeds, a fact is
established and only sound names are remembered still; if it fails, the walk leads on to the
cause. -/
def Outcome {α : Type} (document : Document) (first : String) (walk : List String) (fact : Prop) :
    Except LoweringError (α × Lowered) → Prop
  | .ok (_, after) => Remembers document after ∧ fact
  | .error e => ∃ last, document.Walk first (walk ++ e.types) last ∧
      document.CauseAt (walk ++ e.types) last e.cause

/-- A part of lowering that comes to one of these, whenever only sound names are remembered. -/
def Establishes {α : Type} (document : Document) (first : String) (walk : List String)
    (part : Lowering α) (fact : Prop) : Prop :=
  ∀ state, Remembers document state → Outcome document first walk fact (part.run state)

namespace Establishes

variable {α β : Type} {fact other : Prop} {part : Lowering α}

theorem pure (a : α) : Establishes document first walk (pure a) True :=
  fun _ remembers => ⟨remembers, trivial⟩

theorem imp (before : Establishes document first walk part fact) (weaker : fact → other) :
    Establishes document first walk part other := by
  intro state remembers
  have result := before state remembers
  cases ran : part.run state with
  | ok done => rw [ran] at result; exact ⟨result.1, weaker result.2⟩
  | error e => rw [ran] at result; exact result

theorem bind {next : α → Lowering β} (before : Establishes document first walk part fact)
    (after : fact → ∀ a, Establishes document first walk (next a) other) :
    Establishes document first walk (part >>= next) (fact ∧ other) := by
  intro state remembers
  have result := before state remembers
  rw [StateT.run_bind]
  cases ran : part.run state with
  | error e => rw [ran] at result; exact result
  | ok between =>
    rw [ran] at result
    have rest := after result.2 between.1 between.2 result.1
    change Outcome document first walk (fact ∧ other) ((next between.1).run between.2)
    cases ran' : (next between.1).run between.2 with
    | ok done => rw [ran'] at rest; exact ⟨rest.1, result.2, rest.2⟩
    | error e => rw [ran'] at rest; exact rest

theorem get {next : Lowered → Lowering β}
    (each : ∀ state, Remembers document state → Establishes document first walk (next state) fact) :
    Establishes document first walk (get >>= next) fact :=
  fun state remembers => each state remembers state remembers

theorem remember {name : String} (sound : document.Sound name) (t : Descriptor) :
    Establishes document first walk
      (do modify fun state => { state with done := state.done ++ [(name, t)] }; return t) True := by
  intro state remembers
  refine ⟨?_, trivial⟩
  intro entry mem
  rcases List.mem_append.mp mem with mem | mem
  · exact remembers entry mem
  · rw [List.mem_singleton.mp mem]
    exact sound

/-- Making nodes touches nothing that is remembered. -/
theorem fresh (nodes : Fresh α) : Establishes document first walk (fresh nodes) True :=
  fun _ remembers => ⟨remembers, trivial⟩

/-- The errors of a part of a declaration are those of the declaration. -/
theorem within {scope : LoweringScope} (inner : ∀ name, scope ≠ .type name)
    (before : Establishes document first walk part fact) :
    Establishes document first walk (within scope part) fact := by
  intro state remembers
  have result := before state remembers
  change Outcome document first walk fact ((part.run state).mapError (LoweringError.within scope))
  cases ran : part.run state with
  | ok done => rw [ran] at result; exact result
  | error e =>
    rw [ran] at result
    have same : (e.within scope).types = e.types := by
      cases scope with
      | type name => exact absurd rfl (inner name)
      | _ => rfl
    obtain ⟨last, path, lies⟩ := result
    rw [← same] at path lies
    exact ⟨last, path, lies⟩

/-- A type is one more step of the walk. -/
theorem within_type {name : String}
    (before : Establishes document first (walk ++ [name]) part fact) :
    Establishes document first walk (Lowering.within (.type name) part) fact := by
  intro state remembers
  have result := before state remembers
  change Outcome document first walk fact
    ((part.run state).mapError (LoweringError.within (.type name)))
  cases ran : part.run state with
  | ok done => rw [ran] at result; exact result
  | error e =>
    rw [ran] at result
    have longer : walk ++ (e.within (.type name)).types = walk ++ [name] ++ e.types := by
      rw [List.append_assoc]
      rfl
    obtain ⟨last, path, lies⟩ := result
    rw [← longer] at path lies
    exact ⟨last, path, lies⟩

/-- What fails of itself fails at the end of the walk. -/
theorem fail {cause : LoweringCause} (path : document.Walk first walk last)
    (lies : document.CauseAt walk last cause) :
    Establishes document first walk (fail cause : Lowering α) fact := by
  intro state remembers
  have here : walk ++ LoweringError.types ⟨[], cause⟩ = walk := List.append_nil walk
  exact ⟨last, by rwa [here], by rwa [here]⟩

theorem program {source : String} (path : document.Walk first walk last)
    (mentions : document.Mentions last (.program source)) :
    Establishes document first walk (program source)
      (document.InOrder (.program source)) := by
  unfold Lowering.program
  cases compiled : Program.compile source with
  | ok p => exact (pure p).imp fun _ => ⟨p, compiled⟩
  | error error => exact fail path (.program mentions compiled)

end Establishes

/-! ## Nodes -/

section Nodes

variable {resolve : String → Lowering Descriptor}

theorem correction_establishes (path : document.Walk first walk last) (correction : Option String)
    (mentioned : ∀ mention ∈ correction.toList.map Mention.program,
      document.Mentions last mention) :
    Establishes document first walk (Lowering.correction correction)
      (∀ mention ∈ correction.toList.map Mention.program, document.InOrder mention) := by
  cases correction with
  | none => exact (Establishes.pure none).imp fun _ mention mem => absurd mem List.not_mem_nil
  | some source =>
    have compiles := Establishes.program path (mentioned _ List.mem_cons_self)
    refine ((compiles.within (by nofun)).bind fun _ _ => .pure _).imp ?_
    rintro ⟨inOrder, _⟩ mention mem
    rw [List.mem_singleton.mp mem]
    exact inOrder


mutual

/-- A node that is lowered has all its mentions in order. The induction is on the node; references
are left to `resolved`. -/
theorem node_establishes (path : document.Walk first walk last)
    (resolved : ∀ name, document.Refers last name →
      Establishes document first walk (resolve name) (document.Sound name)) :
    ∀ n : Node, (∀ mention ∈ n.mentions, document.Mentions last mention) →
      Establishes document first walk (node resolve n)
        (∀ mention ∈ n.mentions, document.InOrder mention)
  | .always, _ => (Establishes.fresh _).imp nofun
  | .boolean, _ => (Establishes.fresh _).imp nofun
  | .number, _ => (Establishes.fresh _).imp nofun
  | .string, _ => (Establishes.fresh _).imp nofun
  | .void, _ => (Establishes.fresh _).imp nofun
  | .function, _ => (Establishes.fresh _).imp nofun
  | .literal _, _ => (Establishes.fresh _).imp nofun
  | .array element, mentioned =>
    ((node_establishes path resolved element mentioned).bind fun _ _ => .fresh _).imp And.left
  | .tuple components, mentioned =>
    ((nodes_establishes path resolved components mentioned).bind fun _ _ => .fresh _).imp And.left
  | .dictionary value, mentioned =>
    ((node_establishes path resolved value mentioned).bind fun _ _ => .fresh _).imp And.left
  | .record fields, mentioned =>
    ((namedFields_establishes path resolved fields mentioned).bind fun _ _ => .fresh _).imp And.left
  | .partialRecord fields, mentioned =>
    ((namedFields_establishes path resolved fields mentioned).bind fun _ _ => .fresh _).imp And.left
  | .union alternatives, mentioned =>
    ((nodes_establishes path resolved alternatives mentioned).bind fun _ _ => .fresh _).imp And.left
  | .intersect intersectees, mentioned =>
    ((nodes_establishes path resolved intersectees mentioned).bind fun _ _ => .fresh _).imp And.left
  | .reference name, mentioned => by
    -- a reference establishes that its name is sound, and that is its only mention
    refine (resolved name (mentioned _ List.mem_cons_self)).imp fun sound mention mem => ?_
    rw [List.mem_singleton.mp mem]
    exact sound
  | .constraint underlying predicate correction none, mentioned => by
    simp only [Node.mentions, List.forall_mem_append, List.forall_mem_cons] at mentioned ⊢
    obtain ⟨ofUnderlying, ofPredicate, ofCorrection⟩ := mentioned
    refine ((node_establishes path resolved underlying ofUnderlying).bind fun _ _ =>
      (Establishes.program path ofPredicate).bind fun _ _ =>
      (correction_establishes path correction ofCorrection).bind fun _ _ => .fresh _).imp ?_
    rintro ⟨underlying, predicate, correction, _⟩
    exact ⟨underlying, predicate, correction⟩
  | .constraint underlying predicate correction (some ⟨tag, params, types⟩), mentioned => by
    simp only [Node.mentions, List.forall_mem_append, List.forall_mem_cons] at mentioned ⊢
    obtain ⟨⟨ofUnderlying, ofPredicate, ofCorrection⟩, ofTypes⟩ := mentioned
    refine ((node_establishes path resolved underlying ofUnderlying).bind fun _ _ =>
      (Establishes.program path ofPredicate).bind fun _ _ =>
      (correction_establishes path correction ofCorrection).bind fun _ _ =>
      (namedTypes_establishes path resolved types ofTypes).bind fun _ _ => .fresh _).imp ?_
    rintro ⟨underlying, predicate, correction, types, _⟩
    exact ⟨⟨underlying, predicate, correction⟩, types⟩
  | .extension name guard payload, mentioned => by
    have ofGuard := mentioned _ List.mem_cons_self
    refine ((Establishes.program path ofGuard).bind fun _ _ => .fresh _).imp ?_
    rintro ⟨guard, _⟩ mention mem
    rw [List.mem_singleton.mp mem]
    exact guard

theorem nodes_establishes (path : document.Walk first walk last)
    (resolved : ∀ name, document.Refers last name →
      Establishes document first walk (resolve name) (document.Sound name)) :
    ∀ ns : List Node,
      (∀ mention ∈ Node.mentionsAll ns, document.Mentions last mention) →
      Establishes document first walk (nodes resolve ns)
        (∀ mention ∈ Node.mentionsAll ns, document.InOrder mention)
  | [], _ => (Establishes.pure _).imp nofun
  | n :: rest, mentioned => by
    simp only [Node.mentionsAll, List.forall_mem_append] at mentioned ⊢
    refine ((node_establishes path resolved n mentioned.1).bind fun _ _ =>
      (nodes_establishes path resolved rest mentioned.2).bind fun _ _ => .pure _).imp ?_
    rintro ⟨head, tail, _⟩
    exact ⟨head, tail⟩

theorem namedFields_establishes (path : document.Walk first walk last)
    (resolved : ∀ name, document.Refers last name →
      Establishes document first walk (resolve name) (document.Sound name)) :
    ∀ fields : List (String × Node),
      (∀ mention ∈ Node.mentionsFields fields, document.Mentions last mention) →
      Establishes document first walk (namedFields resolve fields)
        (∀ mention ∈ Node.mentionsFields fields, document.InOrder mention)
  | [], _ => (Establishes.pure _).imp nofun
  | (name, n) :: rest, mentioned => by
    simp only [Node.mentionsFields, List.forall_mem_append] at mentioned ⊢
    refine (((node_establishes path resolved n mentioned.1).within (by nofun)).bind fun _ _ =>
      (namedFields_establishes path resolved rest mentioned.2).bind fun _ _ => .pure _).imp ?_
    rintro ⟨head, tail, _⟩
    exact ⟨head, tail⟩

theorem namedTypes_establishes (path : document.Walk first walk last)
    (resolved : ∀ name, document.Refers last name →
      Establishes document first walk (resolve name) (document.Sound name)) :
    ∀ types : List (String × Node),
      (∀ mention ∈ Node.mentionsFields types, document.Mentions last mention) →
      Establishes document first walk (namedTypes resolve types)
        (∀ mention ∈ Node.mentionsFields types, document.InOrder mention)
  | [], _ => (Establishes.pure _).imp nofun
  | (name, n) :: rest, mentioned => by
    simp only [Node.mentionsFields, List.forall_mem_append] at mentioned ⊢
    refine ((node_establishes path resolved n mentioned.1).bind fun _ _ =>
      (namedTypes_establishes path resolved rest mentioned.2).bind fun _ _ => .pure _).imp ?_
    rintro ⟨head, tail, _⟩
    exact ⟨head, tail⟩

end

end Nodes

/-! ## Names -/

/-- The names in progress when a name is met, and how many more may be. -/
structure InProgress (document : Document) (first : String) (active : List String) (name : String)
    (left : Nat) : Prop where
  path : document.Walk first (active ++ [name]) name
  distinct : active.Nodup
  declared : ∀ a ∈ active, document.IsDeclared a
  /-- The first name is a declared one. -/
  entered : active = [] → document.IsDeclared name
  bounded : active.length + left = document.length

namespace InProgress

variable {active : List String} {name : String} {left : Nat}

/-- A name met in a declaration is one that the innermost name in progress refers to. -/
theorem referrer (progress : InProgress document first active name left) (nonempty : active ≠ []) :
    ∃ last, document.Walk first active last ∧ document.Refers last name := by
  obtain ⟨steps, _, edge⟩ := List.isChain_append.mp progress.path.steps
  have starts := progress.path.starts
  rw [List.head?_append_of_ne_nil _ nonempty] at starts
  have ends := List.getLast?_eq_some_getLast nonempty
  exact ⟨active.getLast nonempty, ⟨starts, steps, ends⟩, edge _ ends _ rfl⟩

/-- Names in progress are distinct declarations, and one that is not among them leaves room. -/
theorem room (progress : InProgress document first active name left) (fresh : name ∉ active)
    (declared : document.IsDeclared name) : 0 < left := by
  have names : name :: active ⊆ document.map Prod.fst := by
    have isName : ∀ a, document.IsDeclared a → a ∈ document.map Prod.fst := by
      rintro a ⟨node, found⟩
      exact List.mem_map.mpr ⟨_, Fields.mem_of_get? found, rfl⟩
    intro a mem
    rcases List.mem_cons.mp mem with rfl | mem
    · exact isName a declared
    · exact isName a (progress.declared a mem)
  have distinct : (name :: active).Nodup := List.nodup_cons.mpr ⟨fresh, progress.distinct⟩
  have fits := (List.subperm_of_subset distinct names).length_le
  have bounded := progress.bounded
  simp only [List.length_cons, List.length_map] at fits
  omega

/-- A name that is entered is in progress for what its declaration refers to. -/
theorem enter {next : String} (progress : InProgress document first active name (left + 1))
    (fresh : name ∉ active) (declared : document.IsDeclared name)
    (refers : document.Refers name next) :
    InProgress document first (active ++ [name]) next left where
  path := by
    refine ⟨?_, ?_, List.getLast?_concat⟩
    · rw [List.head?_append_of_ne_nil _ (List.concat_ne_nil _ _)]
      exact progress.path.starts
    · refine List.isChain_append.mpr ⟨progress.path.steps, List.isChain_singleton _, ?_⟩
      intro a last b head
      rw [List.getLast?_concat] at last
      cases last
      cases head
      exact refers
  distinct := by
    refine List.nodup_append.mpr ⟨progress.distinct, List.nodup_singleton _, ?_⟩
    intro a mem b single
    rw [List.mem_singleton.mp single]
    rintro rfl
    exact fresh mem
  declared := by
    intro a mem
    rcases List.mem_append.mp mem with mem | mem
    · exact progress.declared a mem
    · rw [List.mem_singleton.mp mem]
      exact declared
  entered := fun empty => absurd empty (List.concat_ne_nil _ _)
  bounded := by
    have bounded := progress.bounded
    simp only [List.length_append, List.length_singleton]
    omega

end InProgress

/-- A name that is lowered is sound. The induction is on how many more names may be in progress. -/
theorem named_establishes : ∀ {left : Nat} {active : List String} {name : String},
    InProgress document first active name left →
      Establishes document first active (named document left active name) (document.Sound name)
  | left, active, name, progress => by
    unfold named
    refine .get fun state remembers => ?_
    split
    case h_1 found remembered =>
      exact (Establishes.pure found).imp fun _ => remembers _ (Fields.mem_of_get? remembered)
    split
    case isTrue passed =>
      have passed := List.contains_iff_mem.mp passed
      obtain ⟨last, path, refers⟩ := progress.referrer (List.ne_nil_of_mem passed)
      exact .fail path (.cycle refers passed)
    case isFalse fresh =>
      have fresh := mt List.contains_iff_mem.mpr fresh
      split
      case h_1 missing =>
        have missing : ¬ document.IsDeclared name := by
          rintro ⟨node, found⟩
          cases missing.symm.trans found
        obtain ⟨last, path, refers⟩ := progress.referrer fun empty =>
          missing (progress.entered empty)
        exact .fail path (.undeclared refers missing)
      case h_2 declaration declared =>
        -- as many names are in progress as there are, and this is one more
        exact absurd (progress.room fresh ⟨declaration, declared⟩) (Nat.lt_irrefl 0)
      case h_3 declaration left declared =>
        have resolved : ∀ next, document.Refers name next →
            Establishes document first (active ++ [name])
              (named document left (active ++ [name]) next) (document.Sound next) :=
          fun next refers =>
            named_establishes (progress.enter fresh ⟨declaration, declared⟩ refers)
        have inOrder := node_establishes progress.path resolved declaration
          fun mention mem => ⟨declaration, declared, mem⟩
        have sound := inOrder.imp (Document.sound_of_inOrder declared)
        exact (sound.within_type.bind fun sound t => .remember sound t).imp And.left

/-! ## Documents -/

/-- Declared names are lowered one after the other: all of them are sound, or the first that is not
is where the walk to the cause starts. -/
theorem each_outcome : ∀ {names : List String}, (∀ a ∈ names, document.IsDeclared a) →
    ∀ state, Remembers document state →
      match (each document names).run state with
      | .ok _ => ∀ a ∈ names, document.Sound a
      | .error e => ∃ before first after last, names = before ++ first :: after ∧
          (∀ a ∈ before, document.Sound a) ∧ document.Walk first e.types last ∧
          document.CauseAt e.types last e.cause
  | [], _, _, _ => nofun
  | name :: rest, declared, state, remembers => by
    -- each declaration is begun with no other in progress
    have progress : InProgress document name [] name document.length :=
      { path := ⟨rfl, List.isChain_singleton name, rfl⟩
        distinct := List.nodup_nil
        declared := nofun
        entered := fun _ => declared name List.mem_cons_self
        bounded := Nat.zero_add _ }
    have head := named_establishes progress state remembers
    unfold each
    rw [StateT.run_bind]
    cases ran : (named document document.length [] name).run state with
    | error e =>
      rw [ran] at head
      obtain ⟨last, path, lies⟩ := head
      exact ⟨[], name, rest, last, rfl, nofun, path, lies⟩
    | ok between =>
      rw [ran] at head
      obtain ⟨remembers, sound⟩ := head
      have tail := each_outcome (fun a mem => declared a (List.mem_cons_of_mem _ mem))
        between.2 remembers
      simp only [bind, Except.bind, StateT.bind, StateT.run]
      simp only [StateT.run] at tail
      cases ran' : each document rest between.2 with
      | ok done =>
        rw [ran'] at tail
        exact List.forall_mem_cons.mpr ⟨sound, tail⟩
      | error e =>
        rw [ran'] at tail
        obtain ⟨before, first, after, last, rfl, earlier, path, lies⟩ := tail
        exact ⟨name :: before, first, after, last, rfl,
          List.forall_mem_cons.mpr ⟨sound, earlier⟩, path, lies⟩

end Lowering

namespace Document

theorem isDeclared_of_mem (document : Document) : ∀ a ∈ document.map Prod.fst,
    document.IsDeclared a := by
  intro a mem
  obtain ⟨node, found⟩ := Fields.exists_get? mem
  exact ⟨node, found⟩

theorem exists_lower_iff (document : Document) (nextId : Nat) :
    (∃ lowered, document.lower nextId = .ok lowered) ↔ document.WellFormed := by
  have outcome := Lowering.each_outcome (isDeclared_of_mem document) ⟨nextId, []⟩ nofun
  unfold lower
  cases ran : (Lowering.each document (document.map Prod.fst)).run ⟨nextId, []⟩ with
  | ok lowered =>
    rw [ran] at outcome
    refine ⟨fun _ => wellFormed_of_sound fun a => ?_, fun _ => ⟨_, rfl⟩⟩
    rintro ⟨node, found⟩
    exact outcome a (List.mem_map.mpr ⟨_, Fields.mem_of_get? found, rfl⟩)
  | error e =>
    rw [ran] at outcome
    obtain ⟨before, first, after, last, _, _, path, lies⟩ := outcome
    refine ⟨nofun, fun formed => ?_⟩
    exact absurd (lies.atFault path) (not_atFault_of_wellFormed formed last)

/-- A document can be lowered exactly if it is well formed. If it cannot, the types that the error is
said to be in are a walk of the reference graph. It starts at the first declared name that is faulty,
and the cause of the error lies in the declaration of the name it ends at: a program that does not
compile, a reference to an undeclared name, or a reference back to a name on the walk, and then the
cycle that is reported is the walk and that name. -/
theorem lower_iff_wellFormed (document : Document) (nextId : Nat) :
    ((∃ lowered, document.lower nextId = .ok lowered) ↔ document.WellFormed) ∧
    ∀ e, document.lower nextId = .error e →
      ∃ before first after last, document.map Prod.fst = before ++ first :: after ∧
        (∀ a ∈ before, ¬ document.Faulty a) ∧ document.Faulty first ∧
        document.Walk first e.types last ∧ document.CauseAt e.types last e.cause := by
  refine ⟨exists_lower_iff document nextId, fun e failed => ?_⟩
  have outcome := Lowering.each_outcome (isDeclared_of_mem document) ⟨nextId, []⟩ nofun
  unfold lower at failed
  cases ran : (Lowering.each document (document.map Prod.fst)).run ⟨nextId, []⟩ with
  | ok lowered =>
    rw [ran] at failed
    cases failed
  | error e =>
    rw [ran] at outcome failed
    cases failed
    obtain ⟨before, first, after, last, names, earlier, path, lies⟩ := outcome
    have faulty : document.Faulty first :=
      ⟨last, path.reaches first path.first_mem, lies.atFault path⟩
    exact ⟨before, first, after, last, names, fun a mem => (earlier a mem).2, faulty, path, lies⟩

/-- Two types that stand for each other, declared after one that stands for none. -/
def knot : Document :=
  [("leaf", .string), ("tree", .array (.reference "branch")),
    ("branch", .partialRecord [("leaf", .reference "leaf"), ("back", .reference "tree")])]

/-- The knot is entered at the first of the two types, and blamed on the second. -/
theorem knot_is_blamed :
    knot.lower 0 = .error ⟨[.type "tree", .type "branch", .field "back"],
        .cycle ["tree", "branch", "tree"]⟩ ∧
      ∃ before first after last, knot.map Prod.fst = before ++ first :: after ∧
        (∀ a ∈ before, ¬ knot.Faulty a) ∧ knot.Faulty first ∧
        knot.Walk first ["tree", "branch"] last ∧
        knot.CauseAt ["tree", "branch"] last (.cycle ["tree", "branch", "tree"]) :=
  have failed : knot.lower 0 = .error ⟨[.type "tree", .type "branch", .field "back"],
      .cycle ["tree", "branch", "tree"]⟩ := by cbv
  ⟨failed, (lower_iff_wellFormed knot 0).2 _ failed⟩

end Document

end Specimen
