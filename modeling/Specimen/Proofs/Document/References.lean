import Mathlib.Data.List.Chain
import Mathlib.Logic.Relation
import Mathlib.Tactic.Common
import Specimen.Document.Lowering

/-!
# The reference graph of a document

What a node mentions decides whether it can be lowered: names of other declarations, which draw the
edges of a graph between names (`Refers`), and programs. A document is well formed when no edge
leads to an undeclared name, no path leads back to its start, and every program compiles.

A name is at fault when one of these three goes wrong in its own declaration, and faulty when a name
at fault can be reached from it. Faultiness speaks of the graph alone, in whatever order names are
looked at, which is what lowering is measured against.

Not established here: anything about the descriptors. Where a reference stands in a node makes no
difference to any of this.
-/

namespace Specimen

/-- What a node needs from outside: another declaration, or a program. -/
inductive Mention
  | reference (name : String)
  | program (source : String)

namespace Node

mutual

/-- What a node mentions, in the order in which lowering comes to it. -/
def mentions : Node → List Mention
  | .array element => mentions element
  | .tuple components => mentionsAll components
  | .dictionary value => mentions value
  | .record fields => mentionsFields fields
  | .partialRecord fields => mentionsFields fields
  | .union alternatives => mentionsAll alternatives
  | .intersect intersectees => mentionsAll intersectees
  | .constraint underlying predicate correction none =>
    mentions underlying ++ .program predicate :: correction.toList.map .program
  | .constraint underlying predicate correction (some ⟨_, _, types⟩) =>
    mentions underlying ++ .program predicate :: correction.toList.map .program ++
      mentionsFields types
  | .reference name => [.reference name]
  | .extension _ guard _ => [.program guard]
  | _ => []

def mentionsAll : List Node → List Mention
  | [] => []
  | n :: rest => mentions n ++ mentionsAll rest

def mentionsFields : List (String × Node) → List Mention
  | [] => []
  | (_, n) :: rest => mentions n ++ mentionsFields rest

end

end Node

namespace Document

variable {document : Document}

/-- The node that a name is declared to be. -/
def Declares (document : Document) (name : String) (node : Node) : Prop :=
  Fields.get? document name = some node

def IsDeclared (document : Document) (name : String) : Prop := ∃ node, document.Declares name node

/-- The declaration of a name mentions something, at whatever depth. -/
def Mentions (document : Document) (name : String) (mention : Mention) : Prop :=
  ∃ node, document.Declares name node ∧ mention ∈ node.mentions

/-- An edge of the reference graph. -/
def Refers (document : Document) (a b : String) : Prop := document.Mentions a (.reference b)

/-- Everything mentioned is there, and no name stands for itself. -/
structure WellFormed (document : Document) : Prop where
  declared : ∀ a b, document.Refers a b → document.IsDeclared b
  acyclic : ∀ a, ¬ Relation.TransGen document.Refers a a
  compiled : ∀ a source, document.Mentions a (.program source) →
    ∃ program, Program.compile source = .ok program

/-- Whether a document is well formed depends on what names are declared to be, and not on their
order. -/
theorem WellFormed.of_declares {other : Document} (same : other.Declares = document.Declares)
    (formed : document.WellFormed) : other.WellFormed := by
  have mentions : other.Mentions = document.Mentions := by
    unfold Mentions
    rw [same]
  have refers : other.Refers = document.Refers := by
    unfold Refers
    rw [mentions]
  constructor
  · intro a b step
    rw [refers] at step
    obtain ⟨node, declared⟩ := formed.declared a b step
    exact ⟨node, same ▸ declared⟩
  · rw [refers]
    exact formed.acyclic
  · rw [mentions]
    exact formed.compiled

/-! ## Faults -/

/-- What can be wrong in the declaration of a name itself. -/
inductive AtFault (document : Document) (a : String) : Prop
  | undeclared {b : String} (refers : document.Refers a b) (missing : ¬ document.IsDeclared b)
  | cyclic (cycle : Relation.TransGen document.Refers a a)
  | uncompiled {source : String} {error : ProgramError}
      (mentions : document.Mentions a (.program source))
      (failed : Program.compile source = .error error)

/-- A name from which a fault can be reached. -/
def Faulty (document : Document) (a : String) : Prop :=
  ∃ b, Relation.ReflTransGen document.Refers a b ∧ document.AtFault b

theorem not_atFault_of_wellFormed (formed : document.WellFormed) (a : String) :
    ¬ document.AtFault a := by
  rintro (⟨refers, missing⟩ | cycle | ⟨mentions, failed⟩)
  · exact missing (formed.declared a _ refers)
  · exact formed.acyclic a cycle
  · obtain ⟨program, compiled⟩ := formed.compiled a _ mentions
    rw [compiled] at failed
    cases failed

/-- A declared name from which no fault can be reached. -/
def Sound (document : Document) (a : String) : Prop :=
  document.IsDeclared a ∧ ¬ document.Faulty a

/-- A mention is in order if what it names is sound, or compiles. -/
def InOrder (document : Document) : Mention → Prop
  | .reference name => document.Sound name
  | .program source => ∃ program, Program.compile source = .ok program

/-- A fault is reached through a mention: where all mentions of a declaration are in order, so is the
name. The first edge of a path to a fault would lead to a faulty name. -/
theorem sound_of_inOrder {a : String} {node : Node} (declared : document.Declares a node)
    (inOrder : ∀ mention ∈ node.mentions, document.InOrder mention) : document.Sound a := by
  have mentioned : ∀ mention, document.Mentions a mention → document.InOrder mention := by
    rintro mention ⟨other, also, mem⟩
    have same : node = other := Option.some.inj (declared.symm.trans also)
    exact inOrder mention (same ▸ mem)
  refine ⟨⟨node, declared⟩, ?_⟩
  rintro ⟨b, reaches, fault⟩
  rcases reaches.cases_head with rfl | ⟨next, refers, further⟩
  · cases fault with
    | undeclared refers missing => exact missing (mentioned _ refers).1
    | cyclic cycle =>
      obtain ⟨next, refers, back⟩ := Relation.TransGen.head'_iff.mp cycle
      exact (mentioned _ refers).2 ⟨a, back, .cyclic cycle⟩
    | uncompiled mentions failed =>
      obtain ⟨program, compiled⟩ := mentioned _ mentions
      rw [compiled] at failed
      cases failed
  · exact (mentioned _ refers).2 ⟨b, further, fault⟩

/-- A document all of whose names are sound is well formed. -/
theorem wellFormed_of_sound (sound : ∀ a, document.IsDeclared a → document.Sound a) :
    document.WellFormed := by
  have faultless : ∀ a mention, document.Mentions a mention → ¬ document.AtFault a := by
    rintro a mention ⟨node, declared, _⟩ fault
    exact (sound a ⟨node, declared⟩).2 ⟨a, .refl, fault⟩
  constructor
  · intro a b refers
    by_contra missing
    exact faultless a _ refers (.undeclared refers missing)
  · intro a cycle
    obtain ⟨b, refers, _⟩ := Relation.TransGen.head'_iff.mp cycle
    exact faultless a _ refers (.cyclic cycle)
  · intro a source mentions
    cases compiled : Program.compile source with
    | ok program => exact ⟨program, rfl⟩
    | error error => exact absurd (.uncompiled mentions compiled) (faultless a _ mentions)

/-! ## Walks -/

/-- Names each of which refers to the next. -/
structure Walk (document : Document) (first : String) (walk : List String) (last : String) :
    Prop where
  starts : walk.head? = some first
  steps : walk.IsChain document.Refers
  ends : walk.getLast? = some last

/-- Every name on a walk reaches its end. -/
theorem Walk.reaches {first last : String} {walk : List String}
    (path : document.Walk first walk last) :
    ∀ a ∈ walk, Relation.ReflTransGen document.Refers a last := by
  refine path.steps.backwards_induction _ _ (fun x y refers reaches => reaches.head refers) ?_
  intro nonempty
  have ends := path.ends
  rw [List.getLast?_eq_some_getLast nonempty, Option.some.injEq] at ends
  rw [ends]

theorem Walk.first_mem {first last : String} {walk : List String}
    (path : document.Walk first walk last) : first ∈ walk :=
  List.mem_of_mem_head? path.starts

/-- The cause of an error lies in the declaration of the name at the end of a walk. -/
inductive CauseAt (document : Document) (walk : List String) (last : String) :
    LoweringCause → Prop
  | cycle {name : String} (refers : document.Refers last name) (passed : name ∈ walk) :
    CauseAt document walk last (.cycle (walk ++ [name]))
  | undeclared {name : String} (refers : document.Refers last name)
      (missing : ¬ document.IsDeclared name) : CauseAt document walk last (.undeclared name)
  | program {source : String} {error : ProgramError}
      (mentions : document.Mentions last (.program source))
      (failed : Program.compile source = .error error) :
    CauseAt document walk last (.program source error)

/-- The name at the end of the walk is at fault; in the case of a cycle because its reference leads
back into the walk. -/
theorem CauseAt.atFault {first last : String} {walk : List String} {cause : LoweringCause}
    (path : document.Walk first walk last) (lies : document.CauseAt walk last cause) :
    document.AtFault last := by
  cases lies with
  | cycle refers passed => exact .cyclic (.head' refers (path.reaches _ passed))
  | undeclared refers missing => exact .undeclared refers missing
  | program mentions failed => exact .uncompiled mentions failed

end Document

end Specimen
