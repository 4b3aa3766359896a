import Mathlib.Tactic.Common
import Specimen.Document.Lowering
import Specimen.Proofs.Descriptor.Renumbered
import Specimen.Proofs.Fields

/-!
# The trees of a document

What a document says of a name is a tree: its declaration, with every reference replaced by the tree
of the name it refers to (`Document.inlined`). A node of the tree has whatever identity is given to the
place where it stands in the document; under other identities the tree is the same but for them
(`Document.Inlines.renumber`).

The tree of a name is found at whatever depth suffices, so what is known of a tree is known from some
depth on (`Eventually`). This leaves the order in which references are followed out of the account. A
name that stands for itself has no tree.
-/

namespace Specimen

/-- A place in a document: the name of a declaration, and the way down from its node. -/
abbrev Site := String × List Nat

/-! ## Trees -/

namespace Node

/-- The program in a text, if there is one. -/
def program? (source : String) : Option Program := (Program.compile source).toOption

/-- The correction in an optional text, if there is one. -/
def correction? : Option String → Option (Option Correction)
  | none => some none
  | some source => (program? source).bind fun p => some (some p.correction)

section Inline

variable (own : List Nat → Nat) (resolve : String → Option Descriptor)

mutual

/-- The tree of a node at a place. A name stands for what `resolve` answers, a text for its program,
and the identity of each node is that of its place. -/
def inline (place : List Nat) : Node → Option Descriptor
  | .always => some (.node (own place) .always)
  | .boolean => some (.node (own place) .boolean)
  | .number => some (.node (own place) .number)
  | .string => some (.node (own place) .string)
  | .void => some (.node (own place) .void)
  | .function => some (.node (own place) .function)
  | .literal value => some (.node (own place) (.literal value.value))
  | .array element =>
    (inline (place ++ [0]) element).bind fun element =>
      some (.node (own place) (.array element))
  | .tuple components =>
    (inlineAll place 0 components).bind fun components =>
      some (.node (own place) (.tuple components))
  | .dictionary value =>
    (inline (place ++ [0]) value).bind fun value =>
      some (.node (own place) (.dictionary value))
  | .record fields =>
    (inlineFields place 0 fields).bind fun fields =>
      some (.node (own place) (.record (Fields.ofPairs fields)))
  | .partialRecord fields =>
    (inlineFields place 0 fields).bind fun fields =>
      some (.node (own place) (.partialRecord (Fields.ofPairs fields)))
  | .union alternatives =>
    (inlineAll place 0 alternatives).bind fun alternatives =>
      some (.node (own place) (.union alternatives))
  | .intersect intersectees =>
    (inlineAll place 0 intersectees).bind fun intersectees =>
      some (.node (own place) (.intersect intersectees))
  | .reference name => resolve name
  | .constraint underlying predicate fix none =>
    (inline (place ++ [0]) underlying).bind fun underlying =>
      (program? predicate).bind fun predicate =>
        (correction? fix).bind fun fix =>
          some (.node (own place) (.constraint underlying predicate.predicate fix none))
  | .constraint underlying predicate fix (some ⟨tag, params, types⟩) =>
    (inline (place ++ [0]) underlying).bind fun underlying =>
      (program? predicate).bind fun predicate =>
        (correction? fix).bind fun fix =>
          (inlineFields place 1 types).bind fun types =>
            some (.node (own place)
              (.constraint underlying predicate.predicate fix (some ⟨tag, params, types⟩)))
  | .extension name guard payload =>
    (program? guard).bind fun guard =>
      some (.node (own place) (.extension name payload guard.predicate))

/-- The trees of nodes that stand side by side from a position on. -/
def inlineAll (place : List Nat) (i : Nat) : List Node → Option (List Descriptor)
  | [] => some []
  | n :: rest =>
    (inline (place ++ [i]) n).bind fun first =>
      (inlineAll place (i + 1) rest).bind fun rest => some (first :: rest)

/-- The trees of named nodes, each at its own place. Places count from where the list begins, so no
two nodes share one. -/
def inlineFields (place : List Nat) (i : Nat) :
    List (String × Node) → Option (List (String × Descriptor))
  | [] => some []
  | (name, n) :: rest =>
    (inline (place ++ [i]) n).bind fun first =>
      (inlineFields place (i + 1) rest).bind fun rest => some ((name, first) :: rest)

end

end Inline

end Node

namespace Document

/-- The tree of a name, with references followed so deep. -/
def inlined (d : Document) (own : Site → Nat) : Nat → String → Option Descriptor
  | 0, _ => none
  | depth + 1, name =>
    (Fields.get? d name).bind
      (Node.inline (fun place => own (name, place)) (inlined d own depth) [])

end Document

/-- What is so at every depth that suffices. -/
def Eventually {α : Type} (found : Nat → Option α) (a : α) : Prop :=
  ∃ depth, ∀ more, depth ≤ more → found more = some a

namespace Eventually

variable {α β : Type} {found : Nat → Option α} {a b : α}

theorem const (a : α) : Eventually (fun _ => some a) a := ⟨0, fun _ _ => rfl⟩

/-- There is one thing at most that is so at every depth that suffices. -/
theorem unique (one : Eventually found a) (other : Eventually found b) : a = b := by
  obtain ⟨m, one⟩ := one
  obtain ⟨n, other⟩ := other
  exact Option.some.inj ((one _ (Nat.le_max_left m n)).symm.trans (other _ (Nat.le_max_right m n)))

/-- What is made of two parts is so at every depth that suffices for both. -/
theorem bind {next : α → Nat → Option β} {b : β} (first : Eventually found a)
    (rest : Eventually (next a) b) :
    Eventually (fun depth => (found depth).bind fun a => next a depth) b := by
  obtain ⟨m, first⟩ := first
  obtain ⟨n, rest⟩ := rest
  refine ⟨max m n, fun more le => ?_⟩
  simp only [first more (by omega), Option.bind_some]
  exact rest more (by omega)

/-- What is so one deeper is so. -/
theorem of_succ (later : Eventually (fun depth => found (depth + 1)) a) : Eventually found a := by
  obtain ⟨m, later⟩ := later
  refine ⟨m + 1, fun more le => ?_⟩
  obtain ⟨depth, rfl⟩ := Nat.exists_eq_add_of_le' (Nat.le_of_add_left_le le)
  exact later depth (by omega)

/-- One level more or less does not matter. -/
theorem succ (now : Eventually found a) : Eventually (fun depth => found (depth + 1)) a := by
  obtain ⟨m, now⟩ := now
  exact ⟨m, fun more le => now (more + 1) (by omega)⟩

end Eventually

/-- The tree of a name, with these identities. -/
def Document.Inlines (d : Document) (own : Site → Nat) (name : String) (t : Descriptor) : Prop :=
  Eventually (fun depth => d.inlined own depth name) t

/-! ## Trees under other identities -/

section Renumbered

variable {f : Nat → Nat} {own : List Nat → Nat} {resolve : String → Option Descriptor}

/-- A change that goes along with both parts goes along with the two in sequence: once for all the
cases of the induction below. -/
private theorem map_bind_of {α α' β β' : Type} {x : Option α} {y : Option α'} {next : α → Option β}
    {next' : α' → Option β'} {g : α → α'} {h : β → β'} (first : x.map g = y)
    (rest : ∀ a, (next a).map h = next' (g a)) : (x.bind next).map h = y.bind next' := by
  subst first
  cases x with
  | none => rfl
  | some a => exact rest a

private theorem renumberFields_ofPairs (fields : List (String × Descriptor)) :
    Descriptor.renumberFields f (Fields.ofPairs fields) =
      Fields.ofPairs (Descriptor.renumberFields f fields) := by
  rw [Descriptor.renumberFields_eq, Descriptor.renumberFields_eq, Fields.ofPairs_mapValues]

mutual

/-- Under other identities a tree is the same but for them. -/
theorem Node.inline_renumber : ∀ (place : List Nat) (n : Node),
    (n.inline own resolve place).map (Descriptor.renumber f) =
      n.inline (f ∘ own) (fun name => (resolve name).map (Descriptor.renumber f)) place
  | _, .always | _, .boolean | _, .number | _, .string | _, .void
  | _, .function | _, .literal _ | _, .reference _ => rfl
  | place, .array element => map_bind_of (inline_renumber (place ++ [0]) element) fun _ => rfl
  | place, .tuple components => map_bind_of (inlineAll_renumber place 0 components) fun _ => rfl
  | place, .dictionary value => map_bind_of (inline_renumber (place ++ [0]) value) fun _ => rfl
  | place, .record fields =>
    map_bind_of (inlineFields_renumber place 0 fields) fun fields =>
      congrArg (fun fields => some (Descriptor.node _ (.record fields))) (renumberFields_ofPairs fields)
  | place, .partialRecord fields =>
    map_bind_of (inlineFields_renumber place 0 fields) fun fields =>
      congrArg (fun fields => some (Descriptor.node _ (.partialRecord fields)))
        (renumberFields_ofPairs fields)
  | place, .union alternatives =>
    map_bind_of (inlineAll_renumber place 0 alternatives) fun _ => rfl
  | place, .intersect intersectees =>
    map_bind_of (inlineAll_renumber place 0 intersectees) fun _ => rfl
  | place, .constraint underlying _ _ none =>
    map_bind_of (inline_renumber (place ++ [0]) underlying) fun _ =>
      map_bind_of Option.map_id' fun _ => map_bind_of Option.map_id' fun _ => rfl
  | place, .constraint underlying _ _ (some ⟨_, _, types⟩) =>
    map_bind_of (inline_renumber (place ++ [0]) underlying) fun _ =>
      map_bind_of Option.map_id' fun _ => map_bind_of Option.map_id' fun _ =>
        map_bind_of (inlineFields_renumber place 1 types) fun _ => rfl
  | _, .extension _ _ _ => map_bind_of Option.map_id' fun _ => rfl

theorem Node.inlineAll_renumber : ∀ (place : List Nat) (i : Nat) (ns : List Node),
    (inlineAll own resolve place i ns).map (Descriptor.renumberAll f) =
      inlineAll (f ∘ own) (fun name => (resolve name).map (Descriptor.renumber f)) place i ns
  | _, _, [] => rfl
  | place, i, n :: rest =>
    map_bind_of (inline_renumber (place ++ [i]) n) fun _ =>
      map_bind_of (inlineAll_renumber place (i + 1) rest) fun _ => rfl

theorem Node.inlineFields_renumber : ∀ (place : List Nat) (i : Nat) (fields : List (String × Node)),
    (inlineFields own resolve place i fields).map (Descriptor.renumberFields f) =
      inlineFields (f ∘ own) (fun name => (resolve name).map (Descriptor.renumber f)) place i fields
  | _, _, [] => rfl
  | place, i, (_, n) :: rest =>
    map_bind_of (inline_renumber (place ++ [i]) n) fun _ =>
      map_bind_of (inlineFields_renumber place (i + 1) rest) fun _ => rfl

end

/-- What a name stands for has the identities that its places are given, and no others. -/
theorem Document.inlined_renumber {d : Document} {own : Site → Nat} : ∀ (depth : Nat) (name : String),
    (d.inlined own depth name).map (Descriptor.renumber f) = d.inlined (f ∘ own) depth name
  | 0, _ => rfl
  | depth + 1, name => by
    have below : (fun name => (d.inlined own depth name).map (Descriptor.renumber f)) =
        d.inlined (f ∘ own) depth := funext fun name => inlined_renumber depth name
    rw [inlined, inlined, ← below]
    exact map_bind_of Option.map_id' fun n => Node.inline_renumber [] n

/-- So one tree of a name is every tree of it, under other identities. -/
theorem Document.Inlines.renumber {d : Document} {own : Site → Nat} {name : String} {t : Descriptor}
    (inlines : d.Inlines own name t) (f : Nat → Nat) :
    d.Inlines (f ∘ own) name (t.renumber f) := by
  obtain ⟨depth, found⟩ := inlines
  refine ⟨depth, fun more le => ?_⟩
  exact (inlined_renumber more name).symm.trans (congrArg (Option.map _) (found more le))

end Renumbered

end Specimen
