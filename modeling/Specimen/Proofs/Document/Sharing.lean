import Mathlib.Data.List.Nodup
import Mathlib.Logic.Function.Basic
import Specimen.Proofs.Document.Inlining
import Specimen.Proofs.Document.Lowering
import Specimen.Proofs.Document.Sites

/-!
# Lowering shares what references share

A lowered type is a graph read as a tree: a node may stand at many positions, in its own type and in
others. Which positions those are is said by the document alone: two of them hold the same node exactly
if both come from the same node of the document (`Document.SharesExactly`). The order of declarations
has no part in it: in any other order they are lowered to the same trees (`SameTrees`).

Every lowered type is the tree of its name under all identities that fit the list of places at which
nodes were made. The places in the list are distinct, so identities tell them apart; and a place that
were missing from the list could be given any identity, so none is.

Not established here: in which order nodes are numbered. Nothing in the result depends on it.
-/

namespace Specimen

/-! ## Identities -/

namespace Lowering

variable {start : Nat} {made : List Site}

/-- The identities by position in the list. -/
def numbering (start : Nat) (made : List Site) (site : Site) : Nat := start + made.idxOf site

theorem fits_numbering (nodup : made.Nodup) : Fits start made (numbering start made) := by
  intro i site there
  obtain ⟨small, rfl⟩ := List.getElem?_eq_some_iff.mp there
  exact congrArg (start + ·) (nodup.idxOf_getElem i small)

/-- A place that is not in the list may have any identity. -/
theorem Fits.update {own : Site → Nat} {site : Site} (fits : Fits start made own)
    (missing : site ∉ made) (id : Nat) : Fits start made (Function.update own site id) := by
  intro i other there
  have apart : other ≠ site := fun same => missing (same ▸ List.mem_of_getElem? there)
  rw [Function.update_of_ne apart]
  exact fits i other there

namespace Numbered

variable {d : Document} {types : List (String × Descriptor)} {own : Site → Nat} {p site : Site}
  {s t : Descriptor} (numbered : Numbered d start made types)

include numbered

theorem inlinesAt {name : String} (fits : Fits start made own)
    (found : Fields.get? types name = some t) : d.InlinesAt own (name, []) t :=
  Document.inlinesAt_iff.mpr (numbered.trees own fits _ (Fields.mem_of_get? found))

/-- Each declared name has a type. -/
theorem exists_type {n : Node} (found : d.at? site = some n) :
    ∃ whole, Fields.get? types site.1 = some whole := by
  obtain ⟨declaration, declared, -⟩ := Option.bind_eq_some_iff.mp found
  refine Fields.exists_get? ?_
  rw [numbered.keys]
  exact List.mem_map.mpr ⟨_, Fields.mem_of_get? declared, rfl⟩

theorem exists_comesFrom (tidy : d.isTidy = true) (held : Document.Holds types p s) :
    ∃ site, d.ComesFrom p site := by
  obtain ⟨whole, found, held⟩ := held
  obtain ⟨n, root, depth, inlined⟩ :=
    numbered.inlinesAt (fits_numbering numbered.nodup) found
  exact Document.exists_leads tidy depth p.2 root (inlined depth (Nat.le_refl _)) held

theorem held_of_comesFrom (tidy : d.isTidy = true) (held : Document.Holds types p s)
    (comes : d.ComesFrom p site) (fits : Fits start made own) :
    d.InlinesAt own site s ∧ s.id = own site := by
  obtain ⟨whole, found, held⟩ := held
  obtain ⟨other, also, at_, id⟩ := Document.Leads.held tidy comes (numbered.inlinesAt fits found)
  cases held.symm.trans also
  exact ⟨at_, id⟩

/-- A place that positions come from is one at which a node was made, for otherwise its identity
could be another. -/
theorem mem_of_comesFrom (tidy : d.isTidy = true) (held : Document.Holds types p s)
    (comes : d.ComesFrom p site) : site ∈ made := by
  by_contra missing
  have fits : Fits start made (numbering start made) := fits_numbering numbered.nodup
  obtain ⟨-, id⟩ := numbered.held_of_comesFrom tidy held comes fits
  obtain ⟨-, other⟩ := numbered.held_of_comesFrom tidy held comes (fits.update missing (s.id + 1))
  rw [Function.update_self] at other
  exact absurd other (Nat.ne_of_lt (Nat.lt_succ_self _))

/-- One identity comes from one place. -/
theorem place_eq_of_id_eq {q other : Site} (tidy : d.isTidy = true)
    (here : Document.Holds types p s) (fromHere : d.ComesFrom p site)
    (there : Document.Holds types q t) (fromThere : d.ComesFrom q other) (ids : s.id = t.id) :
    site = other := by
  have fits : Fits start made (numbering start made) := fits_numbering numbered.nodup
  have numbers : numbering start made site = numbering start made other :=
    calc numbering start made site
        = s.id := (numbered.held_of_comesFrom tidy here fromHere fits).2.symm
      _ = t.id := ids
      _ = numbering start made other := (numbered.held_of_comesFrom tidy there fromThere fits).2
  exact (List.idxOf_inj (numbered.mem_of_comesFrom tidy here fromHere)).mp
    (Nat.add_left_cancel numbers)

end Numbered

end Lowering

/-! ## Documents -/

/-- A type as a tree, whose nodes have no identities of their own. -/
def Descriptor.tree (t : Descriptor) : Descriptor := t.renumber fun _ => 0

/-- Types by which the same names have the same trees, and so the same guards. -/
def SameTrees (types others : List (String × Descriptor)) : Prop :=
  ∀ name t, Fields.get? types name = some t →
    ∃ t', Fields.get? others name = some t' ∧ t'.tree = t.tree ∧ t'.guard = t.guard

namespace Document

/-- The names that stand for another name. -/
def Alias (d : Document) (a b : String) : Prop := d.Declares a (.reference b)

/-- Which nodes of lowered types are one. -/
structure SharesExactly (d : Document) (types : List (String × Descriptor)) : Prop where
  /-- Each position comes from one node of the document, and from no other. -/
  comes : ∀ p s, Holds types p s → ∃! site, d.ComesFrom p site
  /-- Two positions hold the same node if and only if they come from the same one. -/
  same_iff : ∀ p q s t, Holds types p s → Holds types q t →
    (s.same t = true ↔ ∃ site, d.ComesFrom p site ∧ d.ComesFrom q site)
  /-- What is the same node is the same tree. -/
  alike : ∀ p q s t, Holds types p s → Holds types q t → s.same t = true → s = t
  /-- Each node of the document that is no reference has become one, which is held at its place. -/
  kept : ∀ site n, d.at? site = some n → n.isReference = false →
    d.ComesFrom site site ∧ ∃ s, Holds types site s
  /-- A reference is the named type itself. -/
  referred : ∀ site name, d.at? site = some (.reference name) →
    ∃ t, Fields.get? types name = some t ∧ Holds types site t
  /-- A name that stands for a name is in the end what the last of them is. -/
  aliased : ∀ a b, Relation.ReflTransGen d.Alias a b → Fields.get? types a = Fields.get? types b

variable {d d' : Document} {types : List (String × Descriptor)} {start last : Nat} {made : List Site}

theorem holds_root {name : String} {t : Descriptor} :
    Holds types (name, []) t ↔ Fields.get? types name = some t := by
  refine ⟨?_, fun found => ⟨t, found, rfl⟩⟩
  rintro ⟨_, found, ⟨⟩⟩
  exact found

theorem sharesExactly_of_numbered (tidy : d.isTidy = true)
    (numbered : Lowering.Numbered d start made types) : d.SharesExactly types := by
  have fits : Lowering.Fits start made (Lowering.numbering start made) :=
    Lowering.fits_numbering numbered.nodup
  -- identities are numbers of sites, so two nodes are the same exactly if they come from one site
  have same_iff : ∀ p q s t, Holds types p s → Holds types q t →
      (s.same t = true ↔ ∃ site, d.ComesFrom p site ∧ d.ComesFrom q site) := by
    intro p q s t one other
    constructor
    · intro same
      obtain ⟨site, fromOne⟩ := numbered.exists_comesFrom tidy one
      obtain ⟨site', fromOther⟩ := numbered.exists_comesFrom tidy other
      cases numbered.place_eq_of_id_eq tidy one fromOne other fromOther (eq_of_beq same)
      exact ⟨site, fromOne, fromOther⟩
    · rintro ⟨site, fromOne, fromOther⟩
      obtain ⟨-, id⟩ := numbered.held_of_comesFrom tidy one fromOne fits
      obtain ⟨-, id'⟩ := numbered.held_of_comesFrom tidy other fromOther fits
      exact beq_iff_eq.mpr (id.trans id'.symm)
  have inDeclaration : ∀ site n, d.at? site = some n →
      ∃ s, Holds types site s ∧ d.InlinesAt (Lowering.numbering start made) site s := by
    intro site n found
    obtain ⟨whole, there⟩ := numbered.exists_type found
    obtain ⟨declaration, declared, inside⟩ := Option.bind_eq_some_iff.mp found
    obtain ⟨s, held, at_⟩ := held_of_at? tidy (at?_root.mpr declared) inside
      (numbered.inlinesAt fits there)
    exact ⟨s, ⟨whole, there, held⟩, at_⟩
  -- a reference stands for the whole type of its name, node and all
  have referred : ∀ site name, d.at? site = some (.reference name) →
      ∃ t, Fields.get? types name = some t ∧ Holds types site t := by
    intro site name found
    obtain ⟨s, held, at_⟩ := inDeclaration site _ found
    have named := at_.of_reference found
    obtain ⟨n, root, -⟩ := named
    obtain ⟨t, there⟩ := numbered.exists_type root
    have same : s = t := (at_.of_reference found).unique (numbered.inlinesAt fits there)
    exact ⟨t, there, same ▸ held⟩
  refine ⟨?_, same_iff, ?_, ?_, referred, ?_⟩
  · intro p s held
    obtain ⟨site, comes⟩ := numbered.exists_comesFrom tidy held
    refine ⟨site, comes, fun other also => ?_⟩
    exact numbered.place_eq_of_id_eq tidy held also held comes rfl
  · intro p q s t one other same
    obtain ⟨site, fromOne, fromOther⟩ := (same_iff p q s t one other).mp same
    exact (numbered.held_of_comesFrom tidy one fromOne fits).1.unique
      (numbered.held_of_comesFrom tidy other fromOther fits).1
  · intro site n found real
    obtain ⟨s, held, -⟩ := inDeclaration site n found
    obtain ⟨declaration, declared, inside⟩ := Option.bind_eq_some_iff.mp found
    exact ⟨leads_of_at? real (at?_root.mpr declared) inside, s, held⟩
  · intro a b chain
    induction chain with
    | refl => rfl
    | tail _ step ih =>
      obtain ⟨t, there, held⟩ := referred _ _ (at?_root.mpr step)
      rw [ih, holds_root.mp held, there]

theorem inlined_of_declares (same : Fields.get? d' = Fields.get? d) (own : Site → Nat) :
    d'.inlined own = d.inlined own := by
  funext depth
  induction depth with
  | zero => rfl
  | succ depth ih =>
    funext name
    rw [inlined, inlined, same, ih]

theorem tree_of_numbered (numbered : Lowering.Numbered d start made types)
    {entry : String × Descriptor} (mem : entry ∈ types) :
    d.Inlines (fun _ => 0) entry.1 entry.2.tree :=
  (numbered.trees _ (Lowering.fits_numbering numbered.nodup) entry mem).renumber fun _ => 0

/-- In another order the same trees are declared. -/
theorem sameTrees_of_numbered {others : List (String × Descriptor)} {start' : Nat}
    {made' : List Site} (same : Fields.get? d' = Fields.get? d)
    (names : ∀ name, name ∈ Fields.keys d → name ∈ Fields.keys d')
    (numbered : Lowering.Numbered d start made types)
    (numbered' : Lowering.Numbered d' start' made' others) : SameTrees types others := by
  intro name t found
  have mem := Fields.mem_of_get? found
  have known : name ∈ Fields.keys others := by
    rw [numbered'.keys]
    refine names name ?_
    rw [← numbered.keys]
    exact List.mem_map.mpr ⟨_, mem, rfl⟩
  obtain ⟨t', found'⟩ := Fields.exists_get? known
  have tree := tree_of_numbered numbered mem
  have tree' := tree_of_numbered numbered' (Fields.mem_of_get? found')
  unfold Inlines at tree'
  rw [inlined_of_declares same] at tree'
  have trees : t'.tree = t.tree := tree'.unique tree
  refine ⟨t', found', trees, ?_⟩
  calc t'.guard
      = t'.tree.guard := (Descriptor.guard_renumber t').symm
    _ = t.tree.guard := congrArg Descriptor.guard trees
    _ = t.guard := Descriptor.guard_renumber t

/-- Lowering is inlining with exact sharing. Each declared name has a type, which is the tree of its
declaration with every reference replaced by the tree of the name. In any other order the document
can be lowered too, and gives every name the same tree and the same guard. Two positions hold one
node exactly if they come from one node of the document; references and aliases are what they stand
for. The document gives each name once, as one that is read does (`Document.isTidy_of_read`). -/
theorem lowering_inlines_and_shares (tidy : d.isTidy = true)
    (lowered : d.lower start = .ok (types, last)) :
    Fields.keys types = Fields.keys d ∧
      (∀ entry ∈ types, d.Inlines (fun _ => 0) entry.1 entry.2.tree) ∧
      (∀ (d' : Document) (start' : Nat), d'.Perm d → ∃ others last',
        d'.lower start' = .ok (others, last') ∧ SameTrees types others) ∧
      d.SharesExactly types := by
  obtain ⟨made, numbered⟩ := Lowering.numbered_of_lower lowered
  refine ⟨numbered.keys, fun entry mem => tree_of_numbered numbered mem, fun d' start' perm => ?_,
    sharesExactly_of_numbered tidy numbered⟩
  have same : Fields.get? d' = Fields.get? d :=
    funext (Fields.get?_of_perm perm (isTidy_eq_true.mp tidy).1)
  have formed : d'.WellFormed :=
    WellFormed.of_declares (by unfold Declares; rw [same])
      ((exists_lower_iff d start).mp ⟨_, lowered⟩)
  obtain ⟨⟨others, last'⟩, lowered'⟩ := (exists_lower_iff d' start').mpr formed
  obtain ⟨made', numbered'⟩ := Lowering.numbered_of_lower lowered'
  have names : (Fields.keys d').Perm (Fields.keys d) := perm.map Prod.fst
  exact ⟨others, last', lowered',
    sameTrees_of_numbered same (fun _ => names.mem_iff.mpr) numbered numbered'⟩

/-- A boolean under two names, and beside them one of its own. -/
def relayed : Document :=
  [("row", .tuple [.reference "alias", .boolean, .reference "flag"]), ("alias", .reference "flag"),
    ("flag", .boolean)]

/-- The types of these names: both references hold the node that is made first. -/
def relayedTypes : List (String × Descriptor) :=
  [("row", .node 2 (.tuple [.node 0 .boolean, .node 1 .boolean, .node 0 .boolean])),
    ("alias", .node 0 .boolean), ("flag", .node 0 .boolean)]

/-- What is under two names is one node, and the boolean beside it is another. In another order the
names have the same trees. -/
theorem relayed_shares : relayed.isTidy = true ∧ relayed.lower 0 = .ok (relayedTypes, 3) ∧
    relayed.SharesExactly relayedTypes ∧
    ∃ others last, Document.lower relayed.reverse 0 = .ok (others, last) ∧
      SameTrees relayedTypes others := by
  have tidy : relayed.isTidy = true := by decide
  have lowered : relayed.lower 0 = .ok (relayedTypes, 3) := by cbv
  obtain ⟨_, _, reordered, shares⟩ := lowering_inlines_and_shares tidy lowered
  exact ⟨tidy, lowered, shares, reordered _ 0 relayed.reverse_perm⟩

end Document

end Specimen
