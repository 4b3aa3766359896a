import Specimen.Proofs.Document.Tidy
import Specimen.Proofs.Document.Trees

/-!
# Places of a document and positions in its trees

From a position in a tree one follows the way down through declarations, through references wherever
they stand, and comes to one node of the document that is no reference (`Document.Leads`). What stands
at the position is the tree of the place that one comes to (`Document.Leads.held`), and one comes to
such a place from every position there is (`Document.exists_leads`).

All this is said of documents that give each name once. Where a record names a field twice, its tree
has fewer fields than the document shows.
-/

namespace Specimen

/-! ## Places and positions -/

namespace Node

/-- Whether a node stands for another declaration. -/
def isReference : Node → Bool
  | .reference _ => true
  | _ => false

theorem isReference_eq_true {n : Node} : n.isReference = true ↔ ∃ name, n = .reference name := by
  constructor
  · intro stands
    cases n with
    | reference name => exact ⟨name, rfl⟩
    | _ => cases stands
  · rintro ⟨name, rfl⟩
    rfl

/-- The nodes directly below a node, in order. -/
def children : Node → List Node
  | .array element => [element]
  | .tuple components => components
  | .dictionary value => [value]
  | .record fields => fields.map Prod.snd
  | .partialRecord fields => fields.map Prod.snd
  | .union alternatives => alternatives
  | .intersect intersectees => intersectees
  | .constraint underlying _ _ none => [underlying]
  | .constraint underlying _ _ (some args) => underlying :: args.types.map Prod.snd
  | _ => []

/-- A reference has no children. -/
theorem isReference_of_child {n child : Node} {i : Nat} (below : n.children[i]? = some child) :
    n.isReference = false := by
  cases n with
  | reference name => cases below
  | _ => rfl

/-- The node at the end of a way down. -/
def at? : Node → List Nat → Option Node
  | n, [] => some n
  | n, i :: path => n.children[i]?.bind fun child => child.at? path

theorem at?_append {n : Node} : ∀ {m : Node} {path rest : List Nat}, n.at? path = some m →
    n.at? (path ++ rest) = m.at? rest
  | m, [], rest, found => by
    cases found
    rfl
  | m, i :: path, rest, found => by
    obtain ⟨child, here, found⟩ := Option.bind_eq_some_iff.mp found
    rw [List.cons_append, at?, here, Option.bind_some, at?_append found]

/-- What stands in a tidy node is tidy. -/
theorem isTidy_of_mem_children {n child : Node} (tidy : n.isTidy = true)
    (mem : child ∈ n.children) : child.isTidy = true := by
  have ofFields : ∀ {fields : List (String × Node)}, areTidyFields fields = true →
      child ∈ fields.map Prod.snd → child.isTidy = true := by
    intro fields each mem
    obtain ⟨field, among, rfl⟩ := List.mem_map.mp mem
    exact areTidyFields_eq_true.mp each field among
  match n, tidy, mem with
  | .array element, tidy, mem => exact List.mem_singleton.mp mem ▸ tidy
  | .tuple components, tidy, mem => exact areTidy_eq_true.mp tidy child mem
  | .dictionary value, tidy, mem => exact List.mem_singleton.mp mem ▸ tidy
  | .record fields, tidy, mem => exact ofFields (Bool.and_eq_true_iff.mp tidy).2 mem
  | .partialRecord fields, tidy, mem => exact ofFields (Bool.and_eq_true_iff.mp tidy).2 mem
  | .union alternatives, tidy, mem => exact areTidy_eq_true.mp tidy child mem
  | .intersect intersectees, tidy, mem => exact areTidy_eq_true.mp tidy child mem
  | .constraint underlying _ _ none, tidy, mem => exact List.mem_singleton.mp mem ▸ tidy
  | .constraint underlying _ _ (some ⟨_, _, types⟩), tidy, mem =>
    obtain ⟨ofUnderlying, ofArgs⟩ := Bool.and_eq_true_iff.mp tidy
    obtain ⟨_, ofTypes⟩ := Bool.and_eq_true_iff.mp ofArgs
    rcases List.mem_cons.mp mem with rfl | mem
    · exact ofUnderlying
    · exact ofFields (Bool.and_eq_true_iff.mp ofTypes).2 mem

theorem isTidy_of_at? : ∀ {n m : Node} {path : List Nat}, n.isTidy = true → n.at? path = some m →
    m.isTidy = true
  | n, m, [], tidy, found => by
    cases found
    exact tidy
  | n, m, i :: path, tidy, found => by
    obtain ⟨child, here, found⟩ := Option.bind_eq_some_iff.mp found
    exact isTidy_of_at? (isTidy_of_mem_children tidy (List.mem_of_getElem? here)) found

end Node

namespace Descriptor

/-- The types directly below a type, in order. -/
def children (t : Descriptor) : List Descriptor :=
  match t.shape with
  | .array element => [element]
  | .constraint underlying _ _ none => [underlying]
  | .constraint underlying _ _ (some args) => underlying :: args.types.map Prod.snd
  | .dictionary value => [value]
  | .intersect intersectees => intersectees
  | .partialRecord fields => fields.map Prod.snd
  | .record fields => fields.map Prod.snd
  | .tuple components => components
  | .union alternatives => alternatives
  | _ => []

/-- The type at the end of a way down. -/
def at? : Descriptor → List Nat → Option Descriptor
  | t, [] => some t
  | t, i :: path => t.children[i]?.bind fun child => child.at? path

end Descriptor

namespace Document

variable {d : Document}

/-- The node at a place of a document. -/
def at? (d : Document) (site : Site) : Option Node :=
  (Fields.get? d site.1).bind fun n => n.at? site.2

/-- What is held at a position: on the way down from a named type. -/
def Holds (types : List (String × Descriptor)) (position : Site) (t : Descriptor) : Prop :=
  ∃ whole, Fields.get? types position.1 = some whole ∧ whole.at? position.2 = some t

/-- From a place, a way down leads to a node that is no reference. It goes through declarations, and
through references wherever they stand. -/
inductive Leads (d : Document) : Site → List Nat → Site → Prop
  | here {site : Site} {n : Node} (found : d.at? site = some n) (real : n.isReference = false) :
    Leads d site [] site
  | refer {site target : Site} {name : String} {path : List Nat}
    (found : d.at? site = some (.reference name)) (rest : Leads d (name, []) path target) :
    Leads d site path target
  | down {site target : Site} {n : Node} {i : Nat} {path : List Nat} (found : d.at? site = some n)
    (real : n.isReference = false) (small : i < n.children.length)
    (rest : Leads d (site.1, site.2 ++ [i]) path target) : Leads d site (i :: path) target

/-- A position comes from the node at a place. -/
def ComesFrom (d : Document) (position site : Site) : Prop :=
  d.Leads (position.1, []) position.2 site

end Document

/-! ## One node -/

namespace Node

variable {own : List Nat → Nat} {resolve : String → Option Descriptor} {place : List Nat}

/-- Trees that stand side by side are those of the nodes, one by one. -/
theorem getElem?_of_inlineAll : ∀ {ns : List Node} {i : Nat} {ts : List Descriptor},
    inlineAll own resolve place i ns = some ts → ts.length = ns.length ∧
      ∀ j, ts[j]? = ns[j]?.bind (inline own resolve (place ++ [i + j]))
  | [], i, ts, found => by
    cases found
    exact ⟨rfl, fun _ => rfl⟩
  | n :: rest, i, ts, found => by
    obtain ⟨first, here, found⟩ := Option.bind_eq_some_iff.mp found
    obtain ⟨others, beside, found⟩ := Option.bind_eq_some_iff.mp found
    cases found
    obtain ⟨length, each⟩ := getElem?_of_inlineAll beside
    refine ⟨congrArg Nat.succ length, fun j => ?_⟩
    cases j with
    | zero => exact here.symm
    | succ j =>
      rw [List.getElem?_cons_succ, List.getElem?_cons_succ, each j]
      exact congrArg (fun k => rest[j]?.bind (inline own resolve (place ++ [k]))) (by omega)

theorem inlineAll_of_inlineFields : ∀ {fields : List (String × Node)} {i : Nat}
    {ts : List (String × Descriptor)}, inlineFields own resolve place i fields = some ts →
      Fields.keys ts = Fields.keys fields ∧
        inlineAll own resolve place i (fields.map Prod.snd) = some (ts.map Prod.snd)
  | [], i, ts, found => by
    cases found
    exact ⟨rfl, rfl⟩
  | (name, n) :: rest, i, ts, found => by
    obtain ⟨first, here, found⟩ := Option.bind_eq_some_iff.mp found
    obtain ⟨others, beside, found⟩ := Option.bind_eq_some_iff.mp found
    cases found
    obtain ⟨keys, each⟩ := inlineAll_of_inlineFields beside
    refine ⟨congrArg (name :: ·) keys, ?_⟩
    simp only [List.map_cons, inlineAll, here, each, Option.bind_some]

private theorem inlineAll_singleton {n : Node} {t : Descriptor}
    (found : n.inline own resolve (place ++ [0]) = some t) :
    inlineAll own resolve place 0 [n] = some [t] := by
  simp only [inlineAll, found, Option.bind_some]

private theorem inlineAll_of_ofPairs {fields : List (String × Node)}
    {ts : List (String × Descriptor)} (nodup : decide (Fields.keys fields).Nodup = true)
    (found : inlineFields own resolve place 0 fields = some ts) :
    inlineAll own resolve place 0 (fields.map Prod.snd) =
      some ((Fields.ofPairs ts).map Prod.snd) := by
  obtain ⟨keys, each⟩ := inlineAll_of_inlineFields found
  rw [Fields.ofPairs_of_nodup (keys ▸ of_decide_eq_true nodup)]
  exact each

/-- The tree of a node that is no reference has the identity of its place, and below it the trees of
the node's children. -/
theorem inline_eq_some {n : Node} {t : Descriptor} (real : n.isReference = false)
    (tidy : n.isTidy = true) (found : n.inline own resolve place = some t) :
    t.id = own place ∧ inlineAll own resolve place 0 n.children = some t.children := by
  match n, real, tidy, found with
  | .always, _, _, found | .boolean, _, _, found | .number, _, _, found | .string, _, _, found
  | .void, _, _, found | .function, _, _, found | .literal _, _, _, found =>
    cases found
    exact ⟨rfl, rfl⟩
  | .array element, _, _, found | .dictionary element, _, _, found =>
    obtain ⟨below, here, found⟩ := Option.bind_eq_some_iff.mp found
    cases found
    exact ⟨rfl, inlineAll_singleton here⟩
  | .tuple ns, _, _, found | .union ns, _, _, found | .intersect ns, _, _, found =>
    obtain ⟨below, here, found⟩ := Option.bind_eq_some_iff.mp found
    cases found
    exact ⟨rfl, here⟩
  | .record fields, _, tidy, found | .partialRecord fields, _, tidy, found =>
    obtain ⟨below, here, found⟩ := Option.bind_eq_some_iff.mp found
    cases found
    exact ⟨rfl, inlineAll_of_ofPairs (Bool.and_eq_true_iff.mp tidy).1 here⟩
  | .constraint underlying predicate fix none, _, _, found =>
    obtain ⟨below, here, found⟩ := Option.bind_eq_some_iff.mp found
    obtain ⟨p, _, found⟩ := Option.bind_eq_some_iff.mp found
    obtain ⟨c, _, found⟩ := Option.bind_eq_some_iff.mp found
    cases found
    exact ⟨rfl, inlineAll_singleton here⟩
  | .constraint underlying predicate fix (some ⟨tag, params, types⟩), _, _, found =>
    obtain ⟨below, here, found⟩ := Option.bind_eq_some_iff.mp found
    obtain ⟨p, _, found⟩ := Option.bind_eq_some_iff.mp found
    obtain ⟨c, _, found⟩ := Option.bind_eq_some_iff.mp found
    obtain ⟨ts, beside, found⟩ := Option.bind_eq_some_iff.mp found
    cases found
    -- the types of arguments are children after the underlying node, counted on from its place
    obtain ⟨_, each⟩ := inlineAll_of_inlineFields beside
    have first : underlying.inline own resolve (place ++ [0]) = some below := here
    refine ⟨rfl, ?_⟩
    simp only [children, Descriptor.children, Descriptor.shape, inlineAll, first, each,
      Option.bind_some]
  | .extension name guard payload, _, _, found =>
    obtain ⟨p, _, found⟩ := Option.bind_eq_some_iff.mp found
    cases found
    exact ⟨rfl, rfl⟩

end Node

/-! ## Places in step with positions -/

namespace Document

variable {d : Document} {own : Site → Nat} {site target : Site} {s t : Descriptor}

/-- The tree of a place, with these identities. -/
def InlinesAt (d : Document) (own : Site → Nat) (site : Site) (t : Descriptor) : Prop :=
  ∃ n, d.at? site = some n ∧ Eventually (fun depth =>
    n.inline (fun place => own (site.1, place)) (d.inlined own depth) site.2) t

theorem isTidy_of_at? {n : Node} (tidy : d.isTidy = true) (found : d.at? site = some n) :
    n.isTidy = true := by
  obtain ⟨whole, declared, found⟩ := Option.bind_eq_some_iff.mp found
  exact Node.isTidy_of_at? ((isTidy_eq_true.mp tidy).2 _ (Fields.mem_of_get? declared)) found

theorem at?_concat {n : Node} (found : d.at? site = some n) (i : Nat) :
    d.at? (site.1, site.2 ++ [i]) = n.children[i]? := by
  obtain ⟨whole, declared, found⟩ := Option.bind_eq_some_iff.mp found
  rw [at?, declared, Option.bind_some, Node.at?_append found, Node.at?]
  cases n.children[i]? with
  | none => rfl
  | some child => rfl

theorem at?_root {name : String} {n : Node} :
    d.at? (name, []) = some n ↔ Fields.get? d name = some n := by
  refine Option.bind_eq_some_iff.trans ⟨?_, fun declared => ⟨n, declared, rfl⟩⟩
  rintro ⟨_, declared, ⟨⟩⟩
  exact declared

theorem inlinesAt_iff {name : String} : d.InlinesAt own (name, []) t ↔ d.Inlines own name t := by
  constructor
  · rintro ⟨n, found, inlines⟩
    refine .of_succ ?_
    simp only [inlined, at?_root.mp found, Option.bind_some]
    exact inlines
  · intro inlines
    have inlines := inlines.succ
    have declared : ∃ n, Fields.get? d name = some n := by
      obtain ⟨depth, inlines⟩ := inlines
      obtain ⟨n, declared, -⟩ := Option.bind_eq_some_iff.mp (inlines depth (Nat.le_refl _))
      exact ⟨n, declared⟩
    obtain ⟨n, declared⟩ := declared
    refine ⟨n, at?_root.mpr declared, ?_⟩
    simpa only [inlined, declared, Option.bind_some] using inlines

theorem InlinesAt.unique (one : d.InlinesAt own site s) (other : d.InlinesAt own site t) : s = t := by
  obtain ⟨n, found, one⟩ := one
  obtain ⟨m, same, other⟩ := other
  cases found.symm.trans same
  exact one.unique other

/-- A reference is the named type. -/
theorem InlinesAt.of_reference {name : String} (found : d.at? site = some (.reference name))
    (inlines : d.InlinesAt own site t) : d.InlinesAt own (name, []) t := by
  obtain ⟨n, same, inlines⟩ := inlines
  cases found.symm.trans same
  exact inlinesAt_iff.mpr inlines

section Real

variable {n : Node} (tidy : d.isTidy = true) (found : d.at? site = some n)
  (real : n.isReference = false)

include tidy found real

theorem InlinesAt.id_eq (inlines : d.InlinesAt own site t) : t.id = own site := by
  obtain ⟨m, same, depth, inlines⟩ := inlines
  cases found.symm.trans same
  exact (Node.inline_eq_some real (isTidy_of_at? tidy found) (inlines depth (Nat.le_refl _))).1

/-- Below a node stand the trees of its children. -/
theorem InlinesAt.child {i : Nat} (inlines : d.InlinesAt own site t)
    (small : i < n.children.length) :
    ∃ c, t.children[i]? = some c ∧ d.InlinesAt own (site.1, site.2 ++ [i]) c := by
  obtain ⟨m, same, depth, inlines⟩ := inlines
  cases found.symm.trans same
  have each : ∀ more, depth ≤ more → _ := fun more le =>
    Node.getElem?_of_inlineAll
      (Node.inline_eq_some real (isTidy_of_at? tidy found) (inlines more le)).2
  obtain ⟨length, -⟩ := each depth (Nat.le_refl _)
  have there : i < t.children.length := length ▸ small
  refine ⟨t.children[i], List.getElem?_eq_getElem there, n.children[i], ?_, depth, fun more le => ?_⟩
  · rw [at?_concat found, List.getElem?_eq_getElem small]
  · have at_ := (each more le).2 i
    rw [List.getElem?_eq_getElem there, List.getElem?_eq_getElem small, Nat.zero_add] at at_
    exact at_.symm

end Real

/-- Where a way leads to, there its node is held, with the identity of that place. -/
theorem Leads.held {path : List Nat} (tidy : d.isTidy = true) (leads : d.Leads site path target)
    (inlines : d.InlinesAt own site t) :
    ∃ s, t.at? path = some s ∧ d.InlinesAt own target s ∧ s.id = own target := by
  induction leads generalizing t with
  | here found real => exact ⟨t, rfl, inlines, inlines.id_eq tidy found real⟩
  | refer found _ ih => exact ih (inlines.of_reference found)
  | down found real small _ ih =>
    obtain ⟨c, there, below⟩ := inlines.child tidy found real small
    obtain ⟨s, held, at_, id⟩ := ih below
    refine ⟨s, ?_, at_, id⟩
    rw [Descriptor.at?, there, Option.bind_some, held]

/-- Whatever is held comes from somewhere. The recursion follows references by depth, and the way
down within one declaration. -/
theorem exists_leads (tidy : d.isTidy = true) : ∀ (depth : Nat) (path : List Nat) {site : Site}
    {n : Node} {t s : Descriptor}, d.at? site = some n →
      n.inline (fun place => own (site.1, place)) (d.inlined own depth) site.2 = some t →
        t.at? path = some s → ∃ target, d.Leads site path target
  | depth, path, site, n, t, s, found, inlined, held => by
    cases real : n.isReference with
    | true =>
      obtain ⟨name, rfl⟩ := Node.isReference_eq_true.mp real
      cases depth with
      | zero => cases inlined
      | succ depth =>
        obtain ⟨declaration, declared, inlined⟩ := Option.bind_eq_some_iff.mp inlined
        have root : d.at? (name, []) = some declaration := at?_root.mpr declared
        obtain ⟨target, leads⟩ := exists_leads tidy depth path root inlined held
        exact ⟨target, .refer found leads⟩
    | false =>
      obtain ⟨-, each⟩ := Node.inline_eq_some real (isTidy_of_at? tidy found) inlined
      obtain ⟨length, each⟩ := Node.getElem?_of_inlineAll each
      cases path with
      | nil => exact ⟨site, .here found real⟩
      | cons i path =>
        obtain ⟨c, there, held⟩ := Option.bind_eq_some_iff.mp held
        have at_ := (each i).symm.trans there
        obtain ⟨child, below, inlined⟩ := Option.bind_eq_some_iff.mp at_
        rw [Nat.zero_add] at inlined
        have found' : d.at? (site.1, site.2 ++ [i]) = some child := (at?_concat found i).trans below
        obtain ⟨target, leads⟩ := exists_leads tidy depth path found' inlined held
        exact ⟨target, .down found real (List.getElem?_eq_some_iff.mp below).1 leads⟩
  termination_by depth path => (depth, path.length)

/-- A node with children is no reference, so a way down in one declaration is one in the document. -/
theorem leads_of_at? {n : Node} (real : n.isReference = false) : ∀ {path : List Nat} {site : Site}
    {m : Node}, d.at? site = some m → m.at? path = some n →
      d.Leads site path (site.1, site.2 ++ path)
  | [], site, m, found, inside => by
    cases inside
    rw [List.append_nil]
    exact .here found real
  | i :: path, site, m, found, inside => by
    obtain ⟨child, below, inside⟩ := Option.bind_eq_some_iff.mp inside
    obtain ⟨small, -⟩ := List.getElem?_eq_some_iff.mp below
    have onward := leads_of_at? real ((at?_concat found i).trans below) inside
    rw [List.append_assoc, List.singleton_append] at onward
    exact .down found (Node.isReference_of_child below) small onward

/-- What stands at a place of a declaration is held at the same position below the named type. -/
theorem held_of_at? {n : Node} (tidy : d.isTidy = true) : ∀ {path : List Nat} {site : Site}
    {m : Node} {t : Descriptor}, d.at? site = some m → m.at? path = some n →
      d.InlinesAt own site t → ∃ s, t.at? path = some s ∧
        d.InlinesAt own (site.1, site.2 ++ path) s
  | [], site, m, t, found, inside, inlines => by
    refine ⟨t, rfl, ?_⟩
    rwa [List.append_nil]
  | i :: path, site, m, t, found, inside, inlines => by
    obtain ⟨child, below, inside⟩ := Option.bind_eq_some_iff.mp inside
    obtain ⟨small, -⟩ := List.getElem?_eq_some_iff.mp below
    obtain ⟨c, there, inlines⟩ :=
      inlines.child tidy found (Node.isReference_of_child below) small
    obtain ⟨s, held, at_⟩ := held_of_at? tidy ((at?_concat found i).trans below) inside inlines
    rw [List.append_assoc, List.singleton_append] at at_
    refine ⟨s, ?_, at_⟩
    rw [Descriptor.at?, there, Option.bind_some, held]

end Document

end Specimen
