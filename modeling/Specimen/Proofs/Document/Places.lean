import Mathlib.Logic.Relation
import Specimen.Proofs.Document.Tidy

/-!
# Places of nodes

Where the nodes of a document stand in what is read of its text. A place is given by all that is
read around it, as a function of the reading that stands there: in a member of a node (`InMember`), in
a node that has the member (`InNode`), at any depth in a declared node (`Place`), and so in a document
(`InDocument`). Nodes and arguments may each be written as an object or as a sequence.

What is read of the document depends on the reading at a place in nothing but the node that it says
(`InDocument.replace`). One step of the induction on depth is that of a single node, and each of the
decoders has a law that says the same of the reading at one of its places.
-/

namespace Specimen

namespace NodeTag

variable {tag : NodeTag} {decl : MemberDecl}

/-- The tag is none of the members that it declares. -/
theorem name_ne_tag (declared : decl ∈ tag.members) : decl.name ≠ "tag" := by
  have apart : ∀ decl ∈ tag.members, decl.name ≠ "tag" := by cases tag <;> decide
  exact apart decl declared

/-- No two members of a tag share a name. -/
theorem find?_members (declared : decl ∈ tag.members) :
    tag.members.find? (fun other => other.name == decl.name) = some decl := by
  have names : (tag.members.map MemberDecl.name).Nodup := by cases tag <;> decide
  obtain ⟨before, after, split⟩ := List.append_of_mem declared
  refine List.find?_eq_some_iff_append.mpr ⟨beq_self_eq_true _, before, after, split, ?_⟩
  intro other mem
  rw [split, List.map_append, List.nodup_append] at names
  have apart := names.2.2 _ (List.mem_map_of_mem mem) decl.name List.mem_cons_self
  simpa using apart

end NodeTag

namespace Reading

/-! ## Places -/

/-- The places for nodes directly in a member, by the kind of the member. -/
inductive InMember : MemberKind → (Reading → Reading) → Prop
  | node : InMember .node id
  | item (before after : List Reading) : InMember .nodes fun r => .array (before ++ r :: after)
  | field (name : String) (before after : List (String × Reading)) (stop : Option Fault) :
    InMember .namedNodes fun r => .object (before ++ (name, r) :: after) stop
  /-- Among the types of arguments. -/
  | argument {F : Reading → Reading} (types : InMember .namedNodes F)
    (before after : List (String × Reading)) (stop : Option Fault) :
    InMember .optionalArgs fun r => .object (before ++ ("types", F r) :: after) stop
  /-- The same, in arguments that are written as a sequence. -/
  | argumentItem {F : Reading → Reading} (types : InMember .namedNodes F) (tag params : Reading)
    (after : List Reading) : InMember .optionalArgs fun r => .array (tag :: params :: F r :: after)

/-- The places for nodes directly in a node, in members that its tag declares. -/
inductive InNode (standing : Standing) : (Reading → Reading) → Prop
  | member {tag : NodeTag} {decl : MemberDecl} {F : Reading → Reading}
    (declared : decl ∈ tag.members) (inside : InMember decl.kind F)
    (before after : List (String × Reading)) (stop : Option Fault)
    (tagged : ∃ t, ("tag", t) ∈ before ++ after ∧ nodeTag standing t = .ok tag) :
    InNode standing fun r => .object (before ++ (decl.name, F r) :: after) stop
  | item {tag : NodeTag} {decl : MemberDecl} {F : Reading → Reading} (first : Reading)
    (before after : List Reading) (tagged : nodeTag standing first = .ok tag)
    (declared : tag.members[before.length]? = some decl) (inside : InMember decl.kind F) :
    InNode standing fun r => .array (first :: (before ++ F r :: after))

/-- The places for nodes in a node: itself, and at any depth in it. Of a node, and of the one at the
place, it is known how they stand. -/
inductive Place : Standing → Standing → (Reading → Reading) → Prop
  | here {standing : Standing} : Place standing standing id
  | inside {standing hole : Standing} {F C : Reading → Reading} (outer : InNode standing F)
    (inner : Place .inner hole C) : Place standing hole fun r => F (C r)

/-- The places for nodes in a document. -/
inductive InDocument (hole : Standing) : (Reading → Reading) → Prop
  | declared {C : Reading → Reading} (place : Place .declared hole C) (name : String)
    (before after : List (String × Reading)) (stop : Option Fault) :
    InDocument hole fun r => .object (before ++ (name, C r) :: after) stop

/-! ## Lists -/

variable {r s : Reading} {standing hole : Standing}

theorem nodeList_replace {before after : List Reading} {ns : List Node}
    (read : nodeList (before ++ r :: after) = .ok ns) :
    ∃ n, r.node .inner = .ok n ∧
      ∀ s, s.node .inner = .ok n → nodeList (before ++ s :: after) = .ok ns := by
  obtain ⟨n, here, others⟩ := (nodeList_eq_ok.mp read).replace
  exact ⟨n, here, fun s same => nodeList_eq_ok.mpr (others s same)⟩

section Members

variable {name : String} {before after : List (String × Reading)}

theorem nodeFields_replace {ns : List (String × Node)}
    (read : nodeFields (before ++ (name, r) :: after) = .ok ns) :
    ∃ n, r.node .inner = .ok n ∧
      ∀ s, s.node .inner = .ok n → nodeFields (before ++ (name, s) :: after) = .ok ns := by
  obtain ⟨⟨_, n⟩, ⟨rfl, here⟩, others⟩ := (nodeFields_eq_ok.mp read).replace
  exact ⟨n, here, fun s same => nodeFields_eq_ok.mpr (others (name, s) ⟨rfl, same⟩)⟩

theorem typeFields_replace {stop : Option Fault} {ns : List (String × Node)}
    (read : (object (before ++ (name, r) :: after) stop).typeFields = .ok ns) :
    ∃ n, r.node .inner = .ok n ∧ ∀ s, s.node .inner = .ok n →
      (object (before ++ (name, s) :: after) stop).typeFields = .ok ns := by
  obtain ⟨all, read, made⟩ := Except.bind_eq_ok.mp read
  obtain ⟨n, here, others⟩ := nodeFields_replace read
  exact ⟨n, here, fun s same => Except.bind_eq_ok.mpr ⟨all, others s same, made⟩⟩

/-- A member that is not the tag is passed over, whatever it is. -/
theorem findTag_replace {result : Option NodeTag} (other : name ≠ "tag")
    (settles : (∃ j, r.settle = .ok j) → ∃ j, s.settle = .ok j) :
    ∀ {before : List (String × Reading)} {found : Option NodeTag},
      findTag standing (before ++ (name, r) :: after) found = .ok result →
        findTag standing (before ++ (name, s) :: after) found = .ok result
  | [], _, read => by
    obtain ⟨settled, rest⟩ := (findTag_cons_of_ne other).mp read
    exact (findTag_cons_of_ne other).mpr ⟨settles settled, rest⟩
  | (first, member) :: before, _, read => by
    by_cases isTag : first = "tag"
    · subst isTag
      obtain ⟨free, tag, here, rest⟩ := findTag_cons_tag.mp read
      exact findTag_cons_tag.mpr ⟨free, tag, here, findTag_replace other settles rest⟩
    · obtain ⟨settled, rest⟩ := (findTag_cons_of_ne isTag).mp read
      exact (findTag_cons_of_ne isTag).mpr ⟨settled, findTag_replace other settles rest⟩

theorem nodeMembers_replace {declared : List MemberDecl} {decl : MemberDecl}
    (other : name ≠ "tag") (known : declared.find? (fun decl => decl.name == name) = some decl) :
    ∀ {before : List (String × Reading)} {parts result : Part.Parts},
      nodeMembers declared (before ++ (name, r) :: after) parts = .ok result →
        ∃ part, r.asPart decl.kind = .ok part ∧ ∀ s, s.asPart decl.kind = .ok part →
          nodeMembers declared (before ++ (name, s) :: after) parts = .ok result
  | [], _, _, read => by
    have read := nodeMembers_cons.mp read
    rw [if_neg other] at read
    obtain ⟨decl', part, found, free, here, rest⟩ := read
    cases known.symm.trans found
    refine ⟨part, here, fun s same => nodeMembers_cons.mpr ?_⟩
    rw [if_neg other]
    exact ⟨decl, part, known, free, same, rest⟩
  | (first, member) :: before, _, _, read => by
    have read := nodeMembers_cons.mp read
    by_cases isTag : first = "tag"
    · rw [if_pos isTag] at read
      obtain ⟨part, here, others⟩ := nodeMembers_replace other known read
      refine ⟨part, here, fun s same => nodeMembers_cons.mpr ?_⟩
      rw [if_pos isTag]
      exact others s same
    · rw [if_neg isTag] at read
      obtain ⟨decl', part', found, free, earlier, read⟩ := read
      obtain ⟨part, here, others⟩ := nodeMembers_replace other known read
      refine ⟨part, here, fun s same => nodeMembers_cons.mpr ?_⟩
      rw [if_neg isTag]
      exact ⟨decl', part', found, free, earlier, others s same⟩

theorem argMembers_replace {args : Args Node} :
    ∀ {before : List (String × Reading)} {tag : Option String}
      {params : Option (List (String × Json))} {types : Option (List (String × Node))},
      argMembers (before ++ ("types", r) :: after) tag params types = .ok args →
        ∃ ns, r.typeFields = .ok ns ∧ ∀ s, s.typeFields = .ok ns →
          argMembers (before ++ ("types", s) :: after) tag params types = .ok args
  | [], _, _, _, read => by
    obtain ⟨_, free, ns, here, rest⟩ :=
      ((argMembers_cons.mp read).resolve_left (by simp)).resolve_left (by simp)
    exact ⟨ns, here, fun s same => argMembers_cons.mpr (.inr (.inr ⟨rfl, free, ns, same, rest⟩))⟩
  | (first, member) :: before, _, _, _, read => by
    rcases argMembers_cons.mp read with ⟨named, free, t, earlier, rest⟩ |
      ⟨named, free, ps, earlier, rest⟩ | ⟨named, free, ts, earlier, rest⟩
    all_goals
      obtain ⟨ns, here, others⟩ := argMembers_replace rest
      refine ⟨ns, here, fun s same => argMembers_cons.mpr ?_⟩
    · exact .inl ⟨named, free, t, earlier, others s same⟩
    · exact .inr (.inl ⟨named, free, ps, earlier, others s same⟩)
    · exact .inr (.inr ⟨named, free, ts, earlier, others s same⟩)

end Members

theorem nodeItems_replace {tag : NodeTag} {before after : List Reading} {decl : MemberDecl}
    {count : Nat} {decls : List MemberDecl} {parts : Part.Parts}
    (known : decls[before.length]? = some decl)
    (read : nodeItems tag count decls (before ++ r :: after) = .ok parts) :
    ∃ part, r.asPart decl.kind = .ok part ∧ ∀ s, s.asPart decl.kind = .ok part →
      nodeItems tag count decls (before ++ s :: after) = .ok parts := by
  induction before generalizing count decls parts with
  | nil =>
    cases decls with
    | nil => cases known
    | cons _ decls =>
      cases known
      obtain ⟨part, here, rest⟩ := Except.bind_eq_ok.mp read
      exact ⟨part, here, fun s same => Except.bind_eq_ok.mpr ⟨part, same, rest⟩⟩
  | cons first before ih =>
    cases decls with
    | nil => cases known
    | cons _ decls =>
      obtain ⟨part', earlier, rest⟩ := Except.bind_eq_ok.mp read
      obtain ⟨parts, later, made⟩ := Except.bind_eq_ok.mp rest
      obtain ⟨part, here, others⟩ := ih known later
      refine ⟨part, here, fun s same => Except.bind_eq_ok.mpr ⟨part', earlier, ?_⟩⟩
      exact Except.bind_eq_ok.mpr ⟨parts, others s same, made⟩

theorem argItems_replace {tag params : Reading} {after : List Reading} {args : Args Node}
    (read : argItems (tag :: params :: r :: after) = .ok args) :
    ∃ ns, r.typeFields = .ok ns ∧ ∀ s, s.typeFields = .ok ns →
      argItems (tag :: params :: s :: after) = .ok args := by
  obtain ⟨t, isTag, read⟩ := Except.bind_eq_ok.mp read
  obtain ⟨ps, areParams, read⟩ := Except.bind_eq_ok.mp read
  obtain ⟨ns, here, made⟩ := Except.bind_eq_ok.mp read
  refine ⟨ns, here, fun s same => Except.bind_eq_ok.mpr ⟨t, isTag, ?_⟩⟩
  refine Except.bind_eq_ok.mpr ⟨ps, areParams, ?_⟩
  exact Except.bind_eq_ok.mpr ⟨ns, same, made⟩

/-! ## One node -/

namespace InMember

variable {kind : MemberKind} {F : Reading → Reading}

/-- There is no fault in a member with another reading at a place, unless in that reading. -/
theorem settles (place : InMember kind F) (whole : ∃ j, s.settle = .ok j)
    (settled : ∃ j, (F r).settle = .ok j) : ∃ j, (F s).settle = .ok j := by
  induction place with
  | node => exact whole
  | item before after =>
    rw [array_settles_iff, List.forall_mem_append, List.forall_mem_cons] at settled ⊢
    exact ⟨settled.1, whole, settled.2.2⟩
  | field name before after stop =>
    rw [object_settles_iff, List.forall_mem_append, List.forall_mem_cons] at settled ⊢
    exact ⟨settled.1, settled.2.1, whole, settled.2.2.2⟩
  | argument types before after stop ih =>
    rw [object_settles_iff, List.forall_mem_append, List.forall_mem_cons] at settled ⊢
    exact ⟨settled.1, settled.2.1, ih settled.2.2.1, settled.2.2.2⟩
  | argumentItem types tag params after ih =>
    rw [array_settles_iff] at settled ⊢
    simp only [List.forall_mem_cons] at settled ⊢
    exact ⟨settled.1, settled.2.1, ih settled.2.2.1, settled.2.2.2⟩

theorem types_replace (place : InMember .namedNodes F) {ns : List (String × Node)}
    (read : (F r).typeFields = .ok ns) :
    ∃ n, r.node .inner = .ok n ∧ ∀ s, s.node .inner = .ok n → (F s).typeFields = .ok ns := by
  cases place with
  | field name before after stop => exact typeFields_replace read

theorem replace (place : InMember kind F) {part : Part} (read : (F r).asPart kind = .ok part) :
    ∃ n, r.node .inner = .ok n ∧ ∀ s, s.node .inner = .ok n → (F s).asPart kind = .ok part := by
  cases place with
  | node =>
    obtain ⟨n, here, made⟩ := Except.map_eq_ok.mp read
    exact ⟨n, here, fun s same => Except.map_eq_ok.mpr ⟨n, same, made⟩⟩
  | item before after =>
    obtain ⟨ns, read, made⟩ := Except.map_eq_ok.mp read
    obtain ⟨n, here, others⟩ := nodeList_replace read
    exact ⟨n, here, fun s same => Except.map_eq_ok.mpr ⟨ns, others s same, made⟩⟩
  | field name before after stop =>
    obtain ⟨ns, read, made⟩ := Except.map_eq_ok.mp read
    obtain ⟨n, here, others⟩ := typeFields_replace read
    exact ⟨n, here, fun s same => Except.map_eq_ok.mpr ⟨ns, others s same, made⟩⟩
  | argument types before after stop =>
    obtain ⟨given, read, made⟩ := Except.map_eq_ok.mp read
    obtain ⟨args, read, given⟩ := Except.bind_eq_ok.mp read
    obtain ⟨ns, read, others⟩ := argMembers_replace read
    obtain ⟨n, here, same⟩ := types.types_replace read
    refine ⟨n, here, fun s read => Except.map_eq_ok.mpr ⟨_, ?_, made⟩⟩
    exact Except.bind_eq_ok.mpr ⟨args, others _ (same s read), given⟩
  | argumentItem types tag params after =>
    obtain ⟨given, read, made⟩ := Except.map_eq_ok.mp read
    obtain ⟨args, read, given⟩ := Except.bind_eq_ok.mp read
    obtain ⟨ns, read, others⟩ := argItems_replace read
    obtain ⟨n, here, same⟩ := types.types_replace read
    refine ⟨n, here, fun s read => Except.map_eq_ok.mpr ⟨_, ?_, made⟩⟩
    exact Except.bind_eq_ok.mpr ⟨args, others _ (same s read), given⟩

end InMember

theorem InNode.replace {F : Reading → Reading} {m : Node} (place : InNode standing F)
    (read : (F r).node standing = .ok m) :
    ∃ n, r.node .inner = .ok n ∧ ∀ s, s.node .inner = .ok n → (F s).node standing = .ok m := by
  cases place with
  | @member tag decl F declared inside before after stop tagged =>
    obtain ⟨whole, tag', parts, isTag, gathered, made⟩ := node_object_eq_ok.mp read
    obtain ⟨t, mem, spelled⟩ := tagged
    have given : ("tag", t) ∈ before ++ (decl.name, F r) :: after :=
      List.perm_middle.mem_iff.mpr (List.mem_cons_of_mem _ mem)
    obtain ⟨is, _, settled⟩ := findTag_none.mp isTag
    cases (is t given).symm.trans spelled
    have other := NodeTag.name_ne_tag declared
    have some : ¬ tag.members.isEmpty := by
      rw [List.isEmpty_iff]
      exact List.ne_nil_of_mem declared
    rw [if_neg some] at gathered
    obtain ⟨part, read, others⟩ :=
      nodeMembers_replace other (NodeTag.find?_members declared) gathered
    obtain ⟨n, here, same⟩ := inside.replace read
    refine ⟨n, here, fun s read => ?_⟩
    refine node_object_eq_ok.mpr ⟨whole, tag, parts, ?_, ?_, made⟩
    · exact findTag_replace other (inside.settles (settle_of_node read)) isTag
    · rw [if_neg some]
      exact others _ (same s read)
  | @item tag decl F first before after tagged declared inside =>
    obtain ⟨_, _, tag', parts, ⟨⟩, isTag, whole, gathered, made⟩ := node_array_eq_ok.mp read
    cases isTag.symm.trans tagged
    obtain ⟨part, read, others⟩ := nodeItems_replace declared gathered
    obtain ⟨n, here, same⟩ := inside.replace read
    refine ⟨n, here, fun s read => ?_⟩
    refine node_array_eq_ok.mpr ⟨first, _, tag, parts, rfl, tagged, ?_, others _ (same s read), made⟩
    rw [faultAmong_eq_none, List.forall_mem_append, List.forall_mem_cons] at whole ⊢
    exact ⟨whole.1, inside.settles (settle_of_node read) whole.2.1, whole.2.2⟩

/-- What is read of a node depends on the reading at a place in it only in the node that it says. -/
theorem Place.replace {C : Reading → Reading} (place : Place standing hole C) :
    ∀ {m : Node}, (C r).node standing = .ok m →
      ∃ n, r.node hole = .ok n ∧ ∀ s, s.node hole = .ok n → (C s).node standing = .ok m := by
  induction place with
  | here => exact fun read => ⟨_, read, fun _ same => same⟩
  | inside outer inner ih =>
    intro m read
    obtain ⟨between, read, others⟩ := outer.replace read
    obtain ⟨n, here, same⟩ := ih read
    exact ⟨n, here, fun s read => others _ (same s read)⟩

/-- What is read of a document depends on the reading at a place only in the node that it says. -/
theorem InDocument.replace {C : Reading → Reading} {d : Document} (place : InDocument hole C)
    (read : (C r).document = .ok d) :
    ∃ n, r.node hole = .ok n ∧ ∀ s, s.node hole = .ok n → (C s).document = .ok d := by
  cases place with
  | declared place name before after stop =>
    obtain ⟨whole, ns, each, made⟩ := document_object_eq_ok.mp read
    obtain ⟨⟨_, m⟩, ⟨rfl, read⟩, others⟩ := each.replace
    obtain ⟨n, here, same⟩ := place.replace read
    refine ⟨n, here, fun s read => document_object_eq_ok.mpr ⟨whole, ns, ?_, made⟩⟩
    exact others (name, _) ⟨rfl, same s read⟩

/-- Readings of the same nodes may stand for one another. -/
theorem InDocument.congr {C : Reading → Reading} {d : Document} (place : InDocument hole C)
    (same : ∀ n, r.node hole = .ok n ↔ s.node hole = .ok n) :
    (C r).document = .ok d ↔ (C s).document = .ok d := by
  constructor
  · intro read
    obtain ⟨n, here, others⟩ := place.replace read
    exact others s ((same n).mp here)
  · intro read
    obtain ⟨n, here, others⟩ := place.replace read
    exact others r ((same n).mpr here)

end Reading

/-! ## Every node has a place -/

/-- The nodes directly in a node. -/
def Node.parts : Node → List Node
  | .array element => [element]
  | .tuple components => components
  | .dictionary value => [value]
  | .record fields => fields.map Prod.snd
  | .partialRecord fields => fields.map Prod.snd
  | .union alternatives => alternatives
  | .intersect intersectees => intersectees
  | .constraint underlying _ _ none => [underlying]
  | .constraint underlying _ _ (some args) => underlying :: args.types.map Prod.snd
  | _ => []

/-- A node, or one that stands in it at any depth. -/
def Node.Within (m n : Node) : Prop :=
  Relation.ReflTransGen (fun outer part => part ∈ outer.parts) n m

/-- The nodes directly in a member. -/
def Part.parts : Part → List Node
  | .node n => [n]
  | .nodes ns => ns
  | .namedNodes fields => fields.map Prod.snd
  | .optionalArgs (some args) => args.types.map Prod.snd
  | _ => []

theorem Node.mem_parts_constraint {underlying part : Node} {predicate : String}
    {correction : Option String} {args : Option (Args Node)} :
    part ∈ (Node.constraint underlying predicate correction args).parts ↔
      part = underlying ∨ part ∈ (Part.optionalArgs args).parts := by
  cases args with
  | none => simp [parts, Part.parts]
  | some args => simp [parts, Part.parts]

/-- A node has its parts from its members. -/
theorem Part.exists_of_mem_parts {parts : Part.Parts} {tag : NodeTag} {n part : Node}
    (made : assemble parts tag = .ok n) (mem : part ∈ n.parts) :
    ∃ entry ∈ parts, part ∈ entry.2.parts := by
  cases tag with
  | always | boolean | number | string | void | function => cases made; cases mem
  | literal =>
    obtain ⟨_, _, made⟩ := Except.bind_eq_ok.mp made
    cases made
    cases mem
  | array | dictionary =>
    obtain ⟨_, needed, made⟩ := Except.bind_eq_ok.mp made
    cases made
    exact ⟨_, needNode_eq_ok needed, mem⟩
  | tuple | union | intersect =>
    obtain ⟨_, needed, made⟩ := Except.bind_eq_ok.mp made
    cases made
    exact ⟨_, needNodes_eq_ok needed, mem⟩
  | record | partialRecord =>
    obtain ⟨_, needed, made⟩ := Except.bind_eq_ok.mp made
    cases made
    exact ⟨_, needNamedNodes_eq_ok needed, mem⟩
  | constraint =>
    obtain ⟨_, underlying, made⟩ := Except.bind_eq_ok.mp made
    obtain ⟨_, _, made⟩ := Except.bind_eq_ok.mp made
    cases made
    rcases Node.mem_parts_constraint.mp mem with rfl | mem
    · exact ⟨_, needNode_eq_ok underlying, List.mem_singleton_self _⟩
    · split at mem
      case h_1 args found => exact ⟨_, Fields.mem_of_get? found, mem⟩
      case h_2 => cases mem
  | reference =>
    obtain ⟨_, _, made⟩ := Except.bind_eq_ok.mp made
    cases made
    cases mem
  | extension =>
    obtain ⟨_, _, made⟩ := Except.bind_eq_ok.mp made
    obtain ⟨_, _, made⟩ := Except.bind_eq_ok.mp made
    cases made
    cases mem

namespace Reading

variable {r : Reading} {standing : Standing} {n part : Node}

theorem exists_typeFields {ns : List (String × Node)} (read : r.typeFields = .ok ns)
    (mem : part ∈ ns.map Prod.snd) :
    ∃ F s, InMember .namedNodes F ∧ r = F s ∧ s.node .inner = .ok part := by
  cases r with
  | object members stop =>
    obtain ⟨all, given, made⟩ := Except.bind_eq_ok.mp read
    cases made
    obtain ⟨⟨name, n⟩, among, rfl⟩ := List.mem_map.mp mem
    obtain ⟨⟨_, s⟩, stands, rfl, here⟩ :=
      (nodeFields_eq_ok.mp given).exists_of_mem_right (Fields.mem_ofPairs among)
    obtain ⟨before, after, rfl⟩ := List.append_of_mem stands
    exact ⟨_, s, .field _ before after stop, rfl, here⟩
  | _ => cases read

/-- Arguments have their types from the member of that name. -/
theorem exists_argMembers {members : List (String × Reading)} {tag : Option String}
    {params : Option (List (String × Json))} {types : Option (List (String × Node))}
    {args : Args Node} (read : argMembers members tag params types = .ok args) :
    args.types = types.getD [] ∨ ∃ before s after, members = before ++ ("types", s) :: after ∧
      s.typeFields = .ok args.types := by
  induction members generalizing tag params types with
  | nil =>
    cases tag with
    | none => cases read
    | some tag =>
      cases read
      exact .inl rfl
  | cons member rest ih =>
    obtain ⟨name, member⟩ := member
    have later : ∀ {types : Option (List (String × Node))},
        (args.types = types.getD [] ∨ ∃ before s after, rest = before ++ ("types", s) :: after ∧
          s.typeFields = .ok args.types) →
        args.types = types.getD [] ∨ ∃ before s after,
          (name, member) :: rest = before ++ ("types", s) :: after ∧
            s.typeFields = .ok args.types := by
      rintro _ (kept | ⟨before, s, after, rfl, here⟩)
      · exact .inl kept
      · exact .inr ⟨(name, member) :: before, s, after, rfl, here⟩
    rcases argMembers_cons.mp read with ⟨_, _, _, _, read⟩ | ⟨_, _, _, _, read⟩ |
      ⟨rfl, rfl, ns, here, read⟩
    · exact later (ih read)
    · exact later (ih read)
    · rcases later (ih read) with kept | stands
      · exact .inr ⟨[], member, rest, rfl, kept ▸ here⟩
      · exact .inr stands

theorem exists_argItems {items : List Reading} {args : Args Node}
    (read : argItems items = .ok args) :
    args.types = [] ∨ ∃ tag params s after, items = tag :: params :: s :: after ∧
      s.typeFields = .ok args.types := by
  match items with
  | [] => cases read
  | [tag] =>
    obtain ⟨_, _, made⟩ := Except.bind_eq_ok.mp read
    cases made
    exact .inl rfl
  | [tag, params] =>
    obtain ⟨_, _, made⟩ := Except.bind_eq_ok.mp read
    obtain ⟨_, _, made⟩ := Except.bind_eq_ok.mp made
    cases made
    exact .inl rfl
  | tag :: params :: s :: after =>
    obtain ⟨_, _, made⟩ := Except.bind_eq_ok.mp read
    obtain ⟨_, _, made⟩ := Except.bind_eq_ok.mp made
    obtain ⟨types, here, made⟩ := Except.bind_eq_ok.mp made
    refine .inr ⟨tag, params, s, after, rfl, ?_⟩
    split at made
    · cases made
      exact here
    · cases made

/-- The nodes in a member have places in it. -/
theorem exists_inMember {kind : MemberKind} {given : Part} (read : r.asPart kind = .ok given)
    (mem : part ∈ given.parts) :
    ∃ F s, InMember kind F ∧ r = F s ∧ s.node .inner = .ok part := by
  cases kind with
  | node =>
    obtain ⟨n, here, made⟩ := Except.map_eq_ok.mp read
    cases made
    cases List.mem_singleton.mp mem
    exact ⟨id, r, .node, rfl, here⟩
  | nodes =>
    obtain ⟨ns, all, made⟩ := Except.map_eq_ok.mp read
    cases made
    cases r with
    | array items =>
      obtain ⟨s, stands, here⟩ := (nodeList_eq_ok.mp all).exists_of_mem_right mem
      obtain ⟨before, after, rfl⟩ := List.append_of_mem stands
      exact ⟨_, s, .item before after, rfl, here⟩
    | _ => cases all
  | namedNodes =>
    obtain ⟨ns, here, made⟩ := Except.map_eq_ok.mp read
    cases made
    exact exists_typeFields here mem
  | text | optionalText | json =>
    obtain ⟨_, _, made⟩ := Except.map_eq_ok.mp read
    cases made
    cases mem
  | optionalArgs =>
    obtain ⟨args, all, made⟩ := Except.map_eq_ok.mp read
    cases made
    cases r with
    | null =>
      cases all
      cases mem
    | object members stop =>
      obtain ⟨args, given, made⟩ := Except.bind_eq_ok.mp all
      cases made
      -- arguments hold nodes only under their types, and there need not be any
      rcases exists_argMembers given with untyped | ⟨before, s, after, rfl, types⟩
      · change part ∈ args.types.map Prod.snd at mem
        rw [untyped] at mem
        cases mem
      · obtain ⟨F, s, inside, rfl, here⟩ := exists_typeFields types mem
        exact ⟨_, s, .argument inside before after stop, rfl, here⟩
    | array items =>
      obtain ⟨args, given, made⟩ := Except.bind_eq_ok.mp all
      cases made
      rcases exists_argItems given with untyped | ⟨tag, params, s, after, rfl, types⟩
      · change part ∈ args.types.map Prod.snd at mem
        rw [untyped] at mem
        cases mem
      · obtain ⟨F, s, inside, rfl, here⟩ := exists_typeFields types mem
        exact ⟨_, s, .argumentItem inside tag params after, rfl, here⟩
    | _ => cases all

/-- What is gathered of a node is read off a declared member. -/
theorem exists_nodeMembers {declared : List MemberDecl} {members : List (String × Reading)}
    {parts result : Part.Parts} (read : nodeMembers declared members parts = .ok result)
    {entry : String × Part} (mem : entry ∈ result) :
    entry ∈ parts ∨ ∃ decl ∈ declared, ∃ before s after,
      members = before ++ (decl.name, s) :: after ∧ decl.name ≠ "tag" ∧
        s.asPart decl.kind = .ok entry.2 := by
  induction members generalizing parts with
  | nil =>
    cases read
    exact .inl mem
  | cons member rest ih =>
    obtain ⟨name, member⟩ := member
    have read := nodeMembers_cons.mp read
    by_cases isTag : name = "tag"
    · rw [if_pos isTag] at read
      rcases ih read with old | ⟨decl, known, before, s, after, rfl, here⟩
      · exact .inl old
      · exact .inr ⟨decl, known, (name, member) :: before, s, after, rfl, here⟩
    · rw [if_neg isTag] at read
      obtain ⟨decl, part, found, _, here, read⟩ := read
      rcases ih read with old | ⟨decl, known, before, s, after, rfl, here⟩
      · rcases List.mem_append.mp old with old | new
        · exact .inl old
        · cases List.mem_singleton.mp new
          have named := List.find?_some found
          cases beq_iff_eq.mp named
          exact .inr ⟨decl, List.mem_of_find?_eq_some found, [], member, rest, rfl, isTag, here⟩
      · exact .inr ⟨decl, known, (name, member) :: before, s, after, rfl, here⟩

theorem exists_nodeItems {tag : NodeTag} {count : Nat} {decls : List MemberDecl}
    {items : List Reading} {parts : Part.Parts}
    (read : nodeItems tag count decls items = .ok parts) {entry : String × Part}
    (mem : entry ∈ parts) :
    ∃ before s after decl, items = before ++ s :: after ∧ decls[before.length]? = some decl ∧
      s.asPart decl.kind = .ok entry.2 := by
  induction items generalizing count decls parts with
  | nil =>
    cases decls with
    | nil =>
      cases read
      cases mem
    | cons decl decls =>
      unfold nodeItems at read
      split at read
      · cases read
      · cases read
        cases mem
  | cons item items ih =>
    cases decls with
    | nil => cases read
    | cons decl decls =>
      obtain ⟨part, here, more⟩ := Except.bind_eq_ok.mp read
      obtain ⟨parts, rest, made⟩ := Except.bind_eq_ok.mp more
      cases made
      rcases List.mem_cons.mp mem with rfl | mem
      · exact ⟨[], item, items, decl, rfl, rfl, here⟩
      · obtain ⟨before, s, after, other, rfl, known, here⟩ := ih rest mem
        exact ⟨item :: before, s, after, other, rfl, known, here⟩

/-- A tag that is given once is among the members. -/
theorem exists_tag {tag : NodeTag} {members : List (String × Reading)}
    (once : (Fields.keys members).count "tag" = 1)
    (reads : ∀ r, ("tag", r) ∈ members → nodeTag standing r = .ok tag) :
    ∃ t, ("tag", t) ∈ members ∧ nodeTag standing t = .ok tag := by
  have named : "tag" ∈ Fields.keys members := List.count_pos_iff.mp (by omega)
  obtain ⟨⟨_, t⟩, given, rfl⟩ := List.mem_map.mp named
  exact ⟨t, given, reads t given⟩

/-- The nodes in a node have places in it. -/
theorem exists_inNode (read : r.node standing = .ok n) (mem : part ∈ n.parts) :
    ∃ F s, InNode standing F ∧ r = F s ∧ s.node .inner = .ok part := by
  cases r with
  | object members stop =>
    obtain ⟨_, tag, parts, isTag, gathered, made⟩ := node_object_eq_ok.mp read
    obtain ⟨entry, among, mem⟩ := Part.exists_of_mem_parts made mem
    by_cases plain : tag.members.isEmpty
    · rw [if_pos plain] at gathered
      cases gathered
      cases among
    · rw [if_neg plain] at gathered
      obtain ⟨decl, declared, before, s, after, rfl, other, member⟩ :=
        (exists_nodeMembers gathered among).resolve_left List.not_mem_nil
      obtain ⟨F, s, inside, rfl, here⟩ := exists_inMember member mem
      obtain ⟨reads, once, _⟩ := findTag_none.mp isTag
      obtain ⟨t, given, spelled⟩ := exists_tag once reads
      refine ⟨_, s, .member declared inside before after stop ⟨t, ?_, spelled⟩, rfl, here⟩
      have apart : ("tag", t) ≠ (decl.name, F s) := fun same => other (congrArg Prod.fst same).symm
      exact (List.mem_cons.mp (List.perm_middle.mem_iff.mp given)).resolve_left apart
  | array items =>
    obtain ⟨first, items, tag, parts, rfl, tagged, _, gathered, made⟩ := node_array_eq_ok.mp read
    obtain ⟨entry, among, mem⟩ := Part.exists_of_mem_parts made mem
    obtain ⟨before, s, after, decl, rfl, declared, member⟩ := exists_nodeItems gathered among
    obtain ⟨F, s, inside, rfl, here⟩ := exists_inMember member mem
    exact ⟨_, s, .item first before after tagged declared inside, rfl, here⟩
  | _ => cases read

/-- By induction from the outside: each node on the way is read at its place in the one before. -/
theorem exists_place {m : Node} (within : m.Within n) :
    ∀ {r : Reading} {standing : Standing}, r.node standing = .ok n →
      ∃ hole C s, Place standing hole C ∧ r = C s ∧ s.node hole = .ok m := by
  induction within using Relation.ReflTransGen.head_induction_on with
  | refl => exact fun read => ⟨_, id, _, .here, rfl, read⟩
  | head directly _ ih =>
    intro r standing read
    obtain ⟨F, _, outer, rfl, between⟩ := exists_inNode read directly
    obtain ⟨hole, C, s, inner, rfl, here⟩ := ih between
    exact ⟨hole, _, s, .inside outer inner, rfl, here⟩

/-- Every node of a document that is read has a place in its reading. -/
theorem exists_inDocument {d : Document} (read : r.document = .ok d) {name : String} {m n : Node}
    (declared : (name, n) ∈ d) (within : m.Within n) :
    ∃ hole C s, InDocument hole C ∧ r = C s ∧ s.node hole = .ok m := by
  cases r with
  | object members stop =>
    obtain ⟨rfl, ns, each, rfl⟩ := document_object_eq_ok.mp read
    obtain ⟨⟨_, s⟩, given, rfl, whole⟩ := each.exists_of_mem_right (Fields.mem_ofPairs declared)
    obtain ⟨before, after, rfl⟩ := List.append_of_mem given
    obtain ⟨hole, C, s, place, rfl, here⟩ := exists_place within whole
    exact ⟨hole, _, s, .declared place _ before after none, rfl, here⟩
  | _ => cases read

end Reading

end Specimen
