import Mathlib.Data.List.Nodup
import Specimen.Document.Reader
import Specimen.Proofs.Json.Reading

/-!
# Laws of reading documents

What a node is that has been read, member by member: each law says when one of the decoders answers,
and of what its answer is made. None of them says anything of complaints.

A node has one tag and names each of its members once (`nodup_of_node`), as do arguments
(`nodup_of_argMembers`), and there is no fault anywhere in it (`settle_of_node`), nor in a document
(`settle_of_document`).
-/

namespace Except

variable {ε ε' α β : Type}

/-- Two parts succeed if the first does and then the second. -/
theorem bind_eq_ok {x : Except ε α} {f : α → Except ε β} {b : β} :
    (x >>= f) = .ok b ↔ ∃ a, x = .ok a ∧ f a = .ok b := by
  cases x with
  | ok a => exact ⟨fun ran => ⟨a, rfl, ran⟩, by rintro ⟨_, ⟨⟩, ran⟩; exact ran⟩
  | error e => exact ⟨nofun, by rintro ⟨_, ⟨⟩, _⟩⟩

theorem map_eq_ok {x : Except ε α} {f : α → β} {b : β} :
    x.map f = .ok b ↔ ∃ a, x = .ok a ∧ f a = b := by
  cases x with
  | ok a => simp [Except.map]
  | error e => simp [Except.map]

/-- Telling of an error in other words changes nothing about success. -/
theorem mapError_eq_ok {x : Except ε α} {f : ε → ε'} {a : α} :
    x.mapError f = .ok a ↔ x = .ok a := by
  cases x with
  | ok a => simp [Except.mapError]
  | error e => simp [Except.mapError]

end Except

namespace Specimen

namespace Reading

/-! ## Nodes that are read -/

section Nodes

variable {standing : Standing} {n : Node} {tag : NodeTag}

/-- Where a tag stands matters to its error only. -/
theorem nodeTagAt_eq_ok {place : Place} {r : Reading} :
    nodeTagAt standing place r = .ok tag ↔ nodeTag standing r = .ok tag := by
  unfold nodeTagAt
  cases nodeTag standing r with
  | ok found => simp
  | error complaint => cases standing <;> simp

/-- What is read as a tag is a text or a number. -/
theorem settle_of_nodeTag {r : Reading} (read : nodeTag standing r = .ok tag) :
    ∃ j, r.settle = .ok j := by
  unfold nodeTag at read
  split at read
  · exact ⟨_, rfl⟩
  · exact ⟨_, rfl⟩
  · cases read

/-- A node written as an object: it ends, has one tag, and the members that the tag asks for.
Members of a tag that asks for none are not looked at. -/
theorem node_object_eq_ok {members : List (String × Reading)} {stop : Option Fault} :
    (object members stop).node standing = .ok n ↔
      stop = none ∧ ∃ tag parts, findTag standing members none = .ok (some tag) ∧
        (if tag.members.isEmpty then pure [] else nodeMembers tag.members members []) = .ok parts ∧
        Part.assemble parts tag = .ok n := by
  -- what follows the choice of parts stands in both of its branches
  have gather : ∀ (plain : Bool) (made : Part.Parts → Except Complaint Node) (gathered),
      (if plain then pure [] >>= made else gathered >>= made) =
        (if plain then pure [] else gathered) >>= made := by
    intro plain made gathered
    cases plain <;> rfl
  unfold node
  rw [Except.bind_eq_ok]
  constructor
  · rintro ⟨found, read, rest⟩
    cases stop with
    | some fault => cases rest
    | none =>
      cases found with
      | none => cases rest
      | some tag =>
        obtain ⟨parts, gathered, made⟩ := Except.bind_eq_ok.mp ((gather _ _ _).symm.trans rest)
        exact ⟨rfl, tag, parts, read, gathered, Except.mapError_eq_ok.mp made⟩
  · rintro ⟨rfl, tag, parts, read, gathered, made⟩
    refine ⟨some tag, read, (gather _ _ _).trans (Except.bind_eq_ok.mpr ⟨parts, gathered, ?_⟩)⟩
    exact Except.mapError_eq_ok.mpr made

/-- A node written as an array: its tag, and then the members in the order of their declaration. -/
theorem node_array_eq_ok {items : List Reading} :
    (array items).node standing = .ok n ↔
      ∃ first rest tag parts, items = first :: rest ∧ nodeTag standing first = .ok tag ∧
        faultAmong rest = none ∧ nodeItems tag 0 tag.members rest = .ok parts ∧
        Part.assemble parts tag = .ok n := by
  cases items with
  | nil => exact ⟨nofun, by rintro ⟨_, _, _, _, ⟨⟩, _⟩⟩
  | cons first rest =>
    unfold node
    rw [Except.bind_eq_ok]
    constructor
    · rintro ⟨tag, read, made⟩
      cases faults : faultAmong rest with
      | some fault =>
        rw [faults] at made
        cases made
      | none =>
        rw [faults] at made
        obtain ⟨parts, gathered, made⟩ := Except.bind_eq_ok.mp made
        exact ⟨first, rest, tag, parts, rfl, nodeTagAt_eq_ok.mp read, faults, gathered,
          Except.mapError_eq_ok.mp made⟩
    · rintro ⟨_, _, tag, parts, ⟨⟩, read, faults, gathered, made⟩
      refine ⟨tag, nodeTagAt_eq_ok.mpr read, ?_⟩
      rw [faults]
      exact Except.bind_eq_ok.mpr ⟨parts, gathered, Except.mapError_eq_ok.mpr made⟩

theorem faultAmong_eq_none {items : List Reading} :
    faultAmong items = none ↔ ∀ item ∈ items, ∃ j, item.settle = .ok j := by
  induction items with
  | nil => simp [faultAmong]
  | cons item rest ih =>
    rw [faultAmong, Option.or_eq_none_iff, fault?_eq_none, ih, List.forall_mem_cons]

/-! ### Tags among members -/

/-- Members that are passed over on the way to a tag, or after it. -/
theorem findTag_cons_of_ne {name : String} {member : Reading} {rest : List (String × Reading)}
    {found result : Option NodeTag} (other : name ≠ "tag") :
    findTag standing ((name, member) :: rest) found = .ok result ↔
      (∃ j, member.settle = .ok j) ∧ findTag standing rest found = .ok result := by
  rw [findTag.eq_def, ← fault?_eq_none]
  simp only [if_neg other]
  cases member.fault? with
  | some fault => simp
  | none => simp

/-- A tag counts once. A second one is an error, not a replacement. -/
theorem findTag_cons_tag {member : Reading} {rest : List (String × Reading)}
    {found result : Option NodeTag} :
    findTag standing (("tag", member) :: rest) found = .ok result ↔
      found = none ∧ ∃ tag, nodeTag standing member = .ok tag ∧
        findTag standing rest (some tag) = .ok result := by
  rw [findTag.eq_def]
  cases found with
  | some _ => exact ⟨nofun, by rintro ⟨⟨⟩, _⟩⟩
  | none =>
    refine Except.bind_eq_ok.trans ?_
    simp only [nodeTagAt_eq_ok, true_and]

/-- A tag that has been found is not given again. -/
theorem findTag_some {members : List (String × Reading)} {result : Option NodeTag} :
    findTag standing members (some tag) = .ok result ↔
      result = some tag ∧ "tag" ∉ Fields.keys members ∧
        ∀ member ∈ members, ∃ j, member.2.settle = .ok j := by
  induction members with
  | nil => simp [findTag, Fields.keys, eq_comm]
  | cons member rest ih =>
    obtain ⟨name, member⟩ := member
    by_cases isTag : name = "tag"
    · subst isTag
      rw [findTag_cons_tag]
      simp [Fields.keys]
    · rw [findTag_cons_of_ne isTag, ih]
      simp only [Fields.keys, List.map_cons, List.mem_cons, Ne.symm isTag, false_or,
        forall_eq_or_imp]
      tauto

/-- The tag that is found stands under its name once, and no member has a fault. -/
theorem findTag_none {members : List (String × Reading)} :
    findTag standing members none = .ok (some tag) ↔
      (∀ r, ("tag", r) ∈ members → nodeTag standing r = .ok tag) ∧
        (Fields.keys members).count "tag" = 1 ∧
        ∀ member ∈ members, ∃ j, member.2.settle = .ok j := by
  induction members with
  | nil => simp [findTag, Fields.keys]
  | cons member rest ih =>
    obtain ⟨name, member⟩ := member
    by_cases isTag : name = "tag"
    · subst isTag
      have once : (Fields.keys (("tag", member) :: rest)).count "tag" = 1 ↔
          "tag" ∉ Fields.keys rest := by
        simp [Fields.keys, List.count_eq_zero]
      simp only [findTag_cons_tag, findTag_some, true_and, once, List.mem_cons, forall_eq_or_imp]
      constructor
      · rintro ⟨_, read, ⟨⟩, fresh, settled⟩
        refine ⟨fun r at_ => ?_, fresh, settle_of_nodeTag read, settled⟩
        rcases at_ with same | mem
        · cases same
          exact read
        · exact absurd (List.mem_map.mpr ⟨_, mem, rfl⟩) fresh
      · rintro ⟨read, fresh, _, settled⟩
        exact ⟨tag, read member (.inl rfl), rfl, fresh, settled⟩
    · rw [findTag_cons_of_ne isTag, ih]
      have skipped : (Fields.keys ((name, member) :: rest)).count "tag" =
          (Fields.keys rest).count "tag" := List.count_cons_of_ne isTag
      have other : ∀ r, ("tag", r) ≠ (name, member) :=
        fun _ same => isTag (congrArg Prod.fst same).symm
      simp only [skipped, List.mem_cons, other, false_or, forall_eq_or_imp]
      tauto

end Nodes

/-! ### Members -/

/-- A member of a node, read as its kind demands. -/
def asPart (kind : MemberKind) (r : Reading) : Except Complaint Part :=
  kind.part r (fun _ => node .inner r) (fun _ => nodeSequence r) (fun _ => typeFields r)
    (fun _ => optionalArgs r)

/-- Members come in any order, each once, and each must be declared for the tag. -/
theorem nodeMembers_cons {declared : List MemberDecl} {name : String} {member : Reading}
    {rest : List (String × Reading)} {parts result : Part.Parts} :
    nodeMembers declared ((name, member) :: rest) parts = .ok result ↔
      if name = "tag" then nodeMembers declared rest parts = .ok result
      else ∃ decl part, declared.find? (fun decl => decl.name == name) = some decl ∧
        Fields.has parts name = false ∧ member.asPart decl.kind = .ok part ∧
        nodeMembers declared rest (parts ++ [(name, part)]) = .ok result := by
  rw [nodeMembers.eq_def]
  by_cases isTag : name = "tag"
  · simp only [if_pos isTag]
  · simp only [if_neg isTag]
    cases declared.find? fun decl => decl.name == name with
    | none => exact ⟨nofun, by rintro ⟨_, _, ⟨⟩, _⟩⟩
    | some decl =>
      cases taken : Fields.has parts name with
      | true => exact ⟨nofun, by rintro ⟨_, _, _, ⟨⟩, _⟩⟩
      | false =>
        refine Except.bind_eq_ok.trans ?_
        constructor
        · rintro ⟨part, read, rest⟩
          exact ⟨decl, part, rfl, rfl, read, rest⟩
        · rintro ⟨_, part, ⟨⟩, _, read, rest⟩
          exact ⟨part, read, rest⟩

/-- No member but the tag is given twice. -/
theorem nodup_of_nodeMembers {declared : List MemberDecl} {members : List (String × Reading)}
    {parts result : Part.Parts} (read : nodeMembers declared members parts = .ok result) :
    ((Fields.keys members).filter (· ≠ "tag")).Nodup ∧
      ∀ name ∈ Fields.keys members, name ≠ "tag" → Fields.has parts name = false := by
  induction members generalizing parts with
  | nil => exact ⟨.nil, nofun⟩
  | cons member rest ih =>
    obtain ⟨name, member⟩ := member
    rw [nodeMembers_cons] at read
    by_cases isTag : name = "tag"
    · rw [if_pos isTag] at read
      obtain ⟨nodup, fresh⟩ := ih read
      simp [Fields.keys, isTag] at nodup fresh ⊢
      exact ⟨nodup, fresh⟩
    · rw [if_neg isTag] at read
      obtain ⟨decl, part, _, free, _, read⟩ := read
      obtain ⟨nodup, fresh⟩ := ih read
      have apart : ∀ other ∈ Fields.keys rest, other ≠ "tag" →
          Fields.has parts other = false ∧ name ≠ other := by
        intro other mem noTag
        simpa [Fields.has_concat] using fresh other mem noTag
      have new : name ∉ Fields.keys rest := fun mem => (apart name mem isTag).2 rfl
      constructor
      · have kept : (Fields.keys ((name, member) :: rest)).filter (· ≠ "tag") =
            name :: (Fields.keys rest).filter (· ≠ "tag") :=
          List.filter_cons_of_pos (by simpa using isTag)
        rw [kept]
        exact List.nodup_cons.mpr ⟨fun mem => new (List.mem_filter.mp mem).1, nodup⟩
      · intro other mem noTag
        rcases List.mem_cons.mp mem with rfl | mem
        · exact free
        · exact (apart other mem noTag).1

/-- A node with members beside its tag gives each member once. -/
theorem nodup_of_node {members : List (String × Reading)} {declared : List MemberDecl}
    {result : Part.Parts} (once : (Fields.keys members).count "tag" = 1)
    (read : nodeMembers declared members [] = .ok result) : (Fields.keys members).Nodup := by
  obtain ⟨nodup, _⟩ := nodup_of_nodeMembers read
  refine List.nodup_iff_count_le_one.mpr fun name => ?_
  by_cases isTag : name = "tag"
  · subst isTag
    exact Nat.le_of_eq once
  · rw [← List.count_filter (p := (· ≠ "tag")) (by simpa using isTag)]
    exact List.nodup_iff_count_le_one.mp nodup name

/-! ### Arguments -/

section Arguments

variable {name : String} {member : Reading} {rest members : List (String × Reading)}
  {tag : Option String} {params : Option (List (String × Json))}
  {types : Option (List (String × Node))} {args : Args Node}

/-- The three members of arguments, each at most once. -/
theorem argMembers_cons :
    argMembers ((name, member) :: rest) tag params types = .ok args ↔
      (name = "tag" ∧ tag = none ∧ ∃ tag, member.asText = .ok tag ∧
        argMembers rest (some tag) params types = .ok args) ∨
      (name = "params" ∧ params = none ∧ ∃ params, member.asJsonFields = .ok params ∧
        argMembers rest tag (some params) types = .ok args) ∨
      (name = "types" ∧ types = none ∧ ∃ types, member.typeFields = .ok types ∧
        argMembers rest tag params (some types) = .ok args) := by
  rw [argMembers.eq_def]
  by_cases isTag : name = "tag"
  · subst isTag
    cases tag with
    | some _ => simp [complain]
    | none => simp [Except.bind_eq_ok]
  · by_cases isParams : name = "params"
    · subst isParams
      cases params with
      | some _ => simp [complain]
      | none => simp [Except.bind_eq_ok]
    · by_cases isTypes : name = "types"
      · subst isTypes
        cases types with
        | some _ => simp [complain]
        | none => simp [Except.bind_eq_ok]
      · simp [complain, isTag, isParams, isTypes]

/-- No member of arguments is given twice. -/
theorem nodup_of_argMembers (read : argMembers members tag params types = .ok args) :
    (Fields.keys members).Nodup ∧ (tag ≠ none → "tag" ∉ Fields.keys members) ∧
      (params ≠ none → "params" ∉ Fields.keys members) ∧
      (types ≠ none → "types" ∉ Fields.keys members) := by
  induction members generalizing tag params types with
  | nil => simp [Fields.keys]
  | cons member rest ih =>
    obtain ⟨name, member⟩ := member
    rw [argMembers_cons] at read
    rcases read with ⟨rfl, rfl, _, _, read⟩ | ⟨rfl, rfl, _, _, read⟩ | ⟨rfl, rfl, _, _, read⟩
    all_goals
      obtain ⟨nodup, noTag, noParams, noTypes⟩ := ih read
      simp only [Fields.keys, List.map_cons, List.nodup_cons, List.mem_cons] at *
      simp_all

end Arguments

/-! ### Lists -/

/-- Several nodes are read one by one. -/
theorem nodeList_eq_ok {items : List Reading} {ns : List Node} :
    nodeList items = .ok ns ↔ List.Forall₂ (fun r n => r.node .inner = .ok n) items ns := by
  induction items generalizing ns with
  | nil => cases ns <;> simp [nodeList]
  | cons item rest ih =>
    rw [nodeList, Except.bind_eq_ok]
    constructor
    · rintro ⟨n, here, more⟩
      obtain ⟨ns, there, made⟩ := Except.bind_eq_ok.mp more
      cases made
      exact .cons here (ih.mp there)
    · rintro (_ | ⟨here, there⟩)
      exact ⟨_, here, Except.bind_eq_ok.mpr ⟨_, ih.mpr there, rfl⟩⟩

/-- Named nodes are read one by one, and keep their names in order. -/
theorem nodeFields_eq_ok {members : List (String × Reading)} {ns : List (String × Node)} :
    nodeFields members = .ok ns ↔ Fields.Alike (fun r n => r.node .inner = .ok n) members ns := by
  induction members generalizing ns with
  | nil => cases ns <;> simp [nodeFields, Fields.Alike]
  | cons member rest ih =>
    obtain ⟨name, member⟩ := member
    rw [nodeFields, Except.bind_eq_ok]
    constructor
    · rintro ⟨n, here, more⟩
      obtain ⟨ns, there, made⟩ := Except.bind_eq_ok.mp more
      cases made
      exact .cons ⟨rfl, here⟩ (ih.mp there)
    · rintro (_ | @⟨_, entry, _, _, head, there⟩)
      obtain ⟨name', n⟩ := entry
      obtain ⟨rfl, here⟩ := head
      exact ⟨_, here, Except.bind_eq_ok.mpr ⟨_, ih.mpr there, rfl⟩⟩

/-- Params are any members that settle; it does not matter whether the object was closed. -/
theorem asJsonFields_object_eq_ok {members : List (String × Reading)} {stop : Option Fault}
    {fields : List (String × Json)} :
    (object members stop).asJsonFields = .ok fields ↔
      ∃ js, Fields.Alike (fun r j => r.settle = .ok j) members js ∧ fields = Fields.ofPairs js := by
  simp only [← settleMembers_eq_ok, asJsonFields]
  cases settleMembers members with
  | ok js => simp [eq_comm]
  | error fault => simp

/-! ### Declarations -/

/-- Declarations are put one after the other, so that a repeated name is declared as it was last. -/
theorem declarations_eq_ok {members : List (String × Reading)} {done d : Document} :
    declarations members done = .ok d ↔
      ∃ ns, Fields.Alike (fun r n => r.node .declared = .ok n) members ns ∧
        d = ns.foldl (fun fields (k, n) => Fields.put fields k n) done := by
  induction members generalizing done with
  | nil =>
    simp [declarations, Fields.Alike, eq_comm]
  | cons member rest ih =>
    obtain ⟨name, member⟩ := member
    constructor
    · intro read
      unfold declarations at read
      split at read
      case h_1 => cases read
      case h_2 n here =>
        obtain ⟨ns, there, rfl⟩ := ih.mp read
        exact ⟨(name, n) :: ns, .cons ⟨rfl, here⟩ there, rfl⟩
    · rintro ⟨_, _ | @⟨_, entry, _, ns, head, there⟩, rfl⟩
      obtain ⟨name', n⟩ := entry
      obtain ⟨rfl, here⟩ := head
      rw [declarations, here]
      exact ih.mpr ⟨ns, there, rfl⟩

/-- A document is an object that ends and whose members are declarations. -/
theorem document_object_eq_ok {members : List (String × Reading)} {stop : Option Fault}
    {d : Document} :
    (object members stop).document = .ok d ↔
      stop = none ∧ ∃ ns, Fields.Alike (fun r n => r.node .declared = .ok n) members ns ∧
        d = Fields.ofPairs ns := by
  refine Except.bind_eq_ok.trans ?_
  simp only [declarations_eq_ok]
  cases stop with
  | none =>
    constructor
    · rintro ⟨_, ⟨ns, each, rfl⟩, made⟩
      cases made
      exact ⟨rfl, ns, each, rfl⟩
    · rintro ⟨_, ns, each, rfl⟩
      exact ⟨_, ⟨ns, each, rfl⟩, rfl⟩
  | some fault => simp

/-! ### Whole texts -/

/-- A node that is read is the whole of its text. -/
theorem settle_of_node {standing : Standing} {r : Reading} {n : Node}
    (read : r.node standing = .ok n) : ∃ j, r.settle = .ok j := by
  cases r with
  | array items =>
    obtain ⟨first, rest, tag, _, rfl, isTag, whole, _⟩ := node_array_eq_ok.mp read
    refine array_settles (List.forall_mem_cons.mpr ⟨settle_of_nodeTag isTag, ?_⟩)
    exact faultAmong_eq_none.mp whole
  | object members stop =>
    obtain ⟨rfl, tag, _, isTag, _⟩ := node_object_eq_ok.mp read
    exact object_settles (findTag_none.mp isTag).2.2
  | _ => cases read

/-- A document that is read is the whole of its text. -/
theorem settle_of_document {r : Reading} {d : Document} (read : r.document = .ok d) :
    ∃ j, r.settle = .ok j := by
  cases r with
  | object members stop =>
    obtain ⟨rfl, ns, each, _⟩ := document_object_eq_ok.mp read
    refine object_settles fun member mem => ?_
    obtain ⟨_, _, _, read⟩ := each.exists_of_mem_left mem
    exact settle_of_node read
  | _ => cases read

end Reading

end Specimen
