import Specimen.Document.Writer
import Specimen.Proofs.Document.Tidy

/-!
# Writing documents and reading them again

A document that is written and read again is the document it was, in all its orders
(`writing_is_normal_form`). It has to be tidy for that, as whatever has been read is; so writing what
has been read says the same in one form, however it was said before.

By induction on nodes: the tag comes first and is found, and each member that is written is read as
the part it was (`node_json`). Names of declarations and fields may be any, those of the format
included, since these are looked for one level further out.
-/

namespace Specimen

namespace Json

open Reading (settle)

mutual

/-- What a value says has a value again, which is the same one if it is tidy. -/
theorem settle_reading : ∀ j : Json,
    ∃ v, j.reading.settle = .ok v ∧ (j.isTidy = true → v = j)
  | .null => ⟨_, rfl, fun _ => rfl⟩
  | .bool _ => ⟨_, rfl, fun _ => rfl⟩
  | .number _ => ⟨_, rfl, fun _ => rfl⟩
  | .string _ => ⟨_, rfl, fun _ => rfl⟩
  | .array items => by
    obtain ⟨vs, each, same⟩ := settle_readingItems items
    refine ⟨_, Reading.settle_array_eq_ok.mpr ⟨vs, each, rfl⟩, fun tidy => ?_⟩
    rw [same (isTidy_array.mp tidy)]
  | .object members => by
    obtain ⟨vs, each, same⟩ := settle_readingMembers members
    refine ⟨_, Reading.settle_object_eq_ok.mpr ⟨rfl, vs, each, rfl⟩, fun tidy => ?_⟩
    obtain ⟨nodup, tidy⟩ := isTidy_object.mp tidy
    rw [same tidy, Fields.ofPairs_of_nodup nodup]

/-- What was written of items settles, and to the same items if they were tidy. -/
theorem settle_readingItems : ∀ items : List Json, ∃ vs,
    List.Forall₂ (fun r j => settle r = .ok j) (readingItems items) vs ∧
      ((∀ item ∈ items, item.isTidy = true) → vs = items)
  | [] => ⟨[], .nil, fun _ => rfl⟩
  | item :: rest => by
    obtain ⟨v, here, same⟩ := settle_reading item
    obtain ⟨vs, there, sameRest⟩ := settle_readingItems rest
    refine ⟨v :: vs, .cons here there, fun tidy => ?_⟩
    obtain ⟨head, tail⟩ := List.forall_mem_cons.mp tidy
    rw [same head, sameRest tail]

/-- The same of members. -/
theorem settle_readingMembers : ∀ members : List (String × Json), ∃ vs,
    Fields.Alike (fun r j => settle r = .ok j) (readingMembers members) vs ∧
      ((∀ member ∈ members, member.2.isTidy = true) → vs = members)
  | [] => ⟨[], .nil, fun _ => rfl⟩
  | (name, member) :: rest => by
    obtain ⟨v, here, same⟩ := settle_reading member
    obtain ⟨vs, there, sameRest⟩ := settle_readingMembers rest
    refine ⟨(name, v) :: vs, .cons ⟨rfl, here⟩ there, fun tidy => ?_⟩
    obtain ⟨head, tail⟩ := List.forall_mem_cons.mp tidy
    rw [same head, sameRest tail]

end

/-- A tidy value is read back as it was written. One with a repeated name would lose a member. -/
theorem settle_reading_of_isTidy {j : Json} (tidy : j.isTidy = true) : j.reading.settle = .ok j := by
  obtain ⟨v, settled, same⟩ := settle_reading j
  rwa [same tidy] at settled

/-- Params come back as they were. -/
theorem asJsonFields_reading {params : List (String × Json)}
    (tidy : (object params).isTidy = true) : (object params).reading.asJsonFields = .ok params := by
  obtain ⟨nodup, tidy⟩ := isTidy_object.mp tidy
  obtain ⟨vs, each, same⟩ := settle_readingMembers params
  rw [same tidy] at each
  exact Reading.asJsonFields_object_eq_ok.mpr ⟨params, each, (Fields.ofPairs_of_nodup nodup).symm⟩

end Json

/-! ## Nodes -/

/-- A tag is found under its own name. -/
theorem NodeTag.ofName?_name (tag : NodeTag) : ofName? tag.name = some tag := by
  cases tag <;> rfl

namespace Reading

theorem nodeTag_name (standing : Standing) (tag : NodeTag) :
    nodeTag standing (.string tag.name) = .ok tag := by
  simp only [nodeTag, NodeTag.ofName?_name]

/-- A written member, and the part that it is read as. -/
inductive Says (declared : List MemberDecl) : String × Json → String × Part → Prop
  | intro {name : String} {j : Json} {decl : MemberDecl} {part : Part}
    (known : declared.find? (fun decl => decl.name == name) = some decl)
    (read : j.reading.asPart decl.kind = .ok part) : Says declared (name, j) (name, part)

/-- Declared members of different names are gathered as the parts that they say. -/
theorem nodeMembers_of_written {declared : List MemberDecl} {members : List (String × Json)}
    {given : Part.Parts} (each : List.Forall₂ (Says declared) members given) :
    ∀ {parts : Part.Parts}, (Fields.keys members).Nodup → "tag" ∉ Fields.keys members →
      (∀ name ∈ Fields.keys members, Fields.has parts name = false) →
        nodeMembers declared (Json.readingMembers members) parts = .ok (parts ++ given) := by
  induction each with
  | nil =>
    intro parts _ _ _
    rw [List.append_nil]
    rfl
  | cons head _ ih =>
    intro parts nodup untagged fresh
    cases head with
    | @intro name j decl part known read =>
      obtain ⟨new, nodup⟩ := List.nodup_cons.mp nodup
      obtain ⟨other, untagged⟩ := not_or.mp (mt List.mem_cons.mpr untagged)
      obtain ⟨here, fresh⟩ := List.forall_mem_cons.mp fresh
      refine nodeMembers_cons.mpr ((if_neg (Ne.symm other)).mpr ⟨decl, part, known, here, read, ?_⟩)
      rw [ih nodup untagged, List.append_assoc, List.singleton_append]
      intro later mem
      have apart : name ≠ later := fun same => new (same ▸ mem)
      simp [Fields.has_concat, fresh later mem, apart]

/-- A tagged object is the node that its members make. -/
theorem node_tagged {standing : Standing} {tag : NodeTag} {members : List (String × Json)}
    {parts : Part.Parts} {n : Node} (names : ("tag" :: Fields.keys members).Nodup)
    (each : List.Forall₂ (Says tag.members) members parts)
    (made : Part.assemble parts tag = .ok n) :
    (Node.tagged tag members).reading.node standing = .ok n := by
  obtain ⟨untagged, nodup⟩ := List.nodup_cons.mp names
  have same : Fields.keys (Json.readingMembers members) = Fields.keys members := by
    rw [Json.readingMembers_eq, Fields.keys, List.map_map]
    rfl
  have settles : ∀ member ∈ Json.readingMembers members, ∃ j, member.2.settle = .ok j := by
    rw [Json.readingMembers_eq, List.forall_mem_map]
    intro member _
    obtain ⟨j, settled, _⟩ := Json.settle_reading member.2
    exact ⟨j, settled⟩
  refine node_object_eq_ok.mpr ⟨rfl, tag, parts, findTag_cons_tag.mpr ⟨rfl, tag, ?_, ?_⟩, ?_, made⟩
  · exact nodeTag_name standing tag
  · exact findTag_some.mpr ⟨rfl, same ▸ untagged, settles⟩
  · by_cases plain : tag.members.isEmpty
    · rw [if_pos plain]
      rw [List.isEmpty_iff.mp plain] at each
      cases each with
      | nil => rfl
      | cons head _ => cases head with | intro known _ => cases known
    · rw [if_neg plain]
      exact nodeMembers_cons.mpr (nodeMembers_of_written each nodup untagged fun _ _ => rfl)

/-! ### Parts -/

section Parts

variable {r : Reading}

theorem asPart_node {n : Node} (read : r.node .inner = .ok n) :
    r.asPart .node = .ok (.node n) :=
  Except.map_eq_ok.mpr ⟨n, read, rfl⟩

/-- From here on one law for each kind of member: what was written of it is read as it. -/
theorem asPart_nodes {items : List Reading} {ns : List Node}
    (each : List.Forall₂ (fun r n => ∀ standing, r.node standing = .ok n) items ns) :
    (array items).asPart .nodes = .ok (.nodes ns) :=
  Except.map_eq_ok.mpr ⟨ns, nodeList_eq_ok.mpr (each.imp fun _ _ read => read .inner), rfl⟩

/-- Fields come back in their order if none is named twice. -/
theorem typeFields_of_alike {members : List (String × Reading)} {stop : Option Fault}
    {fields : List (String × Node)} (nodup : (Fields.keys fields).Nodup)
    (each : Fields.Alike (fun r n => ∀ standing, r.node standing = .ok n) members fields) :
    (object members stop).typeFields = .ok fields := by
  have read : nodeFields members = .ok fields :=
    nodeFields_eq_ok.mpr (each.imp fun _ _ same => ⟨same.1, same.2 .inner⟩)
  exact Except.bind_eq_ok.mpr ⟨fields, read, congrArg Except.ok (Fields.ofPairs_of_nodup nodup)⟩

theorem asPart_namedNodes {fields : List (String × Node)} (read : r.typeFields = .ok fields) :
    r.asPart .namedNodes = .ok (.namedNodes fields) :=
  Except.map_eq_ok.mpr ⟨fields, read, rfl⟩

theorem asPart_json {j : Json} (tidy : j.isTidy = true) :
    j.reading.asPart .json = .ok (.json j) :=
  Except.map_eq_ok.mpr
    ⟨j, Except.mapError_eq_ok.mpr (Json.settle_reading_of_isTidy tidy), rfl⟩

/-- Arguments are written with all three members, and read whichever are there. -/
theorem asPart_args {tag : String} {params : List (String × Json)} {types : Reading}
    {nodes : List (String × Node)} (tidy : (Json.object params).isTidy = true)
    (read : types.typeFields = .ok nodes) :
    (object [("tag", .string tag), ("params", (Json.object params).reading), ("types", types)]
      none).asPart .optionalArgs = .ok (.optionalArgs (some ⟨tag, params, nodes⟩)) := by
  refine Except.map_eq_ok.mpr ⟨_, Except.bind_eq_ok.mpr ⟨⟨tag, params, nodes⟩, ?_, rfl⟩, rfl⟩
  refine argMembers_cons.mpr (.inl ⟨rfl, rfl, tag, rfl, ?_⟩)
  refine argMembers_cons.mpr (.inr (.inl ⟨rfl, rfl, params, Json.asJsonFields_reading tidy, ?_⟩))
  exact argMembers_cons.mpr (.inr (.inr ⟨rfl, rfl, nodes, read, rfl⟩))

end Parts

/-! ### All nodes -/

mutual

/-- A node that is written is read as itself, wherever it stands. -/
theorem node_json : ∀ (n : Node), n.isTidy = true → ∀ standing,
    n.json.reading.node standing = .ok n
  | .always, _, _ | .boolean, _, _ | .number, _, _ | .string, _, _ | .void, _, _
  | .function, _, _ => node_tagged (List.nodup_singleton _) .nil rfl
  | .literal value, tidy, _ =>
    node_tagged (by simp [Fields.keys]) (.cons (.intro rfl (asPart_json tidy)) .nil) rfl
  | .array element, tidy, _ =>
    node_tagged (by simp [Fields.keys])
      (.cons (.intro rfl (asPart_node (node_json element tidy _))) .nil) rfl
  | .tuple components, tidy, _ =>
    node_tagged (by simp [Fields.keys])
      (.cons (.intro rfl (asPart_nodes (nodes_json components tidy))) .nil) rfl
  | .dictionary value, tidy, _ =>
    node_tagged (by simp [Fields.keys])
      (.cons (.intro rfl (asPart_node (node_json value tidy _))) .nil) rfl
  | .record fields, tidy, _ =>
    node_tagged (by simp [Fields.keys])
      (.cons (.intro rfl (asPart_namedNodes (fields_json fields tidy))) .nil) rfl
  | .partialRecord fields, tidy, _ =>
    node_tagged (by simp [Fields.keys])
      (.cons (.intro rfl (asPart_namedNodes (fields_json fields tidy))) .nil) rfl
  | .union alternatives, tidy, _ =>
    node_tagged (by simp [Fields.keys])
      (.cons (.intro rfl (asPart_nodes (nodes_json alternatives tidy))) .nil) rfl
  | .intersect intersectees, tidy, _ =>
    node_tagged (by simp [Fields.keys])
      (.cons (.intro rfl (asPart_nodes (nodes_json intersectees tidy))) .nil) rfl
  | .constraint underlying _ none none, tidy, _ =>
    node_tagged (by simp [Fields.keys])
      (.cons (.intro rfl (asPart_node (node_json underlying tidy _))) <|
        .cons (.intro rfl rfl) .nil) rfl
  | .constraint underlying _ (some _) none, tidy, _ =>
    node_tagged (by simp [Fields.keys])
      (.cons (.intro rfl (asPart_node (node_json underlying tidy _))) <|
        .cons (.intro rfl rfl) <| .cons (.intro rfl rfl) .nil) rfl
  | .constraint underlying _ none (some ⟨_, _, types⟩), tidy, _ => by
    obtain ⟨inner, tidy⟩ := (Bool.and_eq_true _ _).mp tidy
    obtain ⟨ofParams, ofTypes⟩ := (Bool.and_eq_true _ _).mp tidy
    exact node_tagged (by simp [Fields.keys])
      (.cons (.intro rfl (asPart_node (node_json underlying inner _))) <|
        .cons (.intro rfl rfl) <|
        .cons (.intro rfl (asPart_args ofParams (fields_json types ofTypes))) .nil) rfl
  | .constraint underlying _ (some _) (some ⟨_, _, types⟩), tidy, _ => by
    obtain ⟨inner, tidy⟩ := (Bool.and_eq_true _ _).mp tidy
    obtain ⟨ofParams, ofTypes⟩ := (Bool.and_eq_true _ _).mp tidy
    exact node_tagged (by simp [Fields.keys])
      (.cons (.intro rfl (asPart_node (node_json underlying inner _))) <|
        .cons (.intro rfl rfl) <| .cons (.intro rfl rfl) <|
        .cons (.intro rfl (asPart_args ofParams (fields_json types ofTypes))) .nil) rfl
  | .reference _, _, _ =>
    node_tagged (by simp [Fields.keys]) (.cons (.intro rfl rfl) .nil) rfl
  | .extension _ _ _, tidy, _ =>
    node_tagged (by simp [Fields.keys])
      (.cons (.intro rfl rfl) <| .cons (.intro rfl rfl) <|
        .cons (.intro rfl (asPart_json tidy)) .nil) rfl

/-- The induction goes through the nodes of a list. -/
theorem nodes_json : ∀ ns : List Node, Node.areTidy ns = true →
    List.Forall₂ (fun r n => ∀ standing, node standing r = .ok n)
      (Json.readingItems (Node.jsonAll ns)) ns
  | [], _ => .nil
  | n :: rest, tidy => by
    obtain ⟨head, tail⟩ := (Bool.and_eq_true _ _).mp tidy
    exact .cons (node_json n head) (nodes_json rest tail)

/-- Through named nodes. -/
theorem members_json : ∀ fields : List (String × Node), Node.areTidyFields fields = true →
    Fields.Alike (fun r n => ∀ standing, node standing r = .ok n)
      (Json.readingMembers (Node.jsonFields fields)) fields
  | [], _ => .nil
  | (_, n) :: rest, tidy => by
    obtain ⟨head, tail⟩ := (Bool.and_eq_true _ _).mp tidy
    exact .cons ⟨rfl, node_json n head⟩ (members_json rest tail)

/-- And through fields, whose names must differ. -/
theorem fields_json (fields : List (String × Node)) (tidy : Document.isTidy fields = true) :
    (Json.object (Node.jsonFields fields)).reading.typeFields = .ok fields := by
  obtain ⟨nodup, tidy⟩ := (Bool.and_eq_true _ _).mp tidy
  exact typeFields_of_alike (of_decide_eq_true nodup) (members_json fields tidy)

end

end Reading

/-! ## Documents -/

namespace Document

/-- A tidy document that is written is read as itself. -/
theorem ofJson_json {d : Document} (tidy : d.isTidy = true) : ofJson d.json = .ok d := by
  obtain ⟨nodup, each⟩ := (Bool.and_eq_true _ _).mp tidy
  have read := Reading.members_json d each
  refine Reading.document_object_eq_ok.mpr ⟨rfl, d, ?_, ?_⟩
  · exact read.imp fun _ _ same => ⟨same.1, same.2 .declared⟩
  · exact (Fields.ofPairs_of_nodup (of_decide_eq_true nodup)).symm

/-- A document that is loaded is tidy, whichever way it was. -/
theorem isTidy_of_load {text : String} {pointer : Option String} {d : Document}
    (loaded : load text pointer = .ok d) : d.isTidy = true := by
  unfold load at loaded
  split at loaded
  case h_1 => exact isTidy_of_read (Except.mapError_eq_ok.mp loaded)
  case h_2 =>
    split at loaded
    case h_1 => cases loaded
    case h_2 =>
      split at loaded
      case h_1 => cases loaded
      case h_2 => exact isTidy_of_read (Except.mapError_eq_ok.mp loaded)

/-- Every document in which each name is given once is, when written and read again, the document it
was, with the order of declarations, fields, alternatives, components and members; and every document
that is read or loaded is such a one. So writing what was read is a normal form: it says the same
document again. -/
theorem writing_is_normal_form :
    (∀ d : Document, d.isTidy = true → ofJson d.json = .ok d) ∧
    (∀ (j : Json) (d : Document), ofJson j = .ok d →
      d.isTidy = true ∧ ofJson d.json = .ok d) ∧
    (∀ (text : String) (pointer : Option String) (d : Document), load text pointer = .ok d →
      d.isTidy = true ∧ ofJson d.json = .ok d) := by
  refine ⟨fun d tidy => ofJson_json tidy, fun j d read => ?_, fun text pointer d loaded => ?_⟩
  · exact ⟨isTidy_of_read read, ofJson_json (isTidy_of_read read)⟩
  · exact ⟨isTidy_of_load loaded, ofJson_json (isTidy_of_load loaded)⟩

/-- Names of the format as names of declarations, fields, types and parameters. -/
def crossed : Document :=
  [("tag", .record [("tag", .literal .null), ("fields", .reference "tag")]),
    ("args", .constraint .string "." none
      (some ⟨"tag", [("types", .null)], [("tag", .extension "name" "." .null)]⟩))]

/-- A document with a member beside a tag that stands alone, nodes written as sequences, and optional
members left out or null. -/
def loose : Json :=
  .object
    [("b", .object [("note", .null), ("tag", .string "boolean")]),
      ("a", .array [.string "array", .array [.string "number"]]),
      ("c", .object [("tag", .string "constraint"), ("args", .null), ("constraint", .string "."),
        ("underlying", .object [("tag", .string "extension"), ("name", .string "x"),
          ("guard", .string ".")])])]

/-- The one is read as itself, and so is what the other says, in order. -/
theorem crossed_and_loose_return :
    ofJson crossed.json = .ok crossed ∧
      ∃ d, ofJson loose = .ok d ∧ Fields.keys d = ["b", "a", "c"] ∧ ofJson d.json = .ok d := by
  have read : ofJson loose = .ok [("b", .boolean), ("a", .array .number),
      ("c", .constraint (.extension "x" "." .null) "." none none)] := rfl
  exact ⟨writing_is_normal_form.1 crossed rfl, _, read, rfl,
    (writing_is_normal_form.2.1 loose _ read).2⟩

end Document

end Specimen
