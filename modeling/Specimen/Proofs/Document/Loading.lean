import Specimen.Proofs.Document.Reading

/-!
# Two ways of loading a document

A document is read off the text directly, or off the JSON value of the text. What is read directly is
read off the value as well (`readsAs_of_settle`): of members named twice, the value has the last only,
but a node that names one twice is not read in the first place. The converse holds where every object
names each member once.

So the two ways agree on texts that are one such value. They disagree on what follows a value, which
is ignored by the direct way and refused by the other (`load_agree`).
-/

namespace Specimen

namespace Reading

/-! ## Reading the value instead -/

/-- Whatever can be made of `r` is made of `s` as well. The decoders call each other, so one relation
speaks of them all; of complaints it says nothing, for these depend on which member comes first. -/
structure ReadsAs (r s : Reading) : Prop where
  settle : ∀ {j}, r.settle = .ok j → s.settle = .ok j
  text : ∀ {t}, r.asText = .ok t → s.asText = .ok t
  optionalText : ∀ {t}, r.asOptionalText = .ok t → s.asOptionalText = .ok t
  jsonFields : ∀ {js}, r.asJsonFields = .ok js → s.asJsonFields = .ok js
  tag : ∀ {standing tag}, nodeTag standing r = .ok tag → nodeTag standing s = .ok tag
  node : ∀ {standing n}, r.node standing = .ok n → s.node standing = .ok n
  nodes : ∀ {ns}, r.nodeSequence = .ok ns → s.nodeSequence = .ok ns
  namedNodes : ∀ {ns}, r.typeFields = .ok ns → s.typeFields = .ok ns
  args : ∀ {args}, r.optionalArgs = .ok args → s.optionalArgs = .ok args
  document : ∀ {d}, r.document = .ok d → s.document = .ok d

namespace ReadsAs

theorem refl (r : Reading) : ReadsAs r r := ⟨id, id, id, id, id, id, id, id, id, id⟩

/-- A member of any kind is read by the decoder of its kind, so one law serves them all. -/
theorem part {r s : Reading} {kind : MemberKind} {part : Part} (same : ReadsAs r s)
    (read : r.asPart kind = .ok part) : s.asPart kind = .ok part := by
  cases kind with
  | node =>
    obtain ⟨n, read, made⟩ := Except.map_eq_ok.mp read
    exact Except.map_eq_ok.mpr ⟨n, same.node read, made⟩
  | nodes =>
    obtain ⟨ns, read, made⟩ := Except.map_eq_ok.mp read
    exact Except.map_eq_ok.mpr ⟨ns, same.nodes read, made⟩
  | namedNodes =>
    obtain ⟨ns, read, made⟩ := Except.map_eq_ok.mp read
    exact Except.map_eq_ok.mpr ⟨ns, same.namedNodes read, made⟩
  | text =>
    obtain ⟨t, read, made⟩ := Except.map_eq_ok.mp read
    exact Except.map_eq_ok.mpr ⟨t, same.text read, made⟩
  | optionalText =>
    obtain ⟨t, read, made⟩ := Except.map_eq_ok.mp read
    exact Except.map_eq_ok.mpr ⟨t, same.optionalText read, made⟩
  | json =>
    obtain ⟨j, read, made⟩ := Except.map_eq_ok.mp read
    refine Except.map_eq_ok.mpr ⟨j, ?_, made⟩
    exact Except.mapError_eq_ok.mpr (same.settle (Except.mapError_eq_ok.mp read))
  | optionalArgs =>
    obtain ⟨args, read, made⟩ := Except.map_eq_ok.mp read
    exact Except.map_eq_ok.mpr ⟨args, same.args read, made⟩

end ReadsAs

/-! ### Lists -/

section Items

variable {items items' : List Reading}

/-- If the items of a list can be read as others can, so can the list. The laws that follow say the
same of everything that is read item by item or member by member. -/
theorem nodeList_readsAs {ns : List Node} (same : List.Forall₂ ReadsAs items items')
    (read : nodeList items = .ok ns) : nodeList items' = .ok ns := by
  refine nodeList_eq_ok.mpr ((same.flip.comp (nodeList_eq_ok.mp read)).imp ?_)
  rintro s n ⟨r, same, read⟩
  exact same.node read

theorem nodeItems_readsAs {tag : NodeTag} {count : Nat} {decls : List MemberDecl}
    {parts : Part.Parts} (same : List.Forall₂ ReadsAs items items')
    (read : nodeItems tag count decls items = .ok parts) :
    nodeItems tag count decls items' = .ok parts := by
  induction same generalizing count decls parts with
  | nil => exact read
  | cons head _ ih =>
    cases decls with
    | nil => cases read
    | cons decl decls =>
      obtain ⟨part, here, rest⟩ := Except.bind_eq_ok.mp read
      obtain ⟨parts, there, made⟩ := Except.bind_eq_ok.mp rest
      refine Except.bind_eq_ok.mpr ⟨part, head.part here, ?_⟩
      exact Except.bind_eq_ok.mpr ⟨parts, ih there, made⟩

theorem argItems_readsAs {args : Args Node} (same : List.Forall₂ ReadsAs items items')
    (read : argItems items = .ok args) : argItems items' = .ok args := by
  cases same with
  | nil => exact read
  | cons tag same =>
    cases same with
    | nil =>
      obtain ⟨t, here, made⟩ := Except.bind_eq_ok.mp read
      exact Except.bind_eq_ok.mpr ⟨t, tag.text here, made⟩
    | cons params same =>
      cases same with
      | nil =>
        obtain ⟨t, here, rest⟩ := Except.bind_eq_ok.mp read
        obtain ⟨ps, there, made⟩ := Except.bind_eq_ok.mp rest
        refine Except.bind_eq_ok.mpr ⟨t, tag.text here, ?_⟩
        exact Except.bind_eq_ok.mpr ⟨ps, params.jsonFields there, made⟩
      | cons types same =>
        obtain ⟨t, here, rest⟩ := Except.bind_eq_ok.mp read
        obtain ⟨ps, there, rest⟩ := Except.bind_eq_ok.mp rest
        obtain ⟨ts, last, made⟩ := Except.bind_eq_ok.mp rest
        refine Except.bind_eq_ok.mpr ⟨t, tag.text here, ?_⟩
        refine Except.bind_eq_ok.mpr ⟨ps, params.jsonFields there, ?_⟩
        refine Except.bind_eq_ok.mpr ⟨ts, types.namedNodes last, ?_⟩
        cases same with
        | nil => exact made
        | cons _ _ => cases made

end Items

section Members

variable {members members' : List (String × Reading)}

theorem findTag_readsAs {standing : Standing} {found result : Option NodeTag}
    (same : Fields.Alike ReadsAs members members')
    (read : findTag standing members found = .ok result) :
    findTag standing members' found = .ok result := by
  induction same generalizing found with
  | nil => exact read
  | @cons x y _ _ head _ ih =>
    obtain ⟨name, r⟩ := x
    obtain ⟨name', s⟩ := y
    obtain ⟨rfl, head⟩ := head
    by_cases isTag : name = "tag"
    · subst isTag
      obtain ⟨rfl, tag, here, there⟩ := findTag_cons_tag.mp read
      exact findTag_cons_tag.mpr ⟨rfl, tag, head.tag here, ih there⟩
    · obtain ⟨⟨j, settled⟩, there⟩ := (findTag_cons_of_ne isTag).mp read
      exact (findTag_cons_of_ne isTag).mpr ⟨⟨j, head.settle settled⟩, ih there⟩

theorem nodeMembers_readsAs {declared : List MemberDecl} {parts result : Part.Parts}
    (same : Fields.Alike ReadsAs members members')
    (read : nodeMembers declared members parts = .ok result) :
    nodeMembers declared members' parts = .ok result := by
  induction same generalizing parts with
  | nil => exact read
  | @cons x y _ _ head _ ih =>
    obtain ⟨name, r⟩ := x
    obtain ⟨name', s⟩ := y
    obtain ⟨rfl, head⟩ := head
    rw [nodeMembers_cons] at read ⊢
    by_cases isTag : name = "tag"
    · rw [if_pos isTag] at read ⊢
      exact ih read
    · rw [if_neg isTag] at read ⊢
      obtain ⟨decl, part, known, fresh, here, there⟩ := read
      exact ⟨decl, part, known, fresh, head.part here, ih there⟩

theorem argMembers_readsAs {tag : Option String} {params : Option (List (String × Json))}
    {types : Option (List (String × Node))} {args : Args Node}
    (same : Fields.Alike ReadsAs members members')
    (read : argMembers members tag params types = .ok args) :
    argMembers members' tag params types = .ok args := by
  induction same generalizing tag params types with
  | nil => exact read
  | @cons x y _ _ head _ ih =>
    obtain ⟨name, r⟩ := x
    obtain ⟨name', s⟩ := y
    obtain ⟨rfl, head⟩ := head
    rw [argMembers_cons] at read ⊢
    rcases read with ⟨isTag, free, t, here, there⟩ | ⟨isParams, free, ps, here, there⟩ |
      ⟨isTypes, free, ts, here, there⟩
    · exact .inl ⟨isTag, free, t, head.text here, ih there⟩
    · exact .inr (.inl ⟨isParams, free, ps, head.jsonFields here, ih there⟩)
    · exact .inr (.inr ⟨isTypes, free, ts, head.namedNodes here, ih there⟩)

/-- A tag that is found among members is found where each is named once. -/
theorem findTag_ofPairs {standing : Standing} {tag : NodeTag}
    (read : findTag standing members none = .ok (some tag)) :
    findTag standing (Fields.ofPairs members) none = .ok (some tag) := by
  obtain ⟨isTag, once, settled⟩ := findTag_none.mp read
  refine findTag_none.mpr ⟨fun r mem => isTag r (Fields.mem_ofPairs mem), ?_,
    fun member mem => settled member (Fields.mem_ofPairs mem)⟩
  have given : "tag" ∈ Fields.keys members := List.count_pos_iff.mp (by omega)
  exact List.count_eq_one_of_mem (Fields.keys_ofPairs_nodup members)
    (Fields.mem_keys_ofPairs.mpr given)

end Members

namespace ReadsAs

variable {items items' : List Reading} {members members' : List (String × Reading)}

/-- Whatever is made of members one by one is made of members that can be read so. -/
theorem alike {α : Type} {made : Reading → α → Prop} {as : List (String × α)}
    (same : Fields.Alike ReadsAs members members') (each : Fields.Alike made members as)
    (kept : ∀ {r s a}, ReadsAs r s → made r a → made s a) : Fields.Alike made members' as := by
  refine (same.flip.comp each).imp ?_
  rintro ⟨_, s⟩ ⟨_, a⟩ ⟨⟨_, r⟩, ⟨rfl, same⟩, rfl, here⟩
  exact ⟨rfl, kept same here⟩

/-- An array can be read as another if its items can. -/
theorem array (same : List.Forall₂ ReadsAs items items') :
    ReadsAs (.array items) (.array items') where
  settle := by
    intro j settled
    obtain ⟨js, each, rfl⟩ := settle_array_eq_ok.mp settled
    refine settle_array_eq_ok.mpr ⟨js, (same.flip.comp each).imp ?_, rfl⟩
    rintro s j ⟨r, same, settled⟩
    exact same.settle settled
  text := nofun
  optionalText := nofun
  jsonFields := nofun
  tag := by rintro (_ | _) tag ⟨⟩
  node := by
    intro standing n read
    obtain ⟨first, rest, tag, parts, rfl, isTag, whole, read, made⟩ := node_array_eq_ok.mp read
    cases same with
    | @cons _ first' _ rest' head tail =>
      refine node_array_eq_ok.mpr ⟨first', rest', tag, parts, rfl, head.tag isTag, ?_,
        nodeItems_readsAs tail read, made⟩
      refine faultAmong_eq_none.mpr fun s mem => ?_
      obtain ⟨r, among, same⟩ := tail.exists_of_mem_right mem
      obtain ⟨j, settled⟩ := faultAmong_eq_none.mp whole r among
      exact ⟨j, same.settle settled⟩
  nodes := fun read => nodeList_readsAs same read
  namedNodes := nofun
  args := by
    intro args read
    obtain ⟨args, read, made⟩ := Except.bind_eq_ok.mp read
    exact Except.bind_eq_ok.mpr ⟨args, argItems_readsAs same read, made⟩
  document := nofun

/-- An object may be read with each member once: where a node or arguments name one twice, there is
nothing to keep, and fields and declarations take the last. -/
theorem object (same : Fields.Alike ReadsAs (Fields.ofPairs members) members') :
    ReadsAs (.object members none) (.object members' none) where
  settle := by
    intro j settled
    obtain ⟨_, js, each, rfl⟩ := settle_object_eq_ok.mp settled
    refine settle_object_eq_ok.mpr ⟨rfl, _, alike same each.ofPairs fun same => same.settle, ?_⟩
    rw [Fields.ofPairs_of_nodup (Fields.keys_ofPairs_nodup js)]
  text := nofun
  optionalText := nofun
  jsonFields := by
    intro fields read
    obtain ⟨js, each, rfl⟩ := asJsonFields_object_eq_ok.mp read
    refine asJsonFields_object_eq_ok.mpr ⟨_, alike same each.ofPairs fun same => same.settle, ?_⟩
    rw [Fields.ofPairs_of_nodup (Fields.keys_ofPairs_nodup js)]
  tag := by rintro (_ | _) tag ⟨⟩
  node := by
    intro standing n read
    obtain ⟨_, tag, parts, isTag, gathered, made⟩ := node_object_eq_ok.mp read
    refine node_object_eq_ok.mpr
      ⟨rfl, tag, parts, findTag_readsAs same (findTag_ofPairs isTag), ?_, made⟩
    by_cases plain : tag.members.isEmpty
    · rwa [if_pos plain] at gathered ⊢
    · rw [if_neg plain] at gathered ⊢
      rw [Fields.ofPairs_of_nodup (nodup_of_node (findTag_none.mp isTag).2.1 gathered)] at same
      exact nodeMembers_readsAs same gathered
  nodes := nofun
  namedNodes := by
    intro ns read
    obtain ⟨all, given, made⟩ := Except.bind_eq_ok.mp read
    cases made
    have each := (nodeFields_eq_ok.mp given).ofPairs
    refine Except.bind_eq_ok.mpr
      ⟨_, nodeFields_eq_ok.mpr (alike same each fun same => same.node), ?_⟩
    rw [Fields.ofPairs_of_nodup (Fields.keys_ofPairs_nodup all)]
    rfl
  args := by
    intro args read
    obtain ⟨args, read, made⟩ := Except.bind_eq_ok.mp read
    rw [Fields.ofPairs_of_nodup (nodup_of_argMembers read).1] at same
    exact Except.bind_eq_ok.mpr ⟨args, argMembers_readsAs same read, made⟩
  document := by
    intro d read
    obtain ⟨_, ns, each, rfl⟩ := document_object_eq_ok.mp read
    refine document_object_eq_ok.mpr
      ⟨rfl, _, alike same each.ofPairs fun same => same.node, ?_⟩
    rw [Fields.ofPairs_of_nodup (Fields.keys_ofPairs_nodup ns)]

end ReadsAs

/-- What is read off a text is read off its value. The induction is on parts, since the members of the
value are some of the reading's, in other places. -/
theorem readsAs_of_settle (r : Reading) : ∀ {j : Json}, r.settle = .ok j → ReadsAs r j.reading := by
  induction r using part_induction with
  | step r ih =>
    intro j settled
    cases r with
    | array items =>
      obtain ⟨js, each, rfl⟩ := settle_array_eq_ok.mp settled
      rw [Json.reading, Json.readingItems_eq]
      refine .array (List.forall₂_map_right_iff.mpr ?_)
      exact each.imp_of_mem_left fun r j mem settled => ih r mem settled
    | object members stop =>
      obtain ⟨rfl, js, each, rfl⟩ := settle_object_eq_ok.mp settled
      rw [Json.reading, Json.readingMembers_eq]
      refine .object (List.forall₂_map_right_iff.mpr (each.ofPairs.imp_of_mem_left ?_))
      rintro member entry mem ⟨named, settled⟩
      exact ⟨named, ih _ (List.mem_map_of_mem (Fields.mem_ofPairs mem)) settled⟩
    | broken fault => cases settled
    | _ => cases settled; exact .refl _

end Reading

/-! ## Loading -/

namespace Document

/-- What is read as a document off the front of a text ends in the text. -/
theorem ends_of_document {text : String} {d : Document}
    (read : (Json.readFirst text).1.document = .ok d) :
    ∃ first rest j, Json.readFirst text = (first, some rest) ∧ first.settle = .ok j ∧
      first.document = .ok d := by
  obtain ⟨j, settled⟩ := Reading.settle_of_document read
  rcases ran : Json.readFirst text with ⟨first, _ | rest⟩
  · rw [ran] at settled
    exact absurd settled ((Json.breaksOff _).value ran j)
  · rw [ran] at settled read
    exact ⟨first, rest, j, rfl, settled, read⟩

/-- The root of a text is all of its value, and the value is all of the text. -/
theorem load_root {text : String} {first : Reading} {rest : List Char} {j : Json}
    (ran : Json.readFirst text = (first, some rest)) (settled : first.settle = .ok j) :
    load text (some "") =
      if (Json.skipBlanks rest).isEmpty then (ofJson j).mapError .complaint
      else .error (.complaint (.fault .malformed)) := by
  rw [load, Json.parse_of_settle ran settled]
  by_cases whole : (Json.skipBlanks rest).isEmpty
  · simp only [if_pos whole]
    rfl
  · simp only [if_neg whole]

/-- A document that is loaded directly is the one at the root, unless anything but blanks follows it:
then there is no root. A document at the root is loaded directly where no object names a member twice,
and is all of the text. -/
theorem load_agree (text : String) (d : Document) :
    (load text none = .ok d → ∃ first rest, Json.readFirst text = (first, some rest) ∧
      load text (some "") = if (Json.skipBlanks rest).isEmpty then .ok d
        else .error (.complaint (.fault .malformed))) ∧
    (load text (some "") = .ok d → ∃ first rest, Json.readFirst text = (first, some rest) ∧
      (Json.skipBlanks rest).isEmpty ∧ (first.namesOnce → load text none = .ok d)) := by
  constructor
  · intro loaded
    obtain ⟨first, rest, j, ran, settled, read⟩ :=
      ends_of_document (Except.mapError_eq_ok.mp loaded)
    have again : ofJson j = .ok d := (Reading.readsAs_of_settle first settled).document read
    refine ⟨first, rest, ran, ?_⟩
    rw [load_root ran settled, again]
    rfl
  · intro loaded
    cases parsed : Json.parse text with
    | error fault =>
      rw [load, parsed] at loaded
      cases loaded
    | ok j =>
      obtain ⟨first, rest, ran, settled⟩ := Json.settle_of_parse parsed
      rw [load_root ran settled] at loaded
      by_cases whole : (Json.skipBlanks rest).isEmpty
      · rw [if_pos whole] at loaded
        refine ⟨first, rest, ran, whole, fun once => ?_⟩
        rwa [load, ran, ← Reading.reading_of_settle first once settled]
      · rw [if_neg whole] at loaded
        cases loaded

/-- A document, and another value after it. -/
def followed : String := "\x7b\"A\":\x7b\"tag\":\"boolean\"\x7d\x7d \x7b\"B\":1\x7d"

/-- A document with an array whose element is given twice. -/
def elementTwice : String :=
  "\x7b\"A\":\x7b\"tag\":\"array\",\"element\":\x7b\"tag\":\"number\"\x7d," ++
    "\"element\":\x7b\"tag\":\"string\"\x7d\x7d\x7d"

/-- Each way loads a text that the other refuses. -/
theorem load_disagree :
    (load followed none = .ok [("A", .boolean)] ∧
      load followed (some "") = .error (.complaint (.fault .malformed))) ∧
    (load elementTwice none =
        .error (.complaint (.mismatch [.member "A"] (.duplicateField "element"))) ∧
      load elementTwice (some "") = .ok [("A", .array .string)]) := by
  cbv

end Document

end Specimen
