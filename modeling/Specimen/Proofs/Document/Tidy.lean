import Specimen.Proofs.Document.Reading

/-!
# What is read is tidy

Declarations, fields, parameters and members of objects name each thing once; a list that repeats a
name is none of them, and `isTidy` tells them apart. Whatever is read is tidy, be it read off a text
that repeats names or written as a sequence (`Document.isTidy_of_read`).

The induction is on the parts of a reading. The decoders call each other, so one statement speaks of
all that can be made of a reading (`ReadsTidy`).
-/

namespace Specimen

/-! ## JSON values -/

namespace Json

/-- Whether every object in a value names each member once. -/
def isTidy (j : Json) : Bool := j.reading.namesOnce

theorem isTidy_array {items : List Json} :
    (array items).isTidy = true ↔ ∀ item ∈ items, item.isTidy = true := by
  rw [isTidy, reading, Reading.namesOnce, Reading.allNameOnce_eq_true, readingItems_eq,
    List.forall_mem_map]
  rfl

theorem isTidy_object {members : List (String × Json)} :
    (object members).isTidy = true ↔
      (Fields.keys members).Nodup ∧ ∀ member ∈ members, member.2.isTidy = true := by
  have names : Fields.keys (readingMembers members) = Fields.keys members := by
    rw [readingMembers_eq, Fields.keys, List.map_map]
    rfl
  rw [isTidy, reading, Reading.namesOnce, Bool.and_eq_true, decide_eq_true_iff, names,
    Reading.membersNameOnce_eq_true, readingMembers_eq, List.forall_mem_map]
  rfl

end Json

/-- The value of a reading is tidy, whatever the reading is. -/
theorem Reading.isTidy_of_settle (r : Reading) : ∀ {j : Json}, r.settle = .ok j →
    j.isTidy = true := by
  induction r using part_induction with
  | step r ih =>
    intro j settled
    cases r with
    | array items =>
      obtain ⟨js, each, rfl⟩ := settle_array_eq_ok.mp settled
      refine Json.isTidy_array.mpr fun j mem => ?_
      obtain ⟨item, among, settled⟩ := each.exists_of_mem_right mem
      exact ih item among settled
    | object members stop =>
      obtain ⟨_, js, each, rfl⟩ := settle_object_eq_ok.mp settled
      refine Json.isTidy_object.mpr ⟨Fields.keys_ofPairs_nodup js, fun entry mem => ?_⟩
      obtain ⟨member, among, _, settled⟩ := each.exists_of_mem_right (Fields.mem_ofPairs mem)
      exact ih member.2 (List.mem_map_of_mem among) settled
    | broken fault => cases settled
    | _ => cases settled; rfl

/-! ## Documents -/

namespace Node

mutual

/-- Whether every name in a node is given once: of fields, types and parameters, and of the members
of JSON values. -/
def isTidy : Node → Bool
  | .literal value => value.isTidy
  | .array element => isTidy element
  | .tuple components => areTidy components
  | .dictionary value => isTidy value
  | .record fields => decide (Fields.keys fields).Nodup && areTidyFields fields
  | .partialRecord fields => decide (Fields.keys fields).Nodup && areTidyFields fields
  | .union alternatives => areTidy alternatives
  | .intersect intersectees => areTidy intersectees
  | .constraint underlying _ _ none => isTidy underlying
  | .constraint underlying _ _ (some ⟨_, params, types⟩) =>
    isTidy underlying && ((Json.object params).isTidy &&
      (decide (Fields.keys types).Nodup && areTidyFields types))
  | .extension _ _ payload => payload.isTidy
  | _ => true

/-- Whether all nodes of a list are tidy. -/
def areTidy : List Node → Bool
  | [] => true
  | n :: rest => isTidy n && areTidy rest

/-- Whether the nodes of all fields are. That no name is repeated is asked where the fields stand.
-/
def areTidyFields : List (String × Node) → Bool
  | [] => true
  | (_, n) :: rest => isTidy n && areTidyFields rest

end

theorem areTidy_eq_true {ns : List Node} : areTidy ns = true ↔ ∀ n ∈ ns, n.isTidy = true := by
  induction ns with
  | nil => simp [areTidy]
  | cons n rest ih => simp [areTidy, ih]

theorem areTidyFields_eq_true {fields : List (String × Node)} :
    areTidyFields fields = true ↔ ∀ field ∈ fields, field.2.isTidy = true := by
  induction fields with
  | nil => simp [areTidyFields]
  | cons field rest ih => simp [areTidyFields, ih]

end Node

/-- Whether every declaration is tidy, and each name is declared once. -/
def Document.isTidy (d : Document) : Bool :=
  decide (Fields.keys d).Nodup && Node.areTidyFields d

/-- A document is tidy if it declares each name once, and every declaration is tidy. -/
theorem Document.isTidy_eq_true {d : Document} :
    d.isTidy = true ↔ (Fields.keys d).Nodup ∧ ∀ entry ∈ d, entry.2.isTidy = true := by
  rw [isTidy, Bool.and_eq_true, decide_eq_true_iff, Node.areTidyFields_eq_true]

/-- Whether parameters and types of arguments are tidy. -/
def Args.isTidy (args : Args Node) : Bool :=
  (Json.object args.params).isTidy && Document.isTidy args.types

theorem Args.isTidy_eq_true {args : Args Node} :
    args.isTidy = true ↔ (Json.object args.params).isTidy = true ∧
      Document.isTidy args.types = true :=
  Bool.and_eq_true_iff

/-- A constraint is tidy if its underlying node is, and its arguments are if it has any. Texts of
programs are always tidy. -/
theorem Node.isTidy_constraint {underlying : Node} {predicate : String} {correction : Option String}
    {args : Option (Args Node)} :
    (constraint underlying predicate correction args).isTidy = true ↔
      underlying.isTidy = true ∧ ∀ given ∈ args, given.isTidy = true := by
  cases args with
  | none => simp [isTidy]
  | some given => simp [isTidy, Args.isTidy, Document.isTidy]

/-! ## Members -/

namespace Part

/-- A member that was read, being tidy: what a node made of it needs. -/
def IsTidy : Part → Prop
  | node n => n.isTidy = true
  | nodes ns => ∀ n ∈ ns, n.isTidy = true
  | namedNodes fields => Document.isTidy fields = true
  | text _ => True
  | optionalText _ => True
  | json j => j.isTidy = true
  | optionalArgs args => ∀ given ∈ args, given.isTidy = true

variable {parts : Parts} {name : String}

/-- A member that a node needs is one of those that were read. The five laws that follow say so of
each kind, for tidiness to be carried from what was read to the node. -/
theorem needNode_eq_ok {n : Node} (needed : needNode parts name = .ok n) :
    (name, node n) ∈ parts := by
  unfold needNode at needed
  split at needed
  case h_1 found => cases needed; exact Fields.mem_of_get? found
  case h_2 => cases needed

theorem needNodes_eq_ok {ns : List Node} (needed : needNodes parts name = .ok ns) :
    (name, nodes ns) ∈ parts := by
  unfold needNodes at needed
  split at needed
  case h_1 found => cases needed; exact Fields.mem_of_get? found
  case h_2 => cases needed

theorem needNamedNodes_eq_ok {fields : List (String × Node)}
    (needed : needNamedNodes parts name = .ok fields) : (name, namedNodes fields) ∈ parts := by
  unfold needNamedNodes at needed
  split at needed
  case h_1 found => cases needed; exact Fields.mem_of_get? found
  case h_2 => cases needed

theorem needText_eq_ok {s : String} (needed : needText parts name = .ok s) :
    (name, text s) ∈ parts := by
  unfold needText at needed
  split at needed
  case h_1 found => cases needed; exact Fields.mem_of_get? found
  case h_2 => cases needed

theorem needJson_eq_ok {j : Json} (needed : needJson parts name = .ok j) :
    (name, json j) ∈ parts := by
  unfold needJson at needed
  split at needed
  case h_1 found => cases needed; exact Fields.mem_of_get? found
  case h_2 => cases needed

/-- A node that is made of tidy members is tidy, whichever of them it lacks. -/
theorem isTidy_of_assemble {tag : NodeTag} {n : Node} (each : ∀ part ∈ parts, part.2.IsTidy)
    (made : assemble parts tag = .ok n) : n.isTidy = true := by
  cases tag with
  | always | boolean | number | string | void | function => cases made; rfl
  | literal =>
    obtain ⟨j, needed, made⟩ := Except.bind_eq_ok.mp made
    cases made
    exact each _ (needJson_eq_ok needed)
  | array =>
    obtain ⟨n, needed, made⟩ := Except.bind_eq_ok.mp made
    cases made
    exact each _ (needNode_eq_ok needed)
  | dictionary =>
    obtain ⟨n, needed, made⟩ := Except.bind_eq_ok.mp made
    cases made
    exact each _ (needNode_eq_ok needed)
  | tuple | union | intersect =>
    obtain ⟨ns, needed, made⟩ := Except.bind_eq_ok.mp made
    cases made
    exact Node.areTidy_eq_true.mpr (each _ (needNodes_eq_ok needed))
  | record | partialRecord =>
    obtain ⟨fields, needed, made⟩ := Except.bind_eq_ok.mp made
    cases made
    exact each _ (needNamedNodes_eq_ok needed)
  | constraint =>
    obtain ⟨underlying, needed, made⟩ := Except.bind_eq_ok.mp made
    obtain ⟨predicate, _, made⟩ := Except.bind_eq_ok.mp made
    cases made
    refine Node.isTidy_constraint.mpr ⟨each _ (needNode_eq_ok needed), ?_⟩
    split
    case h_1 args found => exact each _ (Fields.mem_of_get? found)
    case h_2 => nofun
  | reference =>
    obtain ⟨name, _, made⟩ := Except.bind_eq_ok.mp made
    cases made
    rfl
  | extension =>
    obtain ⟨name, _, made⟩ := Except.bind_eq_ok.mp made
    obtain ⟨guard, _, made⟩ := Except.bind_eq_ok.mp made
    cases made
    change Json.isTidy _ = true
    split
    case h_1 j found => exact each _ (Fields.mem_of_get? found)
    case h_2 => rfl

end Part

/-! ## Readings -/

namespace Reading

/-- Whatever is made of a reading is tidy. -/
structure ReadsTidy (r : Reading) : Prop where
  node : ∀ {standing n}, r.node standing = .ok n → n.isTidy = true
  nodes : ∀ {ns}, r.nodeSequence = .ok ns → ∀ n ∈ ns, n.isTidy = true
  namedNodes : ∀ {fields}, r.typeFields = .ok fields → Document.isTidy fields = true
  args : ∀ {args}, r.optionalArgs = .ok args → ∀ given ∈ args, given.isTidy = true

theorem ReadsTidy.part {r : Reading} {kind : MemberKind} {part : Part} (tidy : r.ReadsTidy)
    (read : r.asPart kind = .ok part) : part.IsTidy := by
  cases kind with
  | node =>
    obtain ⟨n, here, rfl⟩ := Except.map_eq_ok.mp read
    exact tidy.node here
  | nodes =>
    obtain ⟨ns, here, rfl⟩ := Except.map_eq_ok.mp read
    exact tidy.nodes here
  | namedNodes =>
    obtain ⟨fields, here, rfl⟩ := Except.map_eq_ok.mp read
    exact tidy.namedNodes here
  | text =>
    obtain ⟨t, _, rfl⟩ := Except.map_eq_ok.mp read
    trivial
  | optionalText =>
    obtain ⟨t, _, rfl⟩ := Except.map_eq_ok.mp read
    trivial
  | json =>
    obtain ⟨j, here, rfl⟩ := Except.map_eq_ok.mp read
    exact isTidy_of_settle r (Except.mapError_eq_ok.mp here)
  | optionalArgs =>
    obtain ⟨args, here, rfl⟩ := Except.map_eq_ok.mp read
    exact tidy.args here

/-- A name that is repeated among params is settled as in any object, so they are tidy whatever was
written. -/
theorem isTidy_of_asJsonFields {r : Reading} {params : List (String × Json)}
    (read : r.asJsonFields = .ok params) : (Json.object params).isTidy = true := by
  cases r with
  | object members stop =>
    obtain ⟨js, each, rfl⟩ := asJsonFields_object_eq_ok.mp read
    refine Json.isTidy_object.mpr ⟨Fields.keys_ofPairs_nodup js, fun entry mem => ?_⟩
    obtain ⟨member, _, _, settled⟩ := each.exists_of_mem_right (Fields.mem_ofPairs mem)
    exact isTidy_of_settle _ settled
  | _ => cases read

/-! ### Lists -/

/-- A node that is written as an array, member after member. -/
theorem isTidy_of_nodeItems {tag : NodeTag} {items : List Reading}
    (each : ∀ item ∈ items, item.ReadsTidy) : ∀ {count : Nat} {decls : List MemberDecl}
      {parts : Part.Parts}, nodeItems tag count decls items = .ok parts →
        ∀ part ∈ parts, part.2.IsTidy := by
  induction items with
  | nil =>
    intro count decls parts read
    cases decls with
    | nil => cases read; nofun
    | cons decl decls =>
      unfold nodeItems at read
      split at read
      · cases read
      · cases read; nofun
  | cons item items ih =>
    intro count decls parts read
    cases decls with
    | nil => cases read
    | cons decl decls =>
      obtain ⟨part, here, rest⟩ := Except.bind_eq_ok.mp read
      obtain ⟨parts, there, made⟩ := Except.bind_eq_ok.mp rest
      cases made
      obtain ⟨head, tail⟩ := List.forall_mem_cons.mp each
      exact List.forall_mem_cons.mpr ⟨head.part here, ih tail there⟩

/-- A node that is written as an object, in which the members come in any order. -/
theorem isTidy_of_nodeMembers {declared : List MemberDecl} {members : List (String × Reading)}
    (each : ∀ member ∈ members, member.2.ReadsTidy) : ∀ {parts result : Part.Parts},
      (∀ part ∈ parts, part.2.IsTidy) → nodeMembers declared members parts = .ok result →
        ∀ part ∈ result, part.2.IsTidy := by
  induction members with
  | nil =>
    rintro parts result before ⟨⟩
    exact before
  | cons member rest ih =>
    intro parts result before read
    obtain ⟨name, member⟩ := member
    obtain ⟨head, tail⟩ := List.forall_mem_cons.mp each
    rw [nodeMembers_cons] at read
    by_cases isTag : name = "tag"
    · rw [if_pos isTag] at read
      exact ih tail before read
    · rw [if_neg isTag] at read
      obtain ⟨decl, part, _, _, here, there⟩ := read
      refine ih tail (fun entry mem => ?_) there
      rcases List.mem_append.mp mem with mem | mem
      · exact before entry mem
      · rw [List.mem_singleton.mp mem]
        exact head.part here

/-- Arguments keep what was read last under each of their three names. -/
theorem isTidy_of_argMembers {members : List (String × Reading)}
    (each : ∀ member ∈ members, member.2.ReadsTidy) : ∀ {tag : Option String}
      {params : Option (List (String × Json))} {types : Option (List (String × Node))}
      {args : Args Node}, (∀ given ∈ params, (Json.object given).isTidy = true) →
        (∀ given ∈ types, Document.isTidy given = true) →
          argMembers members tag params types = .ok args → args.isTidy = true := by
  induction members with
  | nil =>
    intro tag params types args tidyParams tidyTypes read
    cases tag with
    | none => cases read
    | some tag =>
      cases read
      refine Args.isTidy_eq_true.mpr ⟨?_, ?_⟩
      · cases params with
        | none => rfl
        | some params => exact tidyParams params rfl
      · cases types with
        | none => rfl
        | some types => exact tidyTypes types rfl
  | cons member rest ih =>
    intro tag params types args tidyParams tidyTypes read
    obtain ⟨name, member⟩ := member
    obtain ⟨head, tail⟩ := List.forall_mem_cons.mp each
    rcases argMembers_cons.mp read with ⟨_, _, t, _, there⟩ | ⟨_, _, ps, here, there⟩ |
      ⟨_, _, ts, here, there⟩
    · exact ih tail tidyParams tidyTypes there
    · refine ih tail ?_ tidyTypes there
      rintro _ ⟨⟩
      exact isTidy_of_asJsonFields here
    · refine ih tail tidyParams ?_ there
      rintro _ ⟨⟩
      exact head.namedNodes here

theorem isTidy_of_argItems {items : List Reading} {args : Args Node}
    (each : ∀ item ∈ items, item.ReadsTidy) (read : argItems items = .ok args) :
    args.isTidy = true := by
  match items, each, read with
  | [], _, read => cases read
  | [tag], _, read =>
    obtain ⟨t, _, made⟩ := Except.bind_eq_ok.mp read
    cases made
    rfl
  | [tag, params], _, read =>
    obtain ⟨t, _, rest⟩ := Except.bind_eq_ok.mp read
    obtain ⟨ps, here, made⟩ := Except.bind_eq_ok.mp rest
    cases made
    exact Args.isTidy_eq_true.mpr ⟨isTidy_of_asJsonFields here, rfl⟩
  | tag :: params :: types :: rest, each, read =>
    obtain ⟨t, _, read⟩ := Except.bind_eq_ok.mp read
    obtain ⟨ps, here, read⟩ := Except.bind_eq_ok.mp read
    obtain ⟨ts, there, made⟩ := Except.bind_eq_ok.mp read
    split at made
    · cases made
      exact Args.isTidy_eq_true.mpr
        ⟨isTidy_of_asJsonFields here, (each types (by simp)).namedNodes there⟩
    · cases made

/-! ### Containers -/

/-- What is read of an array is tidy if what is read of each item is: once for all the things that
an array can be read as. -/
theorem ReadsTidy.array {items : List Reading} (each : ∀ item ∈ items, item.ReadsTidy) :
    ReadsTidy (.array items) where
  node read := by
    obtain ⟨first, rest, tag, parts, rfl, _, _, read, made⟩ := node_array_eq_ok.mp read
    exact Part.isTidy_of_assemble (isTidy_of_nodeItems (List.forall_mem_cons.mp each).2 read) made
  nodes read n mem := by
    obtain ⟨item, among, read⟩ := (nodeList_eq_ok.mp read).exists_of_mem_right mem
    exact (each item among).node read
  namedNodes := nofun
  args read := by
    obtain ⟨args, here, made⟩ := Except.bind_eq_ok.mp read
    cases made
    rintro _ ⟨⟩
    exact isTidy_of_argItems each here

/-- The same of an object, also of one that was never closed. -/
theorem ReadsTidy.object {members : List (String × Reading)} {stop : Option Fault}
    (each : ∀ member ∈ members, member.2.ReadsTidy) : ReadsTidy (.object members stop) where
  node read := by
    obtain ⟨_, tag, parts, _, gathered, made⟩ := node_object_eq_ok.mp read
    refine Part.isTidy_of_assemble ?_ made
    split at gathered
    · cases gathered
      exact List.forall_mem_nil _
    · exact isTidy_of_nodeMembers each (List.forall_mem_nil _) gathered
  nodes := nofun
  namedNodes read := by
    obtain ⟨all, given, made⟩ := Except.bind_eq_ok.mp read
    cases made
    refine Document.isTidy_eq_true.mpr ⟨Fields.keys_ofPairs_nodup all, fun entry mem => ?_⟩
    obtain ⟨member, among, _, read⟩ :=
      (nodeFields_eq_ok.mp given).exists_of_mem_right (Fields.mem_ofPairs mem)
    exact (each member among).node read
  args read := by
    obtain ⟨args, here, made⟩ := Except.bind_eq_ok.mp read
    cases made
    rintro _ ⟨⟩
    exact isTidy_of_argMembers each (by rintro _ ⟨⟩) (by rintro _ ⟨⟩) here

/-- Everything that is read from a document is tidy, by induction on the reading. -/
theorem readsTidy (r : Reading) : r.ReadsTidy := by
  induction r using part_induction with
  | step r ih =>
    cases r with
    | array items => exact .array ih
    | object members stop => exact .object fun member mem => ih _ (List.mem_map_of_mem mem)
    | null => exact ⟨nofun, nofun, nofun, by rintro _ ⟨⟩; nofun⟩
    | _ => exact ⟨nofun, nofun, nofun, nofun⟩

end Reading

/-- A document that is read is tidy. -/
theorem Document.isTidy_of_read {r : Reading} {d : Document} (read : r.document = .ok d) :
    d.isTidy = true := by
  cases r with
  | object members stop =>
    obtain ⟨_, ns, each, rfl⟩ := Reading.document_object_eq_ok.mp read
    refine isTidy_eq_true.mpr ⟨Fields.keys_ofPairs_nodup ns, fun entry mem => ?_⟩
    obtain ⟨member, _, _, read⟩ := each.exists_of_mem_right (Fields.mem_ofPairs mem)
    exact (Reading.readsTidy _).node read
  | _ => cases read

end Specimen
