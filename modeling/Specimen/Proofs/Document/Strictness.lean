import Mathlib
import Specimen.Proofs.Document.Places
import Specimen.Proofs.Document.Tidy

/-!
# How strict the format is

A node that is read is spelled as its tag declares (`spelled_of_node`): as an object with the tag and
declared members, all that are required among them, or as a sequence of the same. One of the
spellings is loose. Beside a tag that declares no members at all, an object may have any others, and
these are ignored.

So a member that is not declared makes a document unreadable wherever it is added to a node of which
the tag declares any, and goes unnoticed beside a tag that stands alone, at whichever depth
(`strict_but_for_lone_tags`). What carries this from the node to the document is that a document
depends on the reading at a place only in the node that it says.
-/

namespace Specimen

namespace Reading

variable {standing hole : Standing} {tag : NodeTag} {n : Node}

/-! ## Spellings -/

/-- Among the members of an object, a tag is given once. -/
structure Tagged (standing : Standing) (tag : NodeTag) (members : List (String × Reading)) :
    Prop where
  once : (Fields.keys members).count "tag" = 1
  reads : ∀ r, ("tag", r) ∈ members → nodeTag standing r = .ok tag

/-- Members of an object are the tag and members that it declares, each of them once and all that
are required. -/
structure Strict (standing : Standing) (tag : NodeTag) (members : List (String × Reading)) :
    Prop where
  tagged : Tagged standing tag members
  once : (Fields.keys members).Nodup
  declared : ∀ name ∈ Fields.keys members, name ≠ "tag" → ∃ decl ∈ tag.members, decl.name = name
  complete : ∀ decl ∈ tag.members, decl.required = true → decl.name ∈ Fields.keys members

/-- The spellings of nodes with a tag. -/
inductive Spelled (standing : Standing) (tag : NodeTag) : Reading → Prop
  | strictly {members : List (String × Reading)} (strict : Strict standing tag members) :
    Spelled standing tag (.object members none)
  /-- An object of a tag that declares no members, and of any others. -/
  | loosely {members : List (String × Reading)} (lone : tag.members = [])
    (tagged : Tagged standing tag members) : Spelled standing tag (.object members none)
  /-- A sequence of the tag and declared members, in order, and all that are required. -/
  | inOrder {first : Reading} {items : List Reading} (tagged : nodeTag standing first = .ok tag)
    (declared : items.length ≤ tag.members.length)
    (complete : ∀ decl ∈ tag.members, decl.required = true →
      decl ∈ tag.members.take items.length) :
    Spelled standing tag (.array (first :: items))

/-! ### Members that are needed -/

/-- The members that are gathered are those that are given beside the tag, and they are declared. -/
theorem keys_of_nodeMembers {declared : List MemberDecl} {members : List (String × Reading)}
    {parts result : Part.Parts} (read : nodeMembers declared members parts = .ok result) :
    Fields.keys result = Fields.keys parts ++ (Fields.keys members).filter (· ≠ "tag") ∧
      ∀ name ∈ Fields.keys members, name ≠ "tag" → ∃ decl ∈ declared, decl.name = name := by
  induction members generalizing parts with
  | nil =>
    cases read
    exact ⟨(List.append_nil _).symm, nofun⟩
  | cons member rest ih =>
    obtain ⟨name, member⟩ := member
    have read := nodeMembers_cons.mp read
    simp only [Fields.keys, List.map_cons] at ih ⊢
    by_cases isTag : name = "tag"
    · rw [if_pos isTag] at read
      obtain ⟨same, known⟩ := ih read
      refine ⟨?_, fun other mem noTag => ?_⟩
      · rw [same, List.filter_cons_of_neg (by simpa using isTag)]
      · rcases List.mem_cons.mp mem with rfl | mem
        · exact absurd isTag noTag
        · exact known other mem noTag
    · rw [if_neg isTag] at read
      obtain ⟨decl, part, found, _, _, read⟩ := read
      obtain ⟨same, known⟩ := ih read
      refine ⟨?_, fun other mem noTag => ?_⟩
      · rw [same, List.filter_cons_of_pos (by simpa using isTag)]
        simp
      · rcases List.mem_cons.mp mem with rfl | mem
        · have named := List.find?_some found
          exact ⟨decl, List.mem_of_find?_eq_some found, beq_iff_eq.mp named⟩
        · exact known other mem noTag

/-- Of a sequence, members are gathered from the front of those that are declared. -/
theorem keys_of_nodeItems {count : Nat} {decls : List MemberDecl} {items : List Reading}
    {parts : Part.Parts} (read : nodeItems tag count decls items = .ok parts) :
    items.length ≤ decls.length ∧
      Fields.keys parts = (decls.take items.length).map MemberDecl.name := by
  induction items generalizing count decls parts with
  | nil =>
    refine ⟨Nat.zero_le _, ?_⟩
    cases decls with
    | nil => cases read; rfl
    | cons decl decls =>
      unfold nodeItems at read
      split at read
      · cases read
      · cases read
        rfl
  | cons item items ih =>
    cases decls with
    | nil => cases read
    | cons decl decls =>
      obtain ⟨part, _, read⟩ := Except.bind_eq_ok.mp read
      obtain ⟨parts, read, made⟩ := Except.bind_eq_ok.mp read
      obtain ⟨within, same⟩ := ih read
      cases made
      exact ⟨Nat.succ_le_succ within, congrArg (decl.name :: ·) same⟩

/-- A node is made of all members that its tag requires. -/
theorem mem_keys_of_assemble {parts : Part.Parts} {decl : MemberDecl}
    (made : Part.assemble parts tag = .ok n) (declared : decl ∈ tag.members)
    (required : decl.required = true) : decl.name ∈ Fields.keys parts := by
  have given : ∀ {name : String} {part : Part}, (name, part) ∈ parts → name ∈ Fields.keys parts :=
    fun mem => List.mem_map_of_mem mem
  cases tag with
  | always | boolean | number | string | void | function => cases declared
  | literal =>
    obtain ⟨_, needed, _⟩ := Except.bind_eq_ok.mp made
    cases List.mem_singleton.mp declared
    exact given (Part.needJson_eq_ok needed)
  | array | dictionary =>
    obtain ⟨_, needed, _⟩ := Except.bind_eq_ok.mp made
    cases List.mem_singleton.mp declared
    exact given (Part.needNode_eq_ok needed)
  | tuple | union | intersect =>
    obtain ⟨_, needed, _⟩ := Except.bind_eq_ok.mp made
    cases List.mem_singleton.mp declared
    exact given (Part.needNodes_eq_ok needed)
  | record | partialRecord =>
    obtain ⟨_, needed, _⟩ := Except.bind_eq_ok.mp made
    cases List.mem_singleton.mp declared
    exact given (Part.needNamedNodes_eq_ok needed)
  | constraint =>
    obtain ⟨_, underlying, made⟩ := Except.bind_eq_ok.mp made
    obtain ⟨_, predicate, _⟩ := Except.bind_eq_ok.mp made
    simp only [NodeTag.members, List.mem_cons, List.not_mem_nil, or_false] at declared
    rcases declared with rfl | rfl | rfl | rfl
    · exact given (Part.needNode_eq_ok underlying)
    · exact given (Part.needText_eq_ok predicate)
    · cases required
    · cases required
  | reference =>
    obtain ⟨_, needed, _⟩ := Except.bind_eq_ok.mp made
    cases List.mem_singleton.mp declared
    exact given (Part.needText_eq_ok needed)
  | extension =>
    obtain ⟨_, name, made⟩ := Except.bind_eq_ok.mp made
    obtain ⟨_, guard, _⟩ := Except.bind_eq_ok.mp made
    simp only [NodeTag.members, List.mem_cons, List.not_mem_nil, or_false] at declared
    rcases declared with rfl | rfl | rfl
    · exact given (Part.needText_eq_ok name)
    · exact given (Part.needText_eq_ok guard)
    · cases required

theorem Spelled.tagged {members : List (String × Reading)} {stop : Option Fault}
    (spelled : Spelled standing tag (.object members stop)) : Tagged standing tag members := by
  cases spelled with
  | strictly strict => exact strict.tagged
  | loosely _ tagged => exact tagged

/-- An object is strict unless there is something beside a lone tag. -/
theorem Spelled.strict_iff {members : List (String × Reading)} {stop : Option Fault}
    (spelled : Spelled standing tag (.object members stop)) :
    Strict standing tag members ↔ (tag.members = [] → Fields.keys members = ["tag"]) := by
  constructor
  · intro strict lone
    have only : ∀ name ∈ Fields.keys members, "tag" = name := by
      intro name mem
      by_contra other
      obtain ⟨decl, declared, _⟩ := strict.declared name mem (Ne.symm other)
      rw [lone] at declared
      cases declared
    have single : (Fields.keys members).length = 1 :=
      (List.count_eq_length.mpr only).symm.trans strict.tagged.once
    exact List.eq_replicate_iff.mpr ⟨single, fun name mem => (only name mem).symm⟩
  · intro bare
    cases spelled with
    | strictly strict => exact strict
    | loosely lone tagged =>
      have keys := bare lone
      refine ⟨tagged, ?_, fun name mem other => ?_, fun decl declared => ?_⟩
      · rw [keys]
        exact List.nodup_singleton _
      · rw [keys] at mem
        exact absurd (List.mem_singleton.mp mem) other
      · rw [lone] at declared
        cases declared

theorem spelled_of_node {r : Reading} (read : r.node standing = .ok n) :
    ∃ tag, Spelled standing tag r := by
  cases r with
  | object members stop =>
    obtain ⟨rfl, tag, parts, isTag, gathered, made⟩ := node_object_eq_ok.mp read
    obtain ⟨reads, once, _⟩ := findTag_none.mp isTag
    refine ⟨tag, ?_⟩
    by_cases plain : tag.members.isEmpty
    · exact .loosely (List.isEmpty_iff.mp plain) ⟨once, reads⟩
    · rw [if_neg plain] at gathered
      obtain ⟨same, declared⟩ := keys_of_nodeMembers gathered
      refine .strictly ⟨⟨once, reads⟩, nodup_of_node once gathered, declared, ?_⟩
      intro decl mem required
      have given := mem_keys_of_assemble made mem required
      rw [same] at given
      exact (List.mem_filter.mp given).1
  | array items =>
    obtain ⟨first, items, tag, parts, rfl, tagged, _, gathered, made⟩ := node_array_eq_ok.mp read
    obtain ⟨within, same⟩ := keys_of_nodeItems gathered
    refine ⟨tag, .inOrder tagged within fun decl mem required => ?_⟩
    have given := mem_keys_of_assemble made mem required
    rw [same] at given
    obtain ⟨other, among, named⟩ := List.mem_map.mp given
    have found := NodeTag.find?_members mem
    rw [← named, NodeTag.find?_members (List.mem_of_mem_take among)] at found
    cases found
    exact among
  | _ => cases read

/-! ## Other members -/

section Added

variable {before after : List (String × Reading)} {stop : Option Fault} {name : String}
  {value : Reading}

/-- A tag that declares members refuses any other beside them. -/
theorem undeclared_not_read {t : Reading} (given : ("tag", t) ∈ before ++ after)
    (reads : nodeTag standing t = .ok tag) (some : tag.members ≠ []) (isNoTag : name ≠ "tag")
    (other : ∀ decl ∈ tag.members, decl.name ≠ name) :
    (object (before ++ (name, value) :: after) stop).node standing ≠ .ok n := by
  intro read
  obtain ⟨tag', spelled⟩ := spelled_of_node read
  have still : ("tag", t) ∈ before ++ (name, value) :: after :=
    List.perm_middle.mem_iff.mpr (List.mem_cons_of_mem _ given)
  cases spelled with
  | strictly strict =>
    cases (strict.tagged.reads t still).symm.trans reads
    have among : name ∈ Fields.keys (before ++ (name, value) :: after) :=
      List.mem_map_of_mem List.mem_append_cons_self
    obtain ⟨decl, mem, named⟩ := strict.declared name among isNoTag
    exact other decl mem named
  | loosely lone tagged =>
    cases (tagged.reads t still).symm.trans reads
    exact some lone

/-- A tag is found past a member that is not one. -/
theorem findTag_added (other : name ≠ "tag") (whole : ∃ j, value.settle = .ok j)
    {result : Option NodeTag} :
    ∀ {before : List (String × Reading)} {found : Option NodeTag},
      findTag standing (before ++ (name, value) :: after) found = .ok result ↔
        findTag standing (before ++ after) found = .ok result
  | [], _ => (findTag_cons_of_ne other).trans (and_iff_right whole)
  | (first, member) :: before, found => by
    by_cases isTag : first = "tag"
    · subst isTag
      simp only [List.cons_append, findTag_cons_tag, findTag_added other whole]
    · simp only [List.cons_append, findTag_cons_of_ne isTag, findTag_added other whole]

/-- A tag that stands alone has any other members ignored. -/
theorem undeclared_ignored {t : Reading} (given : ("tag", t) ∈ before ++ after)
    (reads : nodeTag standing t = .ok tag) (lone : tag.members = []) (other : name ≠ "tag")
    (whole : ∃ j, value.settle = .ok j) :
    (object (before ++ (name, value) :: after) stop).node standing = .ok n ↔
      (object (before ++ after) stop).node standing = .ok n := by
  simp only [node_object_eq_ok, findTag_added other whole]
  refine and_congr_right fun _ => exists_congr fun tag' => exists_congr fun parts => ?_
  refine and_congr_right fun isTag => ?_
  cases ((findTag_none.mp isTag).1 t given).symm.trans reads
  rw [lone]
  rfl

end Added

end Reading

namespace Document

open Reading

/-- What a document is read off: the first value of a text, or what a pointer selects in it. -/
def source? (text : String) : Option String → Option Reading
  | none => some (Json.readFirst text).1
  | some pointer =>
    match Json.parse text with
    | .error _ => none
    | .ok root => (root.select? pointer).map Json.reading

theorem load_eq_ok {text : String} {pointer : Option String} {d : Document} :
    load text pointer = .ok d ↔ ∃ r, source? text pointer = some r ∧ r.document = .ok d := by
  cases pointer with
  | none => simp [load, source?, Except.mapError_eq_ok]
  | some pointer =>
    unfold load source?
    cases Json.parse text with
    | error fault => simp
    | ok root =>
      cases selected : root.select? pointer with
      | none => simp [selected]
      | some j => simp [selected, Except.mapError_eq_ok, ofJson]

theorem load_of_source {text : String} {pointer : Option String} {r : Reading} {d : Document}
    (source : source? text pointer = some r) : load text pointer = .ok d ↔ r.document = .ok d := by
  simp [load_eq_ok, source]

/-- Every node of a module that is loaded has a place in what the module is read off, and at each place
stands a node that is spelled as its tag allows. An object has the tag and declared members, and no
others, exactly if there is nothing beside a tag that declares no members. To a node of any other tag
no member can be added that the tag does not declare, at any depth: such a module is loaded no more.
Beside a lone tag such a member makes no difference. -/
theorem strict_but_for_lone_tags {text : String} {pointer : Option String} {d : Document}
    (loaded : load text pointer = .ok d) :
    (∀ name n m, (name, n) ∈ d → m.Within n →
      ∃ hole C r, InDocument hole C ∧ source? text pointer = some (C r) ∧ r.node hole = .ok m) ∧
    ∀ hole C r, InDocument hole C → source? text pointer = some (C r) →
      ∃ tag, Spelled hole tag r ∧
        (∀ members, r = .object members none →
          (Strict hole tag members ↔ (tag.members = [] → Fields.keys members = ["tag"]))) ∧
        ∀ before after name value, r = .object (before ++ after) none → name ≠ "tag" →
          (∀ decl ∈ tag.members, decl.name ≠ name) → (∃ j, value.settle = .ok j) →
          ∀ text' pointer',
            source? text' pointer' = some (C (.object (before ++ (name, value) :: after) none)) →
            ((∀ d', load text' pointer' ≠ .ok d') ↔ tag.members ≠ []) ∧
            (tag.members = [] → load text' pointer' = .ok d) := by
  obtain ⟨_, source, read⟩ := load_eq_ok.mp loaded
  refine ⟨fun name n m declared within => ?_, fun hole C r place whole => ?_⟩
  · obtain ⟨hole, C, s, place, rfl, here⟩ := exists_inDocument read declared within
    exact ⟨hole, C, s, place, source, here⟩
  · cases source.symm.trans whole
    obtain ⟨n, here, _⟩ := place.replace read
    obtain ⟨tag, spelled⟩ := spelled_of_node here
    refine ⟨tag, spelled, ?_, ?_⟩
    · rintro members rfl
      exact spelled.strict_iff
    · rintro before after name value rfl isNoTag other settled text' pointer' source'
      obtain ⟨t, given, reads⟩ := exists_tag spelled.tagged.once spelled.tagged.reads
      -- where nothing is declared nothing is looked at, so the member goes unnoticed
      have ignored : tag.members = [] → load text' pointer' = .ok d := by
        intro lone
        rw [load_of_source source']
        exact (place.congr fun n => undeclared_ignored given reads lone isNoTag settled).mpr read
      refine ⟨⟨fun fails lone => fails d (ignored lone), fun some d' loaded' => ?_⟩, ignored⟩
      obtain ⟨n, still, _⟩ := place.replace ((load_of_source source').mp loaded')
      exact undeclared_not_read given reads some isNoTag other still

/-- An array of numbers. -/
def numbers : String :=
  "\x7b\"A\":\x7b\"tag\":\"array\",\"element\":\x7b\"tag\":\"number\"\x7d\x7d\x7d"

/-- The same, where the array is to be sorted. -/
def sortedNumbers : String :=
  "\x7b\"A\":\x7b\"tag\":\"array\",\"element\":\x7b\"tag\":\"number\"\x7d," ++
    "\"sorted\":true\x7d\x7d"

/-- The same, where the numbers are to be even. -/
def evenNumbers : String :=
  "\x7b\"A\":\x7b\"tag\":\"array\",\"element\":" ++
    "\x7b\"tag\":\"number\",\"even\":true\x7d\x7d\x7d"

/-- The array is refused, and the numbers are any. -/
theorem sorted_refused_even_ignored :
    load numbers none = .ok [("A", .array .number)] ∧ (∀ d, load sortedNumbers none ≠ .ok d) ∧
      load evenNumbers none = .ok [("A", .array .number)] := by
  have loaded : load numbers none = .ok [("A", .array .number)] := by cbv
  have source : source? numbers none = some (.object [("A", .object [("tag", .string "array"),
      ("element", .object [("tag", .string "number")] none)] none)] none) := by cbv
  obtain ⟨_, strict⟩ := strict_but_for_lone_tags loaded
  refine ⟨loaded, ?_, ?_⟩
  · have place : InDocument .declared fun r => .object [("A", r)] none :=
      .declared .here "A" [] [] none
    obtain ⟨tag, spelled, _, added⟩ := strict _ _ _ place source
    cases spelled.tagged.reads _ List.mem_cons_self
    have again : source? sortedNumbers none = some (.object [("A", .object [("tag", .string "array"),
        ("element", .object [("tag", .string "number")] none), ("sorted", .bool true)] none)] none) :=
      by cbv
    exact (added [("tag", .string "array"), ("element", .object [("tag", .string "number")] none)] []
      "sorted" (.bool true) rfl (by decide) (by decide) ⟨_, rfl⟩ _ _ again).1.mpr (by decide)
  · have declared : (⟨"element", .node, true⟩ : MemberDecl) ∈ NodeTag.array.members :=
      List.mem_singleton_self _
    have reads : nodeTag .declared (.string "array") = .ok .array := rfl
    have element : InNode .declared fun r =>
        .object [("tag", .string "array"), ("element", r)] none :=
      .member declared .node [("tag", .string "array")] [] none ⟨_, List.mem_cons_self, reads⟩
    have place : InDocument .inner fun r => .object
        [("A", .object [("tag", .string "array"), ("element", r)] none)] none :=
      .declared (.inside element .here) "A" [] [] none
    obtain ⟨tag, spelled, _, added⟩ := strict _ _ _ place source
    cases spelled.tagged.reads _ List.mem_cons_self
    have again : source? evenNumbers none = some (.object [("A", .object [("tag", .string "array"),
        ("element", .object [("tag", .string "number"), ("even", .bool true)] none)] none)] none) :=
      by cbv
    exact (added [("tag", .string "number")] [] "even" (.bool true) rfl (by decide) (by decide)
      ⟨_, rfl⟩ _ _ again).2 rfl

/-- A number with a minimum. -/
def withMinimum : String := "\x7b\"A\":\x7b\"tag\":\"number\",\"min\":0\x7d\x7d"

/-- A number as a sequence. -/
def inSequence : String := "\x7b\"A\":[\"number\"]\x7d"

/-- In one module a node has a member that its tag does not declare, and in another one it is no
object. Both are loaded. -/
theorem minimum_goes_unnoticed :
    (source? withMinimum none = some (.object [("A", .object [("tag", .string "number"),
        ("min", .number (.integer 0 (by decide)))] none)] none) ∧
      NodeTag.number.members = [] ∧ load withMinimum none = .ok [("A", .number)]) ∧
    source? inSequence none = some (.object [("A", .array [.string "number"])] none) ∧
      load inSequence none = .ok [("A", .number)] := by
  refine ⟨⟨?_, rfl, ?_⟩, ?_, ?_⟩
  all_goals cbv

end Document

end Specimen
