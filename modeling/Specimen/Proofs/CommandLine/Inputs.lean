import Mathlib
import Specimen.CommandLine.Run
import Specimen.Proofs.Document.Declarations

/-!
# Joining what documents declare

The documents of all inputs are joined before anything is lowered. A name that two of them declare is
refused, in whichever of them it comes later; where there is none, what is lowered is all that the
documents declare, in order (`load_joins_declarations`). So declarations may be divided among
documents in any way.

This is less than that no declaration is lost. Each document is a table before it is joined to
others, and a name that one text declares twice has been replaced by then
(`first_declaration_is_lost`).
-/

namespace Specimen

namespace Inputs

/-- What is told of a name that a document declares and an earlier one has declared. -/
def declaredTwice (name path : String) : Account :=
  [.text ("type `" ++ name ++ "` declared twice (again in " ++ path ++ ")")]

/-- Documents that declare no name in common. -/
def Apart (a b : String × Document) : Prop := (Fields.keys a.2).Disjoint (Fields.keys b.2)

/-- The types of a document, or what is told of why there are none. -/
def lowered (d : Document) : Except Account (List (String × Descriptor)) :=
  ((d.lower 0).map Prod.fst).mapError LoweringError.account

/-! ## One document joined to others -/

section Merging

variable {path : String} {merged : Document}

theorem merge_append {before : Document} (rest : Document) (nodup : (Fields.keys before).Nodup) :
    ∀ {merged : Document}, (Fields.keys merged).Disjoint (Fields.keys before) →
      merge path merged (before ++ rest) = merge path (merged ++ before) rest := by
  induction before with
  | nil =>
    intro merged _
    rw [List.nil_append, List.append_nil]
  | cons entry before ih =>
    obtain ⟨k, n⟩ := entry
    obtain ⟨single, nodup⟩ := List.nodup_cons.mp nodup
    intro merged apart
    have fresh : ¬ Fields.has merged k = true :=
      fun known => apart (Fields.has_eq_true.mp known) List.mem_cons_self
    have onward : (Fields.keys (merged ++ [(k, n)])).Disjoint (Fields.keys before) := by
      rw [Fields.keys, List.map_append]
      refine List.disjoint_append_left.mpr ⟨fun name known later => ?_, ?_⟩
      · exact apart known (List.mem_cons_of_mem _ later)
      · exact List.singleton_disjoint.mpr single
    rw [List.cons_append, merge, if_neg fresh, ih nodup onward,
      List.append_assoc, List.singleton_append]

/-- A document that declares nothing new joins the others at the end. -/
theorem merge_of_disjoint {d : Document} (nodup : (Fields.keys d).Nodup)
    (apart : (Fields.keys merged).Disjoint (Fields.keys d)) :
    merge path merged d = .ok (merged ++ d) := by
  have whole : merge path merged (d ++ []) = merge path (merged ++ d) [] :=
    merge_append [] nodup apart
  rwa [List.append_nil] at whole

/-- The first name that is known already is refused. -/
theorem merge_of_find {d : Document} {name : String} {n : Node} (nodup : (Fields.keys d).Nodup)
    (first : d.find? (fun entry => decide (entry.1 ∈ Fields.keys merged)) = some (name, n)) :
    merge path merged d = .error (declaredTwice name path) := by
  obtain ⟨known, before, after, rfl, fresh⟩ := List.find?_eq_some_iff_append.mp first
  rw [Fields.keys, List.map_append] at nodup
  have apart : (Fields.keys merged).Disjoint (Fields.keys before) := by
    intro other known later
    obtain ⟨entry, mem, rfl⟩ := List.mem_map.mp later
    simpa [known] using fresh entry mem
  have taken : Fields.has (merged ++ before) name = true := by
    rw [Fields.has_eq_true, Fields.keys, List.map_append]
    exact List.mem_append_left _ (of_decide_eq_true known)
  rw [merge_append _ (List.nodup_append.mp nodup).1 apart, merge, if_pos taken]
  rfl

end Merging

/-! ## All documents -/

section Gathering

variable {inputs : Inputs} {disk : Disk} {documents : List (String × Document)}

/-- The documents at paths that declare what is listed with them, each a table by itself. -/
def AreRead (inputs : Inputs) (disk : Disk) (documents : List (String × Document)) : Prop :=
  ∀ path ds, (path, ds) ∈ documents →
    ∃ text, disk.read path = some text ∧ Document.TextDeclares text ds inputs.pointer

theorem documentAt_of_areRead {path : String} {ds : Document} (read : AreRead inputs disk documents)
    (mem : (path, ds) ∈ documents) : inputs.documentAt disk path = .ok (Fields.ofPairs ds) := by
  obtain ⟨text, there, declares⟩ := read path ds mem
  rw [documentAt, there]
  simp only [Document.load_of_textDeclares declares]

/-- All that documents declare, in order; of a name that one of them repeats, the last node. -/
def joined (documents : List (String × Document)) : Document :=
  documents.flatMap fun entry => Fields.ofPairs entry.2

theorem mem_keys_joined {name : String} :
    name ∈ Fields.keys (joined documents) ↔ ∃ entry ∈ documents, name ∈ Fields.keys entry.2 := by
  simp only [Fields.keys, joined, List.map_flatMap, List.mem_flatMap]
  exact exists_congr fun entry => and_congr_right fun _ => Fields.mem_keys_ofPairs

theorem joined_of_nodup (once : ∀ entry ∈ documents, (Fields.keys entry.2).Nodup) :
    joined documents = documents.flatMap Prod.snd :=
  List.flatMap_congr fun entry mem => Fields.ofPairs_of_nodup (once entry mem)

/-- Where no declaration repeats a name, no document does, and no two of them share one. -/
theorem apart_of_nodup (nodup : (Fields.keys (documents.flatMap Prod.snd)).Nodup) :
    (∀ entry ∈ documents, (Fields.keys entry.2).Nodup) ∧ documents.Pairwise Apart := by
  rw [Fields.keys, List.map_flatMap] at nodup
  exact List.nodup_flatMap.mp nodup

theorem gather_append {paths more : List String} : ∀ merged : Document,
    inputs.gather disk merged (paths ++ more) =
      inputs.gather disk merged paths >>= fun joined => inputs.gather disk joined more := by
  induction paths with
  | nil => exact fun merged => rfl
  | cons path paths ih =>
    intro merged
    rw [List.cons_append, gather, gather]
    cases inputs.documentAt disk path with
    | error account => rfl
    | ok d =>
      cases joined : merge path merged d with
      | error account => simp [bind, Except.bind, joined]
      | ok merged => simpa [bind, Except.bind, joined] using ih merged

/-- One more document is joined to what the earlier ones declare. -/
theorem gather_concat {earlier : List (String × Document)} {path : String} {ds : Document}
    (read : AreRead inputs disk (earlier ++ [(path, ds)]))
    (gathered : inputs.gather disk [] (Fields.keys earlier) = .ok (joined earlier)) :
    inputs.gather disk [] (Fields.keys (earlier ++ [(path, ds)])) =
      merge path (joined earlier) (Fields.ofPairs ds) := by
  have here := documentAt_of_areRead read (List.mem_append_right _ List.mem_cons_self)
  rw [Fields.keys, List.map_append, gather_append, ← Fields.keys, gathered]
  change inputs.gather disk (joined earlier) [path] = _
  rw [gather, here]
  change (merge path (joined earlier) (Fields.ofPairs ds) >>= fun merged => pure merged) = _
  exact bind_pure _

/-- Documents that have no name in common are joined end to end. -/
theorem gather_of_apart (read : AreRead inputs disk documents) (apart : documents.Pairwise Apart) :
    inputs.gather disk [] (Fields.keys documents) = .ok (joined documents) := by
  induction documents using List.reverseRecOn with
  | nil => rfl
  | append_singleton earlier last ih =>
    obtain ⟨path, ds⟩ := last
    obtain ⟨before, _, fresh⟩ := List.pairwise_append.mp apart
    have gathered := ih (fun path ds mem => read path ds (List.mem_append_left _ mem)) before
    have disjoint : (Fields.keys (joined earlier)).Disjoint (Fields.keys (Fields.ofPairs ds)) := by
      intro name known again
      obtain ⟨entry, mem, known⟩ := mem_keys_joined.mp known
      exact fresh entry mem _ List.mem_cons_self known (Fields.mem_keys_ofPairs.mp again)
    rw [gather_concat read gathered,
      merge_of_disjoint (Fields.keys_ofPairs_nodup ds) disjoint]
    simp [joined]

/-- Where two documents have a name in common, there is a first one that has a name in common with
earlier ones. -/
theorem exists_clash (common : ¬ documents.Pairwise Apart) :
    ∃ earlier path ds later name n, documents = earlier ++ (path, ds) :: later ∧
      earlier.Pairwise Apart ∧
      (Fields.ofPairs ds).find? (fun entry => decide (entry.1 ∈ Fields.keys (joined earlier))) =
        some (name, n) := by
  induction documents using List.reverseRecOn with
  | nil => exact absurd .nil common
  | append_singleton documents last ih =>
    by_cases before : documents.Pairwise Apart
    · obtain ⟨path, ds⟩ := last
      have shared : ∃ name ∈ Fields.keys ds, name ∈ Fields.keys (joined documents) := by
        by_contra none
        refine common (List.pairwise_append.mpr ⟨before, List.pairwise_singleton _ _, ?_⟩)
        rintro entry mem _ (_ | ⟨_, ⟨⟩⟩) name known again
        exact none ⟨name, again, mem_keys_joined.mpr ⟨entry, mem, known⟩⟩
      obtain ⟨name, here, known⟩ := shared
      obtain ⟨entry, mem, rfl⟩ := List.mem_map.mp (Fields.mem_keys_ofPairs.mpr here)
      have some : ((Fields.ofPairs ds).find?
          fun entry => decide (entry.1 ∈ Fields.keys (joined documents))).isSome :=
        List.find?_isSome.mpr ⟨entry, mem, decide_eq_true known⟩
      obtain ⟨⟨name, n⟩, first⟩ := Option.isSome_iff_exists.mp some
      exact ⟨documents, path, ds, [], name, n, rfl, before, first⟩
    · obtain ⟨earlier, path, ds, later, name, n, rfl, found⟩ := ih before
      exact ⟨earlier, path, ds, later ++ [last], name, n, by simp, found⟩

/-- A name that two documents have in common is refused. -/
theorem gather_of_clash {earlier later : List (String × Document)} {path name : String}
    {ds : Document} {n : Node}
    (read : AreRead inputs disk (earlier ++ (path, ds) :: later)) (apart : earlier.Pairwise Apart)
    (first : (Fields.ofPairs ds).find?
      (fun entry => decide (entry.1 ∈ Fields.keys (joined earlier))) = some (name, n)) :
    inputs.gather disk [] (Fields.keys (earlier ++ (path, ds) :: later)) =
      .error (declaredTwice name path) := by
  have split : earlier ++ (path, ds) :: later = (earlier ++ [(path, ds)]) ++ later := by simp
  rw [split] at read ⊢
  have reading : AreRead inputs disk (earlier ++ [(path, ds)]) :=
    fun path ds mem => read path ds (List.mem_append_left _ mem)
  have gathered := gather_of_apart
    (fun path ds mem => reading path ds (List.mem_append_left _ mem)) apart
  rw [Fields.keys, List.map_append, gather_append, ← Fields.keys, gather_concat reading gathered,
    merge_of_find (Fields.keys_ofPairs_nodup ds) first]
  rfl

end Gathering

/-! ## Loading -/

theorem load_of_gather {inputs : Inputs} {disk : Disk} {paths : List String}
    (found : inputs.paths disk = .ok paths) :
    inputs.load disk = inputs.gather disk [] paths >>= lowered := by
  rw [load, document, found]
  change (inputs.gather disk [] paths >>= _) = _
  refine congrArg (inputs.gather disk [] paths >>= ·) (funext fun d => ?_)
  rw [lowered]
  cases d.lower 0 with
  | ok made => rfl
  | error e => rfl

/-- The documents of the inputs are joined, and what they declare is lowered together.

Where no name is declared in two of them, that is each document's own names in order, with the last
node of a name that it repeats; where no name is repeated at all, it is every declaration of every
document, so how they are divided makes no difference. Where two documents declare one name, loading
fails: it tells of the first document that declares a name again, and of the first such name in it. -/
theorem load_joins_declarations (inputs : Inputs) (disk : Disk)
    (documents : List (String × Document)) (found : inputs.paths disk = .ok (Fields.keys documents))
    (read : AreRead inputs disk documents) :
    (documents.Pairwise Apart → inputs.load disk = lowered (joined documents)) ∧
    ((Fields.keys (documents.flatMap Prod.snd)).Nodup →
      inputs.load disk = lowered (documents.flatMap Prod.snd)) ∧
    (¬ documents.Pairwise Apart → ∃ earlier path ds later name n,
      documents = earlier ++ (path, ds) :: later ∧ earlier.Pairwise Apart ∧
      (Fields.ofPairs ds).find? (fun entry => decide (entry.1 ∈ Fields.keys (joined earlier))) =
        some (name, n) ∧
      inputs.load disk = .error (declaredTwice name path)) := by
  have lowers : documents.Pairwise Apart → inputs.load disk = lowered (joined documents) := by
    intro apart
    rw [load_of_gather found, gather_of_apart read apart]
    rfl
  refine ⟨lowers, fun nodup => ?_, fun common => ?_⟩
  · obtain ⟨once, apart⟩ := apart_of_nodup nodup
    rw [lowers apart, joined_of_nodup once]
  · obtain ⟨earlier, path, ds, later, name, n, rfl, apart, first⟩ := exists_clash common
    refine ⟨earlier, path, ds, later, name, n, rfl, apart, first, ?_⟩
    rw [load_of_gather found, gather_of_clash read apart first]
    rfl

def leftText : String :=
  "\x7b\"A\":\x7b\"tag\":\"array\",\"element\":\x7b\"tag\":\"ref\",\"name\":\"B\"\x7d\x7d," ++
    "\"C\":\x7b\"tag\":\"boolean\"\x7d\x7d"

def rightText : String := "\x7b\"B\":\x7b\"tag\":\"ref\",\"name\":\"C\"\x7d\x7d"

/-- Two documents, each of which refers to the other. -/
def crossed : Disk := ⟨[], [(["left.json"], leftText), (["right.json"], rightText)], []⟩

def crossedInputs : Inputs := ⟨none, ["left.json", "right.json"]⟩

def crossedDocuments : List (String × Document) :=
  [("left.json", [("A", .array (.reference "B")), ("C", .boolean)]),
    ("right.json", [("B", .reference "C")])]

theorem areRead_crossed : AreRead crossedInputs crossed crossedDocuments := by
  rintro path ds (_ | ⟨_, _ | ⟨_, ⟨⟩⟩⟩)
  · refine ⟨leftText, by cbv, [("A", .object [("tag", .string "array"),
        ("element", .object [("tag", .string "ref"), ("name", .string "B")] none)] none),
      ("C", .object [("tag", .string "boolean")] none)], by cbv, ?_⟩
    exact .cons ⟨rfl, by cbv⟩ (.cons ⟨rfl, by cbv⟩ .nil)
  · refine ⟨rightText, by cbv,
      [("B", .object [("tag", .string "ref"), ("name", .string "C")] none)], by cbv, ?_⟩
    exact .cons ⟨rfl, by cbv⟩ .nil

/-- A reference out of each of two documents leads into the other. -/
theorem crossed_documents_load :
    crossedInputs.paths crossed = .ok (Fields.keys crossedDocuments) ∧
      AreRead crossedInputs crossed crossedDocuments ∧
      crossedInputs.load crossed = .ok [("A", .node 1 (.array (.node 0 .boolean))),
        ("C", .node 0 .boolean), ("B", .node 0 .boolean)] := by
  have found : crossedInputs.paths crossed = .ok (Fields.keys crossedDocuments) := rfl
  have nodup : (Fields.keys (crossedDocuments.flatMap Prod.snd)).Nodup := by
    simp [crossedDocuments, Fields.keys]
  have made : lowered [("A", .array (.reference "B")), ("C", .boolean), ("B", .reference "C")] =
      .ok [("A", .node 1 (.array (.node 0 .boolean))), ("C", .node 0 .boolean),
        ("B", .node 0 .boolean)] := by cbv
  obtain ⟨_, whole, _⟩ :=
    load_joins_declarations crossedInputs crossed crossedDocuments found areRead_crossed
  exact ⟨found, areRead_crossed, (whole nodup).trans made⟩

/-- A document that declares one name as two things. -/
def twiceText : String :=
  "\x7b\"A\":\x7b\"tag\":\"boolean\"\x7d,\"A\":\x7b\"tag\":\"number\"\x7d\x7d"

def twice : Disk := ⟨[], [(["a.json"], twiceText)], []⟩

def twiceInputs : Inputs := ⟨none, ["a.json"]⟩

/-- The text declares the name twice, and what is loaded has no trace of the first declaration. -/
theorem first_declaration_is_lost :
    twiceInputs.paths twice = .ok ["a.json"] ∧ twice.read "a.json" = some twiceText ∧
      Document.TextDeclares twiceText [("A", .boolean), ("A", .number)] none ∧
      twiceInputs.load twice = .ok [("A", .node 0 .number)] := by
  have present : twice.read "a.json" = some twiceText := by cbv
  have declares : Document.TextDeclares twiceText [("A", .boolean), ("A", .number)] none :=
    ⟨[("A", .object [("tag", .string "boolean")] none),
      ("A", .object [("tag", .string "number")] none)], by cbv,
      .cons ⟨rfl, by cbv⟩ (.cons ⟨rfl, by cbv⟩ .nil)⟩
  have read : AreRead twiceInputs twice [("a.json", [("A", .boolean), ("A", .number)])] := by
    rintro path ds (_ | ⟨_, ⟨⟩⟩)
    exact ⟨twiceText, present, declares⟩
  have found : twiceInputs.paths twice = .ok ["a.json"] := rfl
  have gathered : twiceInputs.gather twice [] ["a.json"] = .ok [("A", .number)] :=
    gather_of_apart read (List.pairwise_singleton _ _)
  have made : lowered [("A", .number)] = .ok [("A", .node 0 .number)] := by cbv
  refine ⟨found, present, declares, ?_⟩
  rw [load_of_gather found, gathered]
  exact made

end Inputs

end Specimen
