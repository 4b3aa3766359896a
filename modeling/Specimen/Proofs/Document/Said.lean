import Mathlib
import Specimen.Document.Lowering
import Specimen.Proofs.Descriptor.Said
import Specimen.Proofs.Fields

/-!
# Documents declare types that judge by JSON

Whatever lowering makes judges by JSON: literals stand in the document as JSON, and predicates are
programs, which are run on the JSON of a value. So what a declared type accepts it accepts of the value
that its JSON denotes (`declared_guard_said`).
-/

namespace Specimen

/-- A program is run on the JSON of a value, so it makes no other difference. -/
theorem Program.predicate_seesJson (p : Program) : p.predicate.SeesJson := by
  intro v w same
  change p.test v = p.test w
  unfold Program.test
  rw [same]

namespace Lowering

/-- Only types that judge by JSON are remembered. -/
def RemembersSeeing (state : Lowered) : Prop := ∀ entry ∈ state.done, entry.2.SeesJson

/-- A part of lowering that remembers such types only and comes, if it succeeds, to what is good. -/
def Makes {α : Type} (part : Lowering α) (good : α → Prop) : Prop :=
  ∀ state, RemembersSeeing state → ∀ a after, part.run state = .ok (a, after) →
    RemembersSeeing after ∧ good a

namespace Makes

variable {α β : Type} {good : α → Prop} {other : β → Prop} {part : Lowering α}

theorem pure {a : α} (isGood : good a) : Makes (pure a) good := by
  rintro state seeing _ _ ⟨⟩
  exact ⟨seeing, isGood⟩

/-- What comes first may be relied upon in what comes after. -/
theorem bind {next : α → Lowering β} (before : Makes part good)
    (after : ∀ a, good a → Makes (next a) other) : Makes (part >>= next) other := by
  intro state seeing b last ran
  rw [StateT.run_bind] at ran
  cases first : part.run state with
  | error e =>
    rw [first] at ran
    cases ran
  | ok done =>
    rw [first] at ran
    obtain ⟨seeing, isGood⟩ := before state seeing done.1 done.2 first
    exact after done.1 isGood done.2 seeing b last ran

/-- In which scope a part stands matters to errors only. -/
theorem within {scope : LoweringScope} (before : Makes part good) :
    Makes (within scope part) good := by
  intro state seeing a after ran
  change (part.run state).mapError (LoweringError.within scope) = .ok (a, after) at ran
  cases first : part.run state with
  | error e =>
    rw [first] at ran
    cases ran
  | ok done =>
    rw [first] at ran
    cases ran
    exact before state seeing a after first

/-- A part that never succeeds makes nothing, so nothing that is not good. -/
theorem fail {cause : LoweringCause} : Makes (fail cause : Lowering α) good :=
  fun _ _ _ _ => nofun

/-- Reading programs touches nothing that is remembered. -/
theorem program (source : String) : Makes (program source) fun _ => True := by
  unfold Lowering.program
  cases Program.compile source with
  | ok p => exact pure trivial
  | error e => exact fail

theorem correction (source : Option String) : Makes (correction source) fun _ => True := by
  cases source with
  | none => exact pure trivial
  | some source => exact (program source).within.bind fun _ _ => pure trivial

/-- A new node judges by JSON if its shape and its parts do. -/
theorem make {shape : Shape} (here : shape.SeesJson)
    (parts : ∀ part ∈ shape.consulted, part.SeesJson) :
    Makes (fresh (Descriptor.make shape)) Descriptor.SeesJson := by
  rintro state seeing _ _ ⟨⟩
  exact ⟨seeing, Descriptor.throughout_node.mpr ⟨here, parts⟩⟩

/-- Fields that are named twice are told apart before the node is made. -/
theorem parts_of_fields {fields : List (String × Descriptor)}
    (see : ∀ field ∈ fields, field.2.SeesJson) :
    ∀ part ∈ (Fields.ofPairs fields).map Prod.snd, part.SeesJson := by
  intro part mem
  obtain ⟨_, among, rfl⟩ := List.mem_map.mp mem
  exact see _ (Fields.mem_ofPairs among)

/-- What is remembered is all good, and may be used. -/
theorem get {next : Lowered → Lowering β}
    (each : ∀ state, RemembersSeeing state → Makes (next state) other) :
    Makes (get >>= next) other :=
  fun state seeing => each state seeing state seeing

theorem remember {name : String} {t : Descriptor} (sees : t.SeesJson) :
    Makes (do modify fun state => { state with done := state.done ++ [(name, t)] }; return t)
      Descriptor.SeesJson := by
  rintro state seeing _ _ ⟨⟩
  refine ⟨?_, sees⟩
  intro entry mem
  rcases List.mem_append.mp mem with mem | mem
  · exact seeing entry mem
  · rw [List.mem_singleton.mp mem]
    exact sees

end Makes

/-! ## Nodes -/

section Nodes

variable {resolve : String → Lowering Descriptor}

mutual

/-- Every node becomes a type that judges by JSON, by induction on it. A reference becomes what its
name is remembered or lowered as. -/
theorem node_makes (resolved : ∀ name, Makes (resolve name) Descriptor.SeesJson) :
    ∀ n : Node, Makes (node resolve n) Descriptor.SeesJson
  | .always => .make trivial nofun
  | .boolean => .make trivial nofun
  | .number => .make trivial nofun
  | .string => .make trivial nofun
  | .void => .make trivial nofun
  | .function => .make trivial nofun
  | .literal value => .make ⟨value, rfl⟩ nofun
  | .array element =>
    (node_makes resolved element).bind fun _ sees =>
      .make trivial (List.forall_mem_singleton.mpr sees)
  | .tuple components => (nodes_makes resolved components).bind fun _ see => .make trivial see
  | .dictionary value =>
    (node_makes resolved value).bind fun _ sees =>
      .make trivial (List.forall_mem_singleton.mpr sees)
  | .record fields =>
    (namedFields_makes resolved fields).bind fun _ see => .make trivial (Makes.parts_of_fields see)
  | .partialRecord fields =>
    (namedFields_makes resolved fields).bind fun _ see => .make trivial (Makes.parts_of_fields see)
  | .union alternatives =>
    (nodes_makes resolved alternatives).bind fun _ see => .make trivial see
  | .intersect intersectees =>
    (nodes_makes resolved intersectees).bind fun _ see => .make trivial see
  | .reference name => resolved name
  | .constraint underlying predicate correction none =>
    (node_makes resolved underlying).bind fun _ sees =>
      (Makes.program predicate).bind fun p _ =>
      (Makes.correction correction).bind fun _ _ =>
        .make p.predicate_seesJson (List.forall_mem_singleton.mpr sees)
  | .constraint underlying predicate correction (some ⟨_, _, types⟩) =>
    (node_makes resolved underlying).bind fun _ sees =>
      (Makes.program predicate).bind fun p _ =>
      (Makes.correction correction).bind fun _ _ =>
      (namedTypes_makes resolved types).bind fun _ _ =>
        .make p.predicate_seesJson (List.forall_mem_singleton.mpr sees)
  | .extension _ guard _ =>
    (Makes.program guard).bind fun p _ => .make p.predicate_seesJson nofun

/-- Every node of a list does. -/
theorem nodes_makes (resolved : ∀ name, Makes (resolve name) Descriptor.SeesJson) :
    ∀ ns : List Node, Makes (nodes resolve ns) fun ts => ∀ t ∈ ts, t.SeesJson
  | [] => .pure nofun
  | n :: rest =>
    (node_makes resolved n).bind fun _ sees =>
      (nodes_makes resolved rest).bind fun _ see => .pure (List.forall_mem_cons.mpr ⟨sees, see⟩)

/-- Every field does. -/
theorem namedFields_makes (resolved : ∀ name, Makes (resolve name) Descriptor.SeesJson) :
    ∀ fields : List (String × Node), Makes (namedFields resolve fields) fun ts => ∀ entry ∈ ts, entry.2.SeesJson
  | [] => .pure nofun
  | (_, n) :: rest =>
    (node_makes resolved n).within.bind fun _ sees =>
      (namedFields_makes resolved rest).bind fun _ see =>
        .pure (List.forall_mem_cons.mpr ⟨sees, see⟩)

/-- And every type of some arguments, though no guard ever asks these. -/
theorem namedTypes_makes (resolved : ∀ name, Makes (resolve name) Descriptor.SeesJson) :
    ∀ types : List (String × Node), Makes (namedTypes resolve types) fun ts => ∀ entry ∈ ts, entry.2.SeesJson
  | [] => .pure nofun
  | (_, n) :: rest =>
    (node_makes resolved n).bind fun _ sees =>
      (namedTypes_makes resolved rest).bind fun _ see =>
        .pure (List.forall_mem_cons.mpr ⟨sees, see⟩)

end

end Nodes

/-! ## Documents -/

/-- The induction is on how many more names may be in progress. -/
theorem named_makes {document : Document} : ∀ {left : Nat} {active : List String} {name : String},
    Makes (named document left active name) Descriptor.SeesJson
  | left, active, name => by
    unfold named
    refine .get fun state seeing => ?_
    split
    case h_1 found remembered => exact .pure (seeing _ (Fields.mem_of_get? remembered))
    split
    case isTrue => exact .fail
    split
    case h_1 => exact .fail
    case h_2 => exact .fail
    case h_3 declaration left declared =>
      exact (node_makes (fun _ => named_makes) declaration).within.bind fun _ sees => .remember sees

/-- Every declaration of a document does. -/
theorem each_makes {document : Document} : ∀ names : List String,
    Makes (each document names) fun types => ∀ entry ∈ types, entry.2.SeesJson
  | [] => .pure nofun
  | _ :: rest =>
    named_makes.bind fun _ sees =>
      (each_makes rest).bind fun _ see => .pure (List.forall_mem_cons.mpr ⟨sees, see⟩)

end Lowering

namespace Document

/-- All types that a document declares judge by JSON. -/
theorem seesJson_of_lower {document : Document} {nextId last : Nat}
    {types : List (String × Descriptor)} (lowered : document.lower nextId = .ok (types, last)) :
    ∀ entry ∈ types, entry.2.SeesJson := by
  unfold lower at lowered
  split at lowered
  case h_1 types' state ran =>
    cases lowered
    exact (Lowering.each_makes _ _ (fun _ mem => absurd mem List.not_mem_nil) _ _ ran).2
  case h_2 => cases lowered

/-- The JSON of a value that a declared type accepts denotes a value that it accepts, unless the type
asks for functions somewhere. The value may hold undefined and callables anywhere, but numbers that
JSON cannot say nowhere; and an object holds each name once. -/
theorem declared_guard_said {document : Document} {nextId last : Nat}
    {types : List (String × Descriptor)} (lowered : document.lower nextId = .ok (types, last))
    {name : String} {t : Descriptor} (declared : (name, t) ∈ types)
    (silent : t.IsSilent) {v : Value} (tidy : v.isTidy = true)
    (finite : v.isFinite = true) (accepted : t.guard v = true) :
    t.guard v.json.value = true :=
  Descriptor.guard_said (seesJson_of_lower lowered _ declared) silent v tidy finite accepted

/-- A reading, whose mark may be anything, whose notes may be missing, and whose unit is declared by
itself. -/
def readings : Document :=
  [("Reading", .record
      [("unit", .reference "Unit"), ("mark", .always),
        ("notes", .array (.union [.string, .void]))]),
    ("Unit", .union [.literal (.string "mm"), .partialRecord [("scale", .number)]])]

/-- The types that the readings declare. -/
def readingTypes : List (String × Descriptor) :=
  let unit : Descriptor := .node 3 (.union
    [.node 0 (.literal (.string "mm")), .node 2 (.partialRecord [("scale", .node 1 .number)])])
  let reading : Descriptor := .node 9 (.record
    [("unit", unit), ("mark", .node 4 .always),
      ("notes", .node 8 (.array (.node 7 (.union [.node 5 .string, .node 6 .void]))))])
  [("Reading", reading), ("Unit", unit)]

/-- A value of which JSON says less: a member is callable, one is undefined, and so is a note. -/
def looseReading : Value :=
  .object [("mark", .callable ⟨7⟩), ("unit", .object [("scale", .undefined)]),
    ("notes", .array [.string "dry", .undefined])]

/-- A loose reading is said as another one, and this is a reading still. -/
theorem loose_reading_said : ∃ reading, readings.lower 0 = .ok (readingTypes, 10) ∧
    ("Reading", reading) ∈ readingTypes ∧ reading.guard looseReading = true ∧
    looseReading.json.value = .object
      [("unit", .object []), ("notes", .array [.string "dry", .null])] ∧
    reading.guard looseReading.json.value = true := by
  have lowered : readings.lower 0 = .ok (readingTypes, 10) := by cbv
  refine ⟨_, lowered, List.mem_cons_self, rfl, rfl, ?_⟩
  refine declared_guard_said lowered List.mem_cons_self ?_ (by decide) (by decide) rfl
  simp [Descriptor.IsSilent, Descriptor.throughout_node, Shape.consulted, Shape.parts,
    Descriptor.tag, Descriptor.shape, Shape.tag]

end Document

end Specimen
