import Specimen.Proofs.Document.Loading

/-!
# What a text declares

A text may declare a name more than once. Loading it keeps, for each name, the first place and the last
node (`load_of_textDeclares`), and says nothing of the others. So what is declared is read off the text
itself, members in its order and repeated ones included (`TextDeclares`), before a value is made of it.

A pointer leads through the reading of a text to the same part as through its value
(`follow?_settle`): of a member that is named twice, to the last.
-/

namespace Specimen

namespace Reading

/-- The part of a reading that steps lead to; of a member that is named twice, the last one. -/
def follow? : List String → Reading → Option Reading
  | [], r => some r
  | step :: steps, .object members _ =>
    (Fields.get? (Fields.ofPairs members) step).bind (follow? steps)
  | step :: steps, .array items =>
    (Json.stepIndex? step).bind fun i => items[i]?.bind (follow? steps)
  | _ :: _, _ => none

/-- Where steps lead in a reading, they lead in its value, to the value there. -/
theorem follow?_settle (steps : List String) : ∀ {r part : Reading} {j : Json},
    r.settle = .ok j → r.follow? steps = some part →
      ∃ k, part.settle = .ok k ∧ j.follow? steps = some k := by
  induction steps with
  | nil =>
    intro r part j settled led
    cases led
    exact ⟨j, settled, rfl⟩
  | cons step steps ih =>
    intro r part j settled led
    cases r with
    | object members stop =>
      obtain ⟨_, js, each, rfl⟩ := settle_object_eq_ok.mp settled
      obtain ⟨member, found, led⟩ := Option.bind_eq_some_iff.mp led
      obtain ⟨j, there, settled⟩ := each.ofPairs.get? found
      obtain ⟨k, ends, further⟩ := ih settled led
      exact ⟨k, ends, Option.bind_eq_some_iff.mpr ⟨j, there, further⟩⟩
    | array items =>
      obtain ⟨js, each, rfl⟩ := settle_array_eq_ok.mp settled
      obtain ⟨i, counted, led⟩ := Option.bind_eq_some_iff.mp led
      obtain ⟨item, found, led⟩ := Option.bind_eq_some_iff.mp led
      obtain ⟨j, there, settled⟩ := each.exists_getElem? found
      obtain ⟨k, ends, further⟩ := ih settled led
      refine ⟨k, ends, Option.bind_eq_some_iff.mpr ⟨i, counted, ?_⟩⟩
      exact Option.bind_eq_some_iff.mpr ⟨j, there, further⟩
    | _ => cases led

end Reading

namespace Document

/-- What a text declares, at a pointer if there is one: the members in the order of the text, repeated
names included, each with the node that it says. -/
def TextDeclares (text : String) (ds : List (String × Node)) : Option String → Prop
  | none => ∃ members, (Json.readFirst text).1 = .object members none ∧
      Fields.Alike (fun r n => r.node .declared = .ok n) members ds
  | some pointer => ∃ j steps members, Json.parse text = .ok j ∧
      Json.pointerSteps? pointer = some steps ∧
      (Json.readFirst text).1.follow? steps = some (.object members none) ∧
      Fields.Alike (fun r n => ∃ j, r.settle = .ok j ∧ j.reading.node .declared = .ok n) members ds

/-- A document is loaded with the first place and the last node of each name that is declared. -/
theorem load_of_textDeclares {text : String} {ds : List (String × Node)} :
    ∀ {pointer : Option String}, TextDeclares text ds pointer →
      load text pointer = .ok (Fields.ofPairs ds)
  | none, ⟨members, read, each⟩ => by
    rw [load, read, Reading.document_object_eq_ok.mpr ⟨rfl, ds, each, rfl⟩]
    rfl
  | some pointer, ⟨j, steps, members, parsed, stepped, led, each⟩ => by
    obtain ⟨first, rest, ran, settled⟩ := Json.settle_of_parse parsed
    rw [ran] at led
    obtain ⟨k, whole, selected⟩ := Reading.follow?_settle steps settled led
    obtain ⟨_, js, values, rfl⟩ := Reading.settle_object_eq_ok.mp whole
    have same : Fields.Alike (fun k n => k.reading.node .declared = .ok n) js ds := by
      refine (values.flip.comp each).imp ?_
      rintro ⟨_, k⟩ ⟨_, n⟩ ⟨⟨_, r⟩, ⟨rfl, value⟩, rfl, k', again, read⟩
      cases value.symm.trans again
      exact ⟨rfl, read⟩
    have said : Fields.Alike (fun r n => r.node .declared = .ok n)
        (Json.readingMembers (Fields.ofPairs js)) (Fields.ofPairs ds) := by
      rw [Json.readingMembers_eq]
      exact List.forall₂_map_left_iff.mpr same.ofPairs
    have read : ofJson (.object (Fields.ofPairs js)) = .ok (Fields.ofPairs ds) := by
      rw [ofJson, Json.reading, Reading.document_object_eq_ok]
      exact ⟨rfl, _, said, (Fields.ofPairs_of_nodup (Fields.keys_ofPairs_nodup ds)).symm⟩
    have found : j.select? pointer = some (.object (Fields.ofPairs js)) :=
      Option.bind_eq_some_iff.mpr ⟨steps, stepped, selected⟩
    rw [load, parsed]
    simp only [found, read]
    rfl

end Document

end Specimen
