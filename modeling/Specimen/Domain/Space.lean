import Specimen.Document.Node
import Specimen.Descriptor.Basic

/-!
# Space objects

Asteroids, planets and ships: as descriptors made node by node, and as a document that declares the
same types by name. In both, the vector is one node wherever a location occurs, and so are the planet
and the rank.
-/

namespace Specimen

/-- The literal of a text. -/
def Descriptor.word (text : String) : Fresh Descriptor := make (.literal (.string text))

/-- The literal of a text, declared. -/
def Node.text (s : String) : Node := .literal (.string s)

/-- A literal for each text. -/
def Descriptor.words (texts : List String) : Fresh (List Descriptor) := texts.mapM word

/-- The types of space objects. -/
structure Space where
  vector : Descriptor
  asteroid : Descriptor
  planet : Descriptor
  rank : Descriptor
  crewMember : Descriptor
  ship : Descriptor
  spaceObject : Descriptor

namespace Space

def ranks : List String := ["captain", "first mate", "officer", "ensign"]

/-- The types, all made anew. -/
def make : Fresh Space := do
  let number := Descriptor.make .number
  let vector ← Descriptor.make (.tuple [← number, ← number, ← number])
  let asteroid ← Descriptor.record
    [("type", ← Descriptor.word "asteroid"), ("location", vector), ("mass", ← number)]
  let planet ← Descriptor.record
    [("type", ← Descriptor.word "planet"), ("location", vector), ("mass", ← number),
      ("population", ← number), ("habitable", ← Descriptor.make .boolean)]
  let rank ← Descriptor.make (.union (← Descriptor.words ranks))
  let crewMember ← Descriptor.record
    [("name", ← Descriptor.make .string), ("age", ← number), ("rank", rank), ("home", planet)]
  let ship ← Descriptor.record
    [("type", ← Descriptor.word "ship"), ("location", vector), ("mass", ← number),
      ("name", ← Descriptor.make .string), ("crew", ← Descriptor.make (.array crewMember))]
  let spaceObject ← Descriptor.make (.union [asteroid, planet, ship])
  return ⟨vector, asteroid, planet, rank, crewMember, ship, spaceObject⟩

/-- The types as declarations, with positive numbers made in two ways: by repair and by rejection. -/
def document : Document :=
  [("Vector", .tuple [.number, .number, .number]),
    ("Asteroid", .record
      [("type", .text "asteroid"), ("location", .reference "Vector"), ("mass", .number)]),
    ("Planet", .record
      [("type", .text "planet"), ("location", .reference "Vector"), ("mass", .number),
        ("population", .number), ("habitable", .boolean)]),
    ("Rank", .union (ranks.map Node.text)),
    ("CrewMember", .record
      [("name", .string), ("age", .number), ("rank", .reference "Rank"),
        ("home", .reference "Planet")]),
    ("Ship", .record
      [("type", .text "ship"), ("location", .reference "Vector"), ("mass", .number),
        ("name", .string), ("crew", .array (.reference "CrewMember"))]),
    ("SpaceObject", .union [.reference "Asteroid", .reference "Planet", .reference "Ship"]),
    ("Positive",
      .constraint .number ". > 0" (some "if . > 0 then . else 3 end") none),
    ("PositiveByRejection", .constraint .number ". > 0" none none)]

end Space

end Specimen
