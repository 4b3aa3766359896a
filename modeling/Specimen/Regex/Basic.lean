import Specimen.Unicode.Property

/-!
# Regular expressions

An expression, and whether it matches somewhere in a text. Matching follows all ways at once: an
expression takes a set of places in the text to the set of places that it leads to from any of them
(`Motion.run`). Repetition repeats that; a text has only so many places, so as many rounds as there are
places, and two, settle any repetition.
-/

namespace Specimen

/-- What holds between two characters, or at an end of a text. Edges of words are told by all letters,
digits and marks or, if so asked, by those below 128 alone. -/
inductive Edge
  | textStart | textEnd | lineStart | lineEnd
  /-- Lines end in a line feed, a carriage return, or both in turn. -/
  | anyLineStart | anyLineEnd
  | wordEdge (ascii : Bool) | noWordEdge (ascii : Bool)
  | wordStart (ascii : Bool) | wordEnd (ascii : Bool)
  /-- No word character stands before the place. -/
  | wordStartHalf (ascii : Bool)
  /-- No word character stands after the place. -/
  | wordEndHalf (ascii : Bool)
deriving DecidableEq

/-- A regular expression. -/
inductive Regex
  | empty
  /-- One character of a set. -/
  | one (set : CharSet)
  | edge (edge : Edge)
  | seq (first second : Regex)
  | either (first second : Regex)
  /-- At least `least` times, and at most `most` times if that is given; `lazy` asks for few rounds
  rather than many, which tells one match from another but not whether there is one. -/
  | repeated (body : Regex) (least : Nat) (most : Option Nat) (lazy : Bool)
  /-- A group; what a captured one matches could be asked for. -/
  | group (captured : Bool) (body : Regex)

/-- One expression after another. -/
def Regex.followedBy (first second : Regex) : Regex :=
  match first, second with
  | .empty, second => second
  | first, .empty => first
  | first, second => .seq first second

/-! ## Edges -/

namespace Edge

/-- The digits, letters and low line below 128. -/
def asciiWord : CharSet := .ofRanges [(0x30, 0x39), (0x41, 0x5A), (0x5F, 0x5F), (0x61, 0x7A)]

/-- The characters of words. -/
def word (ascii : Bool) : CharSet := if ascii then asciiWord else Unicode.Property.word

/-- Whether some character is there and belongs to a set. -/
def isIn (set : CharSet) (code : Option Nat) : Bool :=
  match code with
  | some code => set.contains code
  | none => false

/-- Whether an edge is at a place, by the characters before and after it. -/
def holds (e : Edge) : Option Nat → Option Nat → Bool :=
  match e with
  | textStart => fun before _ => before.isNone
  | textEnd => fun _ after => after.isNone
  | lineStart => fun before _ => before.isNone || before == some 10
  | lineEnd => fun _ after => after.isNone || after == some 10
  | anyLineStart => fun before after =>
    before.isNone || before == some 10 || (before == some 13 && after != some 10)
  | anyLineEnd => fun before after =>
    after.isNone || after == some 13 || (after == some 10 && before != some 13)
  | wordEdge ascii =>
    let word := word ascii
    fun before after => isIn word before != isIn word after
  | noWordEdge ascii =>
    let word := word ascii
    fun before after => isIn word before == isIn word after
  | wordStart ascii =>
    let word := word ascii
    fun before after => !isIn word before && isIn word after
  | wordEnd ascii =>
    let word := word ascii
    fun before after => isIn word before && !isIn word after
  | wordStartHalf ascii =>
    let word := word ascii
    fun before _ => !isIn word before
  | wordEndHalf ascii =>
    let word := word ascii
    fun _ after => !isIn word after

end Edge

/-! ## Sets of places -/

/-- A set of places in a text: the natural whose binary digits tell which places it holds. -/
abbrev Places := Nat

/-- The places whose answer is true. -/
def Places.ofList : List Bool → Places
  | [] => 0
  | here :: rest => here.toNat + 2 * ofList rest

/-- How a set of places moves through a text of a certain length. -/
inductive Motion
  | stay
  /-- From each of the places that can be left to the next one. -/
  | step (left : Places)
  /-- Only some places are kept. -/
  | keep (places : Places)
  | seq (first second : Motion)
  | either (first second : Motion)
  | repeated (body : Motion) (least : Nat) (most : Option Nat)

namespace Motion

/-- So many moves one after the other. -/
def iterate (move : Places → Places) : Nat → Places → Places
  | 0, places => places
  | rounds + 1, places => if places = 0 then 0 else iterate move rounds (move places)

/-- Some places with all that at most so many moves lead to. -/
def grow (move : Places → Places) : Nat → Places → Places
  | 0, places => places
  | rounds + 1, places =>
    let more := places ||| move places
    if more = places then places else grow move rounds more

/-- The places that some places lead to; `rounds` is enough for any repetition. -/
def run (rounds : Nat) : Motion → Places → Places
  | stay, places => places
  | step left, places => (places &&& left) <<< 1
  | keep kept, places => places &&& kept
  | seq first second, places => run rounds second (run rounds first places)
  | either first second, places => run rounds first places ||| run rounds second places
  | repeated body least most, places =>
    let started := iterate (run rounds body) (min least rounds) places
    match most with
    | none => grow (run rounds body) rounds started
    | some most => grow (run rounds body) (min (most - least) rounds) started

end Motion

namespace Regex

/-- The codes before and after each place of a text. -/
def neighbours (codes : List Nat) : List (Option Nat × Option Nat) :=
  (none :: codes.map some).zip (codes.map some ++ [none])

/-- How an expression moves through a text. -/
def motion (codes : List Nat) : Regex → Motion
  | empty => .stay
  | one set => .step (.ofList (codes.map set.contains))
  | edge e =>
    let here := e.holds
    .keep (.ofList ((neighbours codes).map fun (before, after) => here before after))
  | seq first second => .seq (motion codes first) (motion codes second)
  | either first second => .either (motion codes first) (motion codes second)
  | repeated body least most _ => .repeated (motion codes body) least most
  | group _ body => motion codes body

/-- Whether an expression matches somewhere in a text. -/
def isMatch (r : Regex) (text : String) : Bool :=
  let codes := text.toList.map Char.toNat
  let places : Places := Nat.pow 2 (codes.length + 1) - 1
  (r.motion codes).run (codes.length + 2) places != 0

end Regex

end Specimen
