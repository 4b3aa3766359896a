import Specimen.Unicode.CharSet

/-!
# Characters as bytes

A machine reads bytes. A set of characters becomes rows of ranges of bytes, in the order of their
codes. Forwards, states from which the same rows lead on are one state (`ByteRow.state`); backwards, rows
share the states of the bytes in front (`ByteRow.Sharing`), as far as these are remembered.
-/

namespace Specimen

/-- A run of ranges of bytes, one for each byte of a character's encoding. -/
abbrev ByteRow := List (Nat × Nat)

namespace ByteRow

/-- The bytes of a code's encoding. -/
def encode (code : Nat) : List Nat :=
  if code < 0x80 then [code]
  else if code < 0x800 then [0xC0 + code / 64, 0x80 + code % 64]
  else if code < 0x10000 then
    [0xE0 + code / 4096, 0x80 + code / 64 % 64, 0x80 + code % 64]
  else
    [0xF0 + code / 262144, 0x80 + code / 4096 % 64, 0x80 + code / 64 % 64, 0x80 + code % 64]

/-- Where a range of codes has to be cut so that its encodings form rows: the last code of the first
part. Encodings of one length first, then those that agree in all but the last bytes. -/
def cut? (first last : Nat) : Option Nat :=
  let lengths := [0x7F, 0x7FF, 0xFFFF].filter fun most => first ≤ most && most < last
  match lengths with
  | most :: _ => some most
  | [] =>
    if last < 0x80 then none
    else
      let cuts := [64, 4096, 262144].filterMap fun unit =>
        if first / unit = last / unit then none
        else if first % unit ≠ 0 then some (first / unit * unit + unit - 1)
        else if last % unit ≠ unit - 1 then some (last / unit * unit - 1)
        else none
      cuts.head?

/-- The rows of a range of codes, each of which stands for a character. -/
def ofRange : Nat → Nat → Nat → List ByteRow
  | 0, _, _ => []
  | fuel + 1, first, last =>
    match cut? first last with
    | some most => ofRange fuel first most ++ ofRange fuel (most + 1) last
    | none => [(encode first).zip (encode last)]

/-- The codes that stand for no character. -/
def noCharacter : CharSet := .ofRange 0xD800 0xDFFF

/-- The rows of a set. -/
def ofSet (set : CharSet) : List ByteRow :=
  (set.diff noCharacter).ranges.flatMap fun range => ofRange 32 range.1 range.2

/-! ## Forwards -/

/-- The rows by their first range, each with what follows it. -/
def byHead : List ByteRow → List ((Nat × Nat) × List ByteRow)
  | [] => []
  | [] :: rest => byHead rest
  | (range :: tail) :: rest =>
    match byHead rest with
    | (other, tails) :: more =>
      if range = other then (range, tail :: tails) :: more
      else (range, [tail]) :: (other, tails) :: more
    | [] => [(range, [tail])]

/-- The ways on from a state: ranges of bytes, each with the state it leads to. -/
abbrev Ways := List ((Nat × Nat) × Nat)

/-- The number of a state in a table to which it is added if it is not there. -/
def intern (ways : Ways) (table : List Ways) : Nat × List Ways :=
  match table.reverse.idxOf? ways with
  | some i => (i + 1, table)
  | none => (table.length + 1, ways :: table)

mutual

/-- The state from which rows lead to the end, which has the number 0; at most `depth` bytes deep. -/
def state : Nat → List ByteRow → List Ways → Nat × List Ways
  | 0, _, table => (0, table)
  | depth + 1, rows, table =>
    if rows.all List.isEmpty then (0, table)
    else
      let (ways, table) := waysOf depth (byHead rows) table
      intern ways table

def waysOf (depth : Nat) : List ((Nat × Nat) × List ByteRow) → List Ways → Ways × List Ways
  | [], table => ([], table)
  | (range, tails) :: rest, table =>
    let (next, table) := state depth tails table
    let (ways, table) := waysOf depth rest table
    ((range, next) :: ways, table)

end

/-- The ways on from each state forwards. -/
def forwards (set : CharSet) : List Ways := (state 5 (ofSet set) []).2

/-! ## Backwards -/

/-- A state that a range of bytes leads to from another. -/
structure Shared where
  source : Nat
  range : Nat × Nat
  state : Nat

/-- The number of states of a machine so far, and the states of a set that are remembered. There are so
many cells to remember them in, and of two states in one cell the earlier is forgotten. -/
structure Sharing where
  states : Nat
  cells : Array (Option Shared)

namespace Sharing

def cellCount : Nat := 1000

/-- The cell of a state: its number after mixing, step by step, what leads to it. -/
def cell (source : Nat) (range : Nat × Nat) : Nat :=
  let mix (h : UInt64) (n : Nat) : UInt64 := (h ^^^ UInt64.ofNat n) * 1099511628211
  (mix (mix (mix 14695981039346656037 source) range.1) range.2).toNat % cellCount

def start (states : Nat) : Sharing := ⟨states, Array.replicate cellCount none⟩

/-- The state that a range leads to, which is a new one unless it is remembered. -/
def next (s : Sharing) (source : Nat) (range : Nat × Nat) : Nat × Sharing :=
  let i := cell source range
  match s.cells[i]? with
  | some (some found) =>
    if found.source = source ∧ found.range = range then (found.state, s) else fresh i
  | _ => fresh i
where
  fresh (i : Nat) : Nat × Sharing :=
    (s.states, ⟨s.states + 1, s.cells.setIfInBounds i (some ⟨source, range, s.states⟩)⟩)

/-- The states of a row added, from the state that all rows start at. -/
def add (start : Nat) (s : Sharing) (row : ByteRow) : Sharing :=
  (row.foldl (fun (place : Nat × Sharing) range => place.2.next place.1 range) (start, s)).2

end Sharing

/-- The number of states there are when rows have been added to so many, the last of which all rows
start at. -/
def statesAfter (states : Nat) (rows : List ByteRow) : Nat :=
  (rows.foldl (Sharing.add (states - 1)) (.start states)).states

end ByteRow

end Specimen
