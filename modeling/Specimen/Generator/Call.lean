import Specimen.Generator.Draw
import Specimen.Value.Display

/-!
# Calling callables

A callable answers any arguments with a JSON-like value that its seed and the arguments settle, so
the same call has the same answer. The seed and the texts of the arguments are laid out as bytes,
each text ended by bytes that no text holds; a digest of the bytes seeds one draw.
-/

namespace Specimen

namespace Callable

/-- The eight bytes of a word, least first. -/
def wordBytes (word : UInt64) : List UInt8 :=
  (List.range 8).map fun i => UInt8.ofNat (word.toNat >>> (8 * i))

/-- The bytes of an argument: its text, and two bytes that end it. -/
def argumentBytes (v : Value) : List UInt8 := v.display.toUTF8.toList ++ [0xFF, 0xFF]

/-- The bytes of a call. -/
def callBytes (c : Callable) (args : List Value) : List UInt8 :=
  wordBytes c.seed ++ args.flatMap argumentBytes

/-- A digest of bytes. -/
def digest (bytes : List UInt8) : UInt64 :=
  bytes.foldl (fun state byte => scatter ((state ^^^ byte.toUInt64) + goldenStep)) 0

/-- The answer to arguments. -/
def call (c : Callable) (args : List Value) : Value :=
  let source : Source := ⟨.seeded (digest (c.callBytes args)), 0⟩
  match (Generator.json Generator.jsonDepth).next source .start with
  | (.ok v, _) => v
  | (.error _, _) => .null

end Callable

end Specimen
