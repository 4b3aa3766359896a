/-!
# Choices

The randomness of a run is a stream of sixty-four-bit words, one at each position. Everything drawn
is a function of the stream and of the position reached, so a seed settles a run, and what holds for
every stream holds for every seed.
-/

namespace Specimen

/-- A stream of random words. -/
abbrev Choices := Nat → UInt64

/-- A word scattered over all words: two rounds of shifting and multiplying, each undone by none. -/
def scatter (z : UInt64) : UInt64 :=
  let z := (z ^^^ (z >>> 30)) * 0xBF58476D1CE4E5B9
  let z := (z ^^^ (z >>> 27)) * 0x94D049BB133111EB
  z ^^^ (z >>> 31)

/-- The odd number nearest to the golden section of all words, which spreads multiples evenly. -/
def goldenStep : UInt64 := 0x9E3779B97F4A7C15

/-- The stream of a seed. -/
def Choices.seeded (seed : UInt64) : Choices := fun position =>
  scatter (scatter seed + UInt64.ofNat (position + 1) * goldenStep)

end Specimen
