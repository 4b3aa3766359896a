import Specimen.Json.Mismatch
import Specimen.Json.Reader

/-!
# Run configurations

The options of a check, and how they are read. Every option has a default, so a configuration may
leave any of them out. It is an object, or the options in order as a sequence.
-/

namespace Specimen

/-- The options of one check. -/
structure RunConfig where
  /-- Trials per type. -/
  cases : Nat
  /-- The seed of a reproducible run; drawn anew when absent. -/
  seed : Option UInt64
  /-- A bound on the size of generated collections, in place of the compiler's. -/
  maxSize : Option Nat
  /-- Rejections tolerated over the whole check. -/
  maxRejects : Nat
deriving DecidableEq

namespace RunConfig

/-- Rejections tolerated by default. -/
def defaultMaxRejects : Nat := 65536

def default : RunConfig := ⟨100, none, none, defaultMaxRejects⟩

instance : Inhabited RunConfig := ⟨default⟩

def seeded (seed : UInt64) : RunConfig := { default with seed := some seed }

def withCases (config : RunConfig) (cases : Nat) : RunConfig := { config with cases := cases }

/-- A structural dump of a configuration. -/
def dump (config : RunConfig) : String :=
  let shown : Option Nat → String
    | some n => "Some(" ++ toString n ++ ")"
    | none => "None"
  "RunConfig \x7b cases: " ++ toString config.cases ++
    ", seed: " ++ shown (config.seed.map UInt64.toNat) ++
    ", max_size: " ++ shown config.maxSize ++
    ", max_rejects: " ++ toString config.maxRejects ++ " \x7d"

/-- The names of the options, in order. -/
def optionNames : List String := ["cases", "seed", "max_size", "max_rejects"]

end RunConfig

namespace Reading

/-- A whole number below `2 ^ bits`; `wanted` names what it is. -/
def asNatural (r : Reading) (bits : Nat) (wanted : String) : Except Complaint Nat :=
  match r with
  | .number (.integer i _) =>
    if 0 ≤ i ∧ i < Nat.pow 2 bits then .ok i.toNat
    else .error (.mismatch [] (.wrongValue (.integer i) wanted))
  | r => .error (r.reject wanted)

/-- The same, or null for none. -/
def asOptionalNatural (r : Reading) (bits : Nat) (wanted : String) :
    Except Complaint (Option Nat) :=
  match r with
  | .null => .ok none
  | r => (asNatural r bits wanted).map some

/-- A configuration with one option read; nothing if there is no such option. -/
def runOption? (config : RunConfig) (name : String) (r : Reading) :
    Option (Except Complaint RunConfig) :=
  if name = "cases" then
    some ((r.asNatural 32 "u32").map fun n => { config with cases := n })
  else if name = "seed" then
    some ((r.asOptionalNatural 64 "u64").map fun n => { config with seed := n.map UInt64.ofNat })
  else if name = "max_size" then
    some ((r.asOptionalNatural 64 "usize").map fun n => { config with maxSize := n })
  else if name = "max_rejects" then
    some ((r.asNatural 32 "u32").map fun n => { config with maxRejects := n })
  else none

/-- Options by name, in the order of the text; `seen` have been read. -/
def runMembers : List (String × Reading) → List String → RunConfig → Except Complaint RunConfig
  | [], _, config => .ok config
  | (name, member) :: rest, seen, config =>
    match runOption? config name member with
    | none =>
      .error (.mismatch [.member name] (.unknownField name RunConfig.optionNames))
    | some result =>
      if seen.contains name then .error (.mismatch [] (.duplicateField name))
      else
        match result with
        | .error complaint => .error (complaint.within (.member name))
        | .ok config => runMembers rest (name :: seen) config

/-- Options in order; `index` have been read. -/
def runItems : List String → Nat → List Reading → RunConfig → Except Complaint RunConfig
  | _, _, [], config => .ok config
  | [], _, _ :: _, config => .ok config
  | name :: names, index, item :: rest, config =>
    match runOption? config name item with
    | none => .ok config
    | some (.error complaint) => .error (complaint.within (.item index))
    | some (.ok config) => runItems names (index + 1) rest config

/-- A configuration. A sequence that is too long is a `surplus`. -/
def runConfig (r : Reading) (surplus : Nat → Complaint) : Except Complaint RunConfig :=
  match r with
  | .object members stop => do
    let config ← runMembers members [] .default
    match stop with
    | some fault => .error (.fault fault)
    | none => return config
  | .array items => do
    let config ← runItems RunConfig.optionNames 0 items .default
    if RunConfig.optionNames.length < items.length then .error (surplus items.length)
    else return config
  | r => .error (r.reject "struct RunConfig")

end Reading

namespace RunConfig

/-- The configuration in a text: its first JSON value, whatever follows it. -/
def read (text : String) : Except Complaint RunConfig :=
  (Json.readFirst text).1.runConfig fun _ => .fault .malformed

/-- The configuration that a JSON value says. -/
def ofJson (j : Json) : Except Complaint RunConfig :=
  j.reading.runConfig fun found =>
    .mismatch [] (.wrongLength found "fewer elements in array")

end RunConfig

end Specimen
