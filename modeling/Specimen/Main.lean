import Specimen.CommandLine.Run

/-!
# The program

Reads the command line, looks at the files that the command names, runs it, and prints what it
answers. Everything decided on the way is decided in `Specimen.CommandLine.Run`, also what is saved
and where; here a disk is put together from the files there are, and what the command did to that
disk is done to them.
-/

namespace Specimen

namespace Shell

def helpText : String :=
  "compile type descriptor documents into random value generators and check them\n\n" ++
  "Usage: specimen [-v] check -i INPUT... [OPTIONS] [--only REGEX]\n" ++
  "       specimen [-v] sample -i INPUT... [OPTIONS] --type NAME [-n COUNT] [-o FILE]\n\n" ++
  "Options: --json-pointer P, --config FILE, --cases N, --seed N, --max-size N, --max-rejects N"

def versionText : String := "specimen 0.1.0"

/-- The location that names lead to, whether or not it exists. -/
def follow (place : Location) (name : String) : Location :=
  if name = "" ∨ name = "." then place
  else if name = ".." then place.dropLast
  else place ++ [name]

/-- The locations on the way along a path, the last first. -/
def onTheWay (disk : Disk) (path : String) : List Location :=
  (Disk.names path).foldl
    (fun places name => follow (places.headD []) name :: places) [disk.origin path]

/-- A disk that knows the directories on the way along a path. -/
def knowWay (disk : Disk) (path : String) : Disk :=
  { disk with directories := disk.directories ++ (onTheWay disk path).drop 1 }

/-- A disk with the text of the file at a path, if it can be read. -/
def look (disk : Disk) (path : String) : IO Disk := do
  try
    let text ← IO.FS.readFile path
    let place := (onTheWay disk path).headD []
    let disk := knowWay disk path
    return { disk with files := Disk.put disk.files place text }
  catch _ => return disk

/-- A disk that knows the names in a directory at a location, to a depth. -/
def explore : Nat → Disk → Location → IO.FS.DirEntry → IO Disk
  | 0, disk, _, _ => return disk
  | depth + 1, disk, place, directory => do
    let entries ← try directory.path.readDir catch _ => pure #[]
    let mut disk := { disk with directories := disk.directories ++ [place] }
    for entry in entries do
      let inner := place ++ [entry.fileName]
      if ← entry.path.isDir then
        disk ← explore depth disk inner entry
      else
        disk := { disk with files := Disk.put disk.files inner "" }
    return disk

/-- How deep directories are searched for a pattern. -/
def searchDepth (pattern : String) : Nat :=
  if (pattern.splitOn "**").length = 1 then (Disk.names pattern).length else 64

/-- A disk that knows the names that a pattern may stand for. -/
def search (disk : Disk) (pattern : String) : IO Disk :=
  let start : IO.FS.DirEntry := if pattern.startsWith "/" then ⟨"/", ""⟩ else ⟨".", ""⟩
  explore (searchDepth pattern) disk (disk.origin pattern) start

/-- A disk with the texts that inputs and options are read from. -/
def gather (disk : Disk) (inputs : Inputs) (options : RunOptions) : IO Disk := do
  let mut disk := disk
  for pattern in inputs.patterns do
    if Glob.isPattern pattern then disk ← search disk pattern
  match inputs.paths disk with
  | .error _ => pure ()
  | .ok paths => for path in paths do disk ← look disk path
  match options.config with
  | none => return disk
  | some path => look disk path

/-- The path that leads to a location from anywhere. -/
def pathTo (place : Location) : String := "/" ++ String.intercalate "/" place

/-- The entry of a location in the directory around it. -/
def entryAt (place : Location) : IO.FS.DirEntry := ⟨pathTo place.dropLast, place.getLastD ""⟩

/-- A disk that knows what there is on the way to a file that may be saved. The text of the file
itself is read as well, so that a save that changes it can be told from one that does not. -/
def scout (disk : Disk) (path : String) : IO Disk :=
  (onTheWay disk path).foldlM (fun disk place => do
    if ← (entryAt place).path.isDir then
      return { disk with directories := disk.directories ++ [place] }
    else look disk (pathTo place)) disk

/-- A disk with everything that a command may ask about. -/
def survey (disk : Disk) : Command → IO Disk
  | .check inputs options _ => gather disk inputs options
  | .sample inputs options _ _ out => do
    let disk ← gather disk inputs options
    match out with
    | none => return disk
    | some path => scout disk path

/-- Does to the files there are what was done to a disk: makes the directories it has gained, and
writes the files whose texts have changed. -/
def carryOut (before after : Disk) : IO Unit := do
  for place in after.directories do
    if !before.directories.contains place then IO.FS.createDirAll (pathTo place)
  for (place, text) in after.files do
    if before.fileAt? place != some text then IO.FS.writeFile (pathTo place) text

/-- Prints what a command answers, and says how the program ends. -/
def report (outcome : Outcome) : IO UInt32 := do
  for line in outcome.output do IO.println line
  for line in outcome.messages Cause.message do IO.eprintln line
  return outcome.exitCode.toUInt32

/-- Runs a command on the files there are. What the command decided to save is carried out before
anything is reported; should the system refuse it, the command has failed for that reason. -/
def perform (command : Command) : IO UInt32 := do
  let current := (Disk.names (← IO.currentDir).toString).filter fun name => !name.isEmpty
  let disk ← survey ⟨current, [], []⟩ command
  let bytes ← IO.getRandomBytes 8
  let fresh := Choices.seeded (bytes.toList.foldl (fun word byte => word * 256 + byte.toUInt64) 0)
  let outcome := command.run disk fresh
  let refusal ← (carryOut disk outcome.disk).toBaseIO
  match refusal with
  | .ok () => report outcome
  | .error e => report { outcome with result := .error (.account [.text (toString e)]) }

end Shell

end Specimen

open Specimen

/-- The program: exit code 0 when it succeeds, 1 when a check fails, 2 when it cannot do its work. -/
def main (words : List String) : IO UInt32 := do
  match Arguments.parse words with
  | .error .displayHelp => do
    IO.println Shell.helpText
    return 0
  | .error .displayVersion => do
    IO.println Shell.versionText
    return 0
  | .error e => do
    IO.eprintln ("error: " ++ e.message ++ "\n\n" ++ Shell.helpText)
    return e.exitCode.toUInt32
  | .ok invocation => Shell.perform invocation.command
