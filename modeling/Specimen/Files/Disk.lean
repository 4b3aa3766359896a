/-!
# Disks

The files that a program sees: texts at locations, some directories, and the directory that relative
paths start from. A location is the list of names on the way from the root; a path is the text that a
user writes for one. Every directory on the way to a file, or to another directory, exists.

Reading and writing answer nothing when they fail; a write that fails changes nothing.
-/

namespace Specimen

/-- Names on the way from the root. -/
abbrev Location := List String

structure Disk where
  /-- Where relative paths start. -/
  current : Location
  files : List (Location × String)
  directories : List Location

namespace Disk

/-- The names in a path. -/
def names (path : String) : List String := (path.toList.splitOn '/').map String.ofList

def fileAt? (disk : Disk) (place : Location) : Option String := disk.files.lookup place

/-- All locations that are known to exist. -/
def known (disk : Disk) : List Location :=
  disk.current :: disk.directories ++ disk.files.map Prod.fst

def isDirectoryAt (disk : Disk) (place : Location) : Bool :=
  (disk.fileAt? place).isNone && disk.known.any fun other => place.isPrefixOf other

/-- The location that a name leads to from a directory. -/
def enter (disk : Disk) (place : Location) (name : String) : Option Location :=
  if !disk.isDirectoryAt place then none
  else if name = "" ∨ name = "." then some place
  else if name = ".." then some place.dropLast
  else some (place ++ [name])

/-- Where a path starts. -/
def origin (disk : Disk) (path : String) : Location :=
  if path.startsWith "/" then [] else disk.current

/-- The location of a path, if the way to it exists. -/
def locate (disk : Disk) (path : String) : Option Location :=
  if path = "" then none else (names path).foldlM disk.enter (disk.origin path)

/-- The text of the file at a path. -/
def read (disk : Disk) (path : String) : Option String := (disk.locate path).bind disk.fileAt?

def isDirectory (disk : Disk) (path : String) : Bool :=
  match disk.locate path with
  | some place => disk.isDirectoryAt place
  | none => false

/-- Whether a path leads to a file or a directory. -/
def exists? (disk : Disk) (path : String) : Bool :=
  disk.isDirectory path || (disk.read path).isSome

/-- The names in the directory at a path, in ascending order. -/
def list (disk : Disk) (path : String) : List String :=
  match disk.locate path with
  | none => []
  | some place =>
    let inside := disk.known.filterMap fun other =>
      if place.isPrefixOf other then other[place.length]? else none
    (inside.mergeSort fun a b => !decide (b < a)).eraseReps

/-! ## Writing -/

/-- Makes the directory that a name leads to, unless it exists. -/
def makeDirectory (disk : Disk) (place : Location) (name : String) : Option (Disk × Location) :=
  match disk.enter place name with
  | none => none
  | some next =>
    if (disk.fileAt? next).isSome then none
    else if disk.isDirectoryAt next then some (disk, next)
    else some ({ disk with directories := disk.directories ++ [next] }, next)

/-- Makes the directories that names lead to, one in the other. -/
def makeDirectories (disk : Disk) (place : Location) : List String → Option Disk
  | [] => some disk
  | name :: rest =>
    match disk.makeDirectory place name with
    | none => none
    | some (disk, next) => makeDirectories disk next rest

/-- Makes the directory that a file at a path lies in, and those that it lies in. -/
def makeParent (disk : Disk) (path : String) : Option Disk :=
  let steps := (names path).filter fun name => !(name == "" || name == ".")
  disk.makeDirectories (disk.origin path) steps.dropLast

/-- Files with the one at a location replaced or added. -/
def put (files : List (Location × String)) (place : Location) (text : String) :
    List (Location × String) :=
  files.filter (fun file => file.1 != place) ++ [(place, text)]

/-- Puts a text in the file at a path. -/
def write (disk : Disk) (path text : String) : Option Disk :=
  match disk.locate path with
  | none => none
  | some place =>
    if disk.isDirectoryAt place then none
    else some { disk with files := put disk.files place text }

end Disk

end Specimen
