import Specimen.Files.Disk

/-!
# File patterns

A pattern names files: a question mark stands for any character, a star for any characters within a
name, brackets for one of some characters, and two stars, as a name of their own, for any directories
on the way. A pattern expands to the paths it names, directory by directory in ascending order of
names, a directory before what lies in it.
-/

namespace Specimen

namespace Glob

/-- Whether a text is a pattern and not simply a path. -/
def isPattern (text : String) : Bool :=
  text.toList.any fun c => c == '*' || c == '?' || c == '[' || c == '\x7b'

/-- What one place of a name may be. -/
inductive Piece
  | char (c : Char)
  | any
  /-- Any characters. -/
  | sequence
  /-- Any directories. -/
  | recursive
  | within (ranges : List (Char × Char))
  | without (ranges : List (Char × Char))
deriving DecidableEq

/-- The ranges between brackets. -/
def ranges : List Char → List (Char × Char)
  | [] => []
  | [a] => [(a, a)]
  | a :: '-' :: b :: rest => (a, b) :: ranges rest
  | a :: b :: rest => (a, a) :: ranges (b :: rest)

/-- What stands before the first closing bracket, and what comes after it. -/
def closing : List Char → List Char → Option (List Char × List Char)
  | [], _ => none
  | ']' :: rest, inside => some (inside.reverse, rest)
  | c :: rest, inside => closing rest (c :: inside)

/-- The characters after an opening bracket, the first of them taken as it is. -/
def bracket (first : Char) (rest : List Char) : Option (List (Char × Char) × List Char) :=
  (closing rest [first]).map fun (inside, after) => (ranges inside, after)

/-- The pieces of a pattern of at most `left` characters; `boundary` is whether a name starts here. -/
def parse : Nat → Bool → List Char → Option (List Piece)
  | _, _, [] => some []
  | 0, _, _ => none
  | left + 1, boundary, '*' :: '*' :: rest =>
    match boundary, rest with
    | true, [] => some [.recursive]
    | true, '/' :: rest => (parse left true rest).map (.recursive :: ·)
    | _, _ => none
  | left + 1, _, '*' :: rest => (parse left false rest).map (.sequence :: ·)
  | left + 1, _, '?' :: rest => (parse left false rest).map (.any :: ·)
  | left + 1, _, '[' :: '!' :: c :: rest =>
    match bracket c rest with
    | some (inside, after) => (parse left false after).map (.without inside :: ·)
    | none => none
  | left + 1, _, '[' :: c :: rest =>
    if c = '!' then none
    else
      match bracket c rest with
      | some (inside, after) => (parse left false after).map (.within inside :: ·)
      | none => none
  | _ + 1, _, ['['] => none
  | left + 1, _, c :: rest => (parse left (c == '/') rest).map (.char c :: ·)

/-- The pieces of a pattern. -/
def pieces (text : String) : Option (List Piece) := parse text.length true text.toList

def inRanges (c : Char) (rs : List (Char × Char)) : Bool :=
  rs.any fun (first, last) => first ≤ c && c ≤ last

/-- Whether one character fits a piece. -/
def Piece.fits : Piece → Char → Bool
  | char c, d => c == d
  | any, _ => true
  | within rs, d => inRanges d rs
  | without rs, d => !inRanges d rs
  | _, _ => false

/-- Whether some end of a list satisfies a test. -/
def anyTail (test : List Char → Bool) : List Char → Bool
  | [] => test []
  | c :: rest => test (c :: rest) || anyTail test rest

/-- Whether a name fits pieces. -/
def fits : List Piece → List Char → Bool
  | [], cs => cs.isEmpty
  | .sequence :: rest, cs => anyTail (fits rest) cs
  | .recursive :: rest, cs => anyTail (fits rest) cs
  | piece :: rest, cs =>
    match cs with
    | [] => false
    | c :: cs => piece.fits c && fits rest cs

/-- The one character that a piece stands for, if it is plain. -/
def Piece.plain? : Piece → Option Char
  | char c => some c
  | _ => none

/-- The one name that pieces stand for, if they are plain characters. -/
def plain? (ps : List Piece) : Option String :=
  (ps.mapM Piece.plain?).map String.ofList

/-- A name inside a directory. -/
def join (directory name : String) : String :=
  if directory.endsWith "/" then directory ++ name else directory ++ "/" ++ name

/-- Whether a path is the directory that paths start from, however often it is written. -/
def isHere (path : String) : Bool :=
  match Disk.names path with
  | "." :: rest => rest.all fun name => name == "." || name == ""
  | _ => false

/-- The same, with the directory that paths start from left out. -/
def joinShort (directory name : String) : String :=
  if isHere directory then name else join directory name

/-- The last name of a path. -/
def lastName (path : String) : List Char := ((Disk.names path).getLastD "").toList

/-- A directory and the names in it. -/
def inside (disk : Disk) (path : String) : List String :=
  if disk.isDirectory path then disk.list path else []

/-- The names of a pattern, when those before have led to a path. -/
abbrev Names := List (List Piece)

/-- The names without all but the last of leading ones that stand for any directories. -/
def collapse : Names → Names
  | [.recursive] :: [.recursive] :: rest => collapse ([.recursive] :: rest)
  | ps => ps

variable (disk : Disk) (directoriesOnly : Bool)

mutual

/-- The paths that names stand for under a path. -/
def under : Nat → Names → String → List String
  | 0, _, _ => []
  | _, [], _ => []
  | fuel + 1, name :: rest, path =>
    match plain? name with
    | some s =>
      let next := joinShort path s
      let isThere := if s = "." ∨ s = ".." then disk.isDirectory path else disk.exists? next
      if isThere then arrive fuel rest next else []
    | none =>
      if !disk.isDirectory path then []
      else
        let special := ["..", "."].filter fun s =>
          name.head? == some (.char '.') && fits name s.toList
        special.flatMap (fun s => arrive fuel rest (join path s)) ++
          (inside disk path).flatMap fun child => visit fuel (name :: rest) (joinShort path child)

/-- The paths that names stand for from a path that has been led to. -/
def arrive : Nat → Names → String → List String
  | 0, _, _ => []
  | _, [], path => if directoriesOnly && !disk.isDirectory path then [] else [path]
  | fuel + 1, names, path => under fuel names path

/-- The paths that names stand for, when the first of them is for the last name of a path. -/
def visit : Nat → Names → String → List String
  | 0, _, _ => []
  | fuel + 1, names, path =>
    match collapse names with
    | [.recursive] :: [] =>
      if disk.isDirectory path then path :: under fuel [[.recursive]] path else []
    | [.recursive] :: rest =>
      visitPlain fuel rest path ++
        (if disk.isDirectory path then under fuel ([.recursive] :: rest) path else [])
    | names => visitPlain fuel names path

/-- The same when the first name does not stand for directories. -/
def visitPlain : Nat → Names → String → List String
  | 0, _, _ => []
  | _, [], _ => []
  | fuel + 1, name :: rest, path =>
    if fits name (lastName path) then arrive fuel rest path else []

end

/-- A pattern without its last character if that ends a name, split into names. -/
def splitNames (pattern : String) : List String :=
  match (Disk.names pattern).reverse with
  | "" :: rest => rest.reverse
  | names => names.reverse

/-- Steps enough for any pattern of so many names on a disk. -/
def fuelFor (disk : Disk) (names : Nat) : Nat :=
  let depth := (disk.known.map List.length).foldl max 0
  4 * (names + 1) * (depth + 2)

/-- The paths that a pattern names, if it is one. -/
def expand (disk : Disk) (pattern : String) : Option (List String) := do
  let _ ← pieces pattern
  let absolute := pattern.startsWith "/"
  let names ← (splitNames (if absolute then (pattern.drop 1).toString else pattern)).mapM pieces
  return under disk (pattern.endsWith "/") (fuelFor disk names.length) names
    (if absolute then "/" else ".")

end Glob

end Specimen
