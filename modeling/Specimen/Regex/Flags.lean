import Specimen.Unicode.CaseFold
import Specimen.Unicode.Property

/-!
# Flags of regular expressions

How the text of an expression is to be read: whether case counts, what dots and anchors mean, whether
blanks and comments stand between its parts, and whether characters are those of Unicode or the first
128 alone.
-/

namespace Specimen

namespace Regex

/-- The flags in force at a place. -/
structure Flags where
  ignoreCase : Bool
  multiLine : Bool
  dotAll : Bool
  verbose : Bool
  unicode : Bool
  /-- Whether lines may end in a carriage return. -/
  carriage : Bool
  /-- Whether repetitions are lazy unless they are marked. -/
  lazy : Bool

namespace Flags

def initial : Flags := ⟨false, false, false, false, true, false, false⟩

/-- The flags with one set or unset by its letter. -/
def put (flags : Flags) (letter : Char) (on : Bool) : Option Flags :=
  match letter with
  | 'i' => some { flags with ignoreCase := on }
  | 'm' => some { flags with multiLine := on }
  | 's' => some { flags with dotAll := on }
  | 'x' => some { flags with verbose := on }
  | 'u' => some { flags with unicode := on }
  | 'R' => some { flags with carriage := on }
  | 'U' => some { flags with lazy := on }
  | _ => none

/-- A set with the other cases of its characters, if case does not count. -/
def fold (flags : Flags) (set : CharSet) : CharSet :=
  if !flags.ignoreCase then set
  else if flags.unicode then set.foldCase
  else set.foldCaseAscii

/-- A set as an expression may use it: where characters are the first 128, no other code may be in
it, for such a code is no whole character. -/
def allow (flags : Flags) (set : CharSet) : Option CharSet :=
  if flags.unicode || set.isAscii then some set else none

/-- A set or, if it is negated, all that is not in it. -/
def sign (flags : Flags) (negated : Bool) (set : CharSet) : Option CharSet :=
  flags.allow (if negated then set.compl else set)

end Flags

/-! ## Blanks -/

/-- Whether a character is white space. -/
def isSpace (c : Char) : Bool := (Unicode.Property.of "whitespace").contains c.toNat

/-- The text without leading blanks and comments, where these do not count. -/
def skip (flags : Flags) : List Char → List Char
  | [] => []
  | c :: rest =>
    if !flags.verbose then c :: rest
    else if isSpace c then skip flags rest
    else if c = '#' then skipLine flags rest
    else c :: rest
where
  skipLine (flags : Flags) : List Char → List Char
    | [] => []
    | c :: rest => if c = '\n' then skip flags rest else skipLine flags rest

/-! ## Setting flags -/

/-- Flags set and, after a hyphen, unset by their letters, none of which stands twice, up to a colon or
a closing parenthesis; and the text from there on. `seen` holds what was read, the last first. -/
def readFlags (on : Bool) (seen : List Char) (flags : Flags) :
    List Char → Option (Flags × List Char)
  | [] => none
  | c :: rest =>
    if c = ':' ∨ c = ')' then
      if seen.head? = some '-' then none else some (flags, c :: rest)
    else if seen.contains c then none
    else if c = '-' then readFlags false ('-' :: seen) flags rest
    else
      match flags.put c on with
      | some flags => readFlags on (c :: seen) flags rest
      | none => none

end Regex

end Specimen
