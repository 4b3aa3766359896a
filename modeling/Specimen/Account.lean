import Specimen.Document.Lowering
import Specimen.Document.Reader
import Specimen.Error

/-!
# Accounts of failures

What is told of a failure: a chain of links, from what was being done down to what went wrong. Most
links are texts. The causes whose wording says nothing more than what they are stay apart, so that
whoever tells the account may word them.
-/

namespace Specimen

/-- A cause with a wording of its own. -/
inductive Cause
  | fault (fault : Fault)
  | program (source : String) (error : ProgramError)
  /-- A file could not be read or written. -/
  | inaccessible
  /-- A text is no regular expression. -/
  | badRegex
  /-- A text is no pattern of file names. -/
  | badGlob

namespace Fault

def message : Fault → String
  | malformed => "malformed JSON"
  | tooDeep => "recursion limit exceeded"

end Fault

namespace Cause

def message : Cause → String
  | fault f => f.message
  | program source e => e.message source
  | inaccessible => "file cannot be accessed"
  | badRegex => "malformed regular expression"
  | badGlob => "malformed file pattern"

end Cause

/-- One link of an account. -/
inductive Link
  | text (s : String)
  | cause (c : Cause)

/-- What is told of a failure, outermost first. -/
abbrev Account := List Link

namespace Account

/-- The links as texts, with causes in given words. -/
def texts (words : Cause → String) (account : Account) : List String :=
  account.map fun
    | .text s => s
    | .cause c => words c

/-- The account on one line. -/
def line (words : Cause → String) (account : Account) : String :=
  String.intercalate ": " (account.texts words)

end Account

namespace Complaint

def link : Complaint → Link
  | fault f => .cause (.fault f)
  | mismatch place cause => .text ("at JSON path " ++ Place.path place ++ " → " ++ cause.message)

end Complaint

namespace LoadError

def link : LoadError → Link
  | complaint c => c.link
  | selectsNothing pointer => .text ("JSON pointer `" ++ pointer ++ "` selects nothing")

end LoadError

namespace LoweringError

def account (e : LoweringError) : Account :=
  let root : Link :=
    match e.cause with
    | .cycle names => .text ("reference cycle: " ++ String.intercalate " -> " names)
    | .undeclared name => .text ("reference to undeclared type `" ++ name ++ "`")
    | .program source error => .cause (.program source error)
  e.scopes.map (fun scope => .text scope.message) ++ [root]

end LoweringError

end Specimen
