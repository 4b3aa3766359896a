/-!
# Tokens of filter programs

A program text as a tree of tokens: brackets enclose the tokens between them, and texts enclose the
tokens of what is interpolated. Operators are as long as they can be, but a minus is never part of one
that began before it.
-/

namespace Specimen

/-- A token. -/
inductive Token
  /-- A name or keyword; a name may be qualified by a module. -/
  | word (name : String)
  /-- A variable, without its dollar sign. -/
  | variable (name : String)
  /-- A formatter, without its at sign. -/
  | format (name : String)
  | number (text : String)
  /-- A text: characters, each escaped one apart from the others, and interpolated programs between
  parentheses. -/
  | text (parts : List (String ⊕ List Token))
  /-- An operator, a separator, a lone point, or a point with a name after it. -/
  | symbol (text : String)
  /-- What stands between brackets that open with the given character. -/
  | block (opening : Char) (inner : List Token)
deriving Inhabited

namespace Token

/-- The whitespace between tokens. -/
def isSpace (c : Char) : Bool :=
  c.isWhitespace || c.toNat = 0x0B || c.toNat = 0x0C || c.toNat = 0x85 || c.toNat = 0xA0 ||
    c.toNat = 0x1680 || (0x2000 ≤ c.toNat && c.toNat ≤ 0x200A) || c.toNat = 0x2028 ||
    c.toNat = 0x2029 || c.toNat = 0x202F || c.toNat = 0x205F || c.toNat = 0x3000

def startsName (c : Char) : Bool := c.isAlpha || c = '_'

def inName (c : Char) : Bool := c.isAlphanum || c = '_'

/-- What an operator may begin with. -/
def isOperator (c : Char) : Bool := "|=!<>+-*/%".toList.contains c

/-- What an operator may go on with. -/
def inOperator (c : Char) : Bool := isOperator c && c != '-'

/-- The character that closes what another opens. -/
def closing (opening : Char) : Char :=
  if opening = '(' then ')' else if opening = '[' then ']' else '\x7d'

def opens (c : Char) : Bool := c = '(' || c = '[' || c = '\x7b'

/-- The rest of a comment after its line: a line that ends in an odd number of backslashes, with or
without a carriage return after them, carries the comment on. -/
def skipComment : Nat → List Char → List Char
  | 0, cs => cs
  | fuel + 1, cs =>
    let ending := (cs.takeWhile (· ≠ '\n')).reverse
    let ending := if ending.head? = some '\r' then ending.tail else ending
    let rest := (cs.dropWhile (· ≠ '\n')).drop 1
    if (ending.takeWhile (· = '\\')).length % 2 = 0 || rest.isEmpty then rest
    else skipComment fuel rest

/-- The text after blanks and comments. -/
def skipSpace : Nat → List Char → List Char
  | 0, cs => cs
  | fuel + 1, cs =>
    match cs.dropWhile isSpace with
    | '#' :: rest => skipSpace fuel (skipComment fuel rest)
    | rest => rest

/-- A name on its own. -/
def takeName (cs : List Char) : Option (String × List Char) :=
  match cs with
  | c :: rest =>
    if startsName c then
      some (String.ofList (c :: rest.takeWhile inName), rest.dropWhile inName)
    else none
  | [] => none

/-- A name that may be qualified by a module; what it names there may be a variable or a formatter. -/
def takeQualified (cs : List Char) : Option (String × List Char) :=
  let name := cs.takeWhile inName
  match cs.dropWhile inName with
  | ':' :: ':' :: rest => do
    let (sigil, rest) :=
      match rest with
      | '$' :: rest => ("$", rest)
      | '@' :: rest => ("@", rest)
      | rest => ("", rest)
    let (inner, rest) ← takeName rest
    some (String.ofList name ++ "::" ++ sigil ++ inner, rest)
  | rest => some (String.ofList name, rest)

/-- Whether a name is qualified by a module. -/
def isQualified (name : String) : Bool := name.contains ':'

/-- The digits in front, of which there has to be one. -/
def takeDigits (cs : List Char) : Option (List Char × List Char) :=
  let digits := cs.takeWhile Char.isDigit
  if digits.isEmpty then none else some (digits, cs.dropWhile Char.isDigit)

/-- A number: digits, perhaps a point and digits, perhaps a power of ten. -/
def takeNumeral (cs : List Char) : Option (String × List Char) := do
  let (whole, rest) ← takeDigits cs
  let (fraction, rest) ←
    match rest with
    | '.' :: rest => do
      let (digits, rest) ← takeDigits rest
      pure ('.' :: digits, rest)
    | rest => pure ([], rest)
  match rest with
  | [] => some (String.ofList (whole ++ fraction), [])
  | c :: after =>
    if c = 'e' ∨ c = 'E' then do
      let (sign, after) :=
        match after with
        | '+' :: after => (['+'], after)
        | '-' :: after => (['-'], after)
        | after => ([], after)
      let (digits, after) ← takeDigits after
      some (String.ofList (whole ++ fraction ++ c :: sign ++ digits), after)
    else some (String.ofList (whole ++ fraction), c :: after)

/-- The character that four hexadecimal digits stand for. -/
def takeEscapedUnit (cs : List Char) : Option (Char × List Char) :=
  let digit (c : Char) : Option Nat :=
    if '0' ≤ c ∧ c ≤ '9' then some (c.toNat - 48)
    else if 'a' ≤ c ∧ c ≤ 'f' then some (c.toNat - 87)
    else if 'A' ≤ c ∧ c ≤ 'F' then some (c.toNat - 55)
    else none
  match cs with
  | a :: b :: c :: d :: rest => do
    let code := (((← digit a) * 16 + (← digit b)) * 16 + (← digit c)) * 16 + (← digit d)
    if h : code.isValidChar then some (Char.ofNatAux code h, rest) else none
  | _ => none

/-- The parts of a text behind a run of plain characters, which is at hand backwards. -/
def withRun (run : List Char) (parts : List (String ⊕ List Token)) : List (String ⊕ List Token) :=
  if run.isEmpty then parts else .inl (String.ofList run.reverse) :: parts

/-- The character that a letter or sign stands for after a backslash. -/
def escaped? (c : Char) : Option Char :=
  if c = '"' ∨ c = '\\' ∨ c = '/' then some c
  else if c = 'b' then some '\x08'
  else if c = 'f' then some '\x0c'
  else if c = 'n' then some '\n'
  else if c = 'r' then some '\r'
  else if c = 't' then some '\t'
  else none

/-- The character of an escape after its backslash. -/
def takeEscaped : List Char → Option (Char × List Char)
  | 'u' :: rest => takeEscapedUnit rest
  | c :: rest => (escaped? c).map fun c => (c, rest)
  | [] => none

mutual

/-- The tokens up to the end of the text or a closing bracket, and the rest. -/
def lexMany : Nat → List Char → Option (List Token × List Char)
  | 0, _ => none
  | fuel + 1, cs =>
    match skipSpace fuel cs with
    | [] => some ([], [])
    | c :: rest =>
      if c = ')' ∨ c = ']' ∨ c = '\x7d' then some ([], c :: rest)
      else do
        let (token, rest) ← lexOne fuel c rest
        let (tokens, rest) ← lexMany fuel rest
        some (token :: tokens, rest)

/-- The token that starts with a character. -/
def lexOne : Nat → Char → List Char → Option (Token × List Char)
  | 0, _, _ => none
  | fuel + 1, c, rest =>
    if startsName c then do
      let (name, rest) ← takeQualified (c :: rest)
      some (.word name, rest)
    else if c = '$' then do
      let (name, rest) ← takeName rest
      some (.variable name, rest)
    else if c = '@' then do
      let (name, rest) ← takeName rest
      some (.format name, rest)
    else if c.isDigit then do
      let (digits, rest) ← takeNumeral (c :: rest)
      some (.number digits, rest)
    else if isOperator c then
      some (.symbol (String.ofList (c :: rest.takeWhile inOperator)), rest.dropWhile inOperator)
    else if c = '.' then
      match rest with
      | '.' :: rest => some (.symbol "..", rest)
      | d :: _ =>
        if startsName d then
          some (.symbol (String.ofList ('.' :: rest.takeWhile inName)), rest.dropWhile inName)
        else some (.symbol ".", rest)
      | [] => some (.symbol ".", [])
    else if c = ':' ∨ c = ';' ∨ c = ',' ∨ c = '?' then
      some (.symbol (String.ofList [c]), rest)
    else if c = '"' then do
      let (parts, rest) ← lexText fuel rest []
      some (.text parts, rest)
    else if opens c then do
      let (inner, rest) ← lexMany fuel rest
      match rest with
      | d :: rest => if d = closing c then some (.block c inner, rest) else none
      | [] => none
    else none

/-- The parts of a text up to its closing quote; `done` holds the plain characters just read,
backwards. -/
def lexText : Nat → List Char → List Char → Option (List (String ⊕ List Token) × List Char)
  | 0, _, _ => none
  | fuel + 1, cs, done =>
    match cs with
    | [] => none
    | '"' :: rest => some (withRun done [], rest)
    | '\\' :: '(' :: rest => do
      let (inner, rest) ← lexMany fuel rest
      match rest with
      | ')' :: rest =>
        let (parts, rest) ← lexText fuel rest []
        some (withRun done (.inr inner :: parts), rest)
      | _ => none
    | '\\' :: rest => do
      let (c, rest) ← takeEscaped rest
      let (parts, rest) ← lexText fuel rest []
      some (withRun done (.inl c.toString :: parts), rest)
    | c :: rest => lexText fuel rest (c :: done)

end

/-- The tokens of a whole text, unless some part of it is no token. -/
def lex (text : String) : Option (List Token) :=
  let cs := text.toList
  match lexMany (3 * cs.length + 4) cs with
  | some (tokens, []) => some tokens
  | _ => none

end Token

end Specimen
