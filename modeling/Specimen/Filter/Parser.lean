import Specimen.Filter.Term
import Specimen.Filter.Token

/-!
# Reading filter programs

A program is a term. Between operands stand operators; from loosest to tightest: the pipe and the
binding of variables, the comma, assignments, alternatives, `or`, `and`, equality, order, sums,
products, remainders. The pipe and assignments group from the right, all others from the left. An
operand is an atom with a path after it; definitions are part of an atom and reach as far as the term
after them does.

Only whether a text is a program, and which, is settled here; whether its names mean anything is
`Specimen.Filter.Scope`'s.
-/

namespace Specimen

/-- What stands between two operands. -/
inductive Joint
  | pipe
  | bind (pattern : Pattern)
  | operator (op : BinaryOp)

namespace BinaryOp

/-- How tightly an operator binds. -/
def precedence : BinaryOp → Nat
  | comma => 1
  | assign | update | updateMath _ | updateAlternative => 2
  | alternative => 3
  | or => 4
  | and => 5
  | compare .eq | compare .ne => 6
  | compare _ => 7
  | math .add | math .sub => 8
  | math .mul | math .div => 9
  | math .rem => 10

/-- Whether operators of one precedence group from the right. -/
def groupsRight : BinaryOp → Bool
  | assign | update | updateMath _ | updateAlternative => true
  | _ => false

/-- The operator that a token stands for. -/
def ofToken? : Token → Option BinaryOp
  | .symbol "," => some comma
  | .symbol "//" => some alternative
  | .symbol "+" => some (math .add)
  | .symbol "-" => some (math .sub)
  | .symbol "*" => some (math .mul)
  | .symbol "/" => some (math .div)
  | .symbol "%" => some (math .rem)
  | .symbol "=" => some assign
  | .symbol "|=" => some update
  | .symbol "+=" => some (updateMath .add)
  | .symbol "-=" => some (updateMath .sub)
  | .symbol "*=" => some (updateMath .mul)
  | .symbol "/=" => some (updateMath .div)
  | .symbol "%=" => some (updateMath .rem)
  | .symbol "//=" => some updateAlternative
  | .symbol "==" => some (compare .eq)
  | .symbol "!=" => some (compare .ne)
  | .symbol "<" => some (compare .lt)
  | .symbol "<=" => some (compare .le)
  | .symbol ">" => some (compare .gt)
  | .symbol ">=" => some (compare .ge)
  | .word "or" => some or
  | .word "and" => some and
  | _ => none

end BinaryOp

namespace Joint

def precedence : Joint → Nat
  | pipe | bind _ => 0
  | operator op => op.precedence

def groupsRight : Joint → Bool
  | pipe | bind _ => true
  | operator op => op.groupsRight

/-- Two terms joined. -/
def term (joint : Joint) (left right : Term) : Term :=
  match joint with
  | pipe => .pipe left right
  | bind pattern => .bind left pattern right
  | operator op => .binary op left right

end Joint

namespace Term

/-! ## Composing terms -/

/-- The place of the joint that binds loosest: of several, the first if they group from the right and
the last otherwise. -/
def loosest : List (Joint × Term) → Nat → Option (Nat × Joint) → Option (Nat × Joint)
  | [], _, best => best
  | (joint, _) :: rest, i, best =>
    let better :=
      match best with
      | none => true
      | some (_, old) =>
        if joint.precedence = old.precedence then !joint.groupsRight
        else decide (joint.precedence < old.precedence)
    loosest rest (i + 1) (if better then some (i, joint) else best)

/-- A sequence of operands and joints as one term. -/
def group : Nat → Term → List (Joint × Term) → Term
  | 0, first, _ => first
  | fuel + 1, first, rest =>
    match loosest rest 0 none with
    | none => first
    | some (i, joint) =>
      match rest.drop i with
      | [] => first
      | (_, next) :: after => joint.term (group fuel first (rest.take i)) (group fuel next after)

/-- The member under a name of the input. -/
def member (name : Term) : Term := .path .identity [.index name false]

/-- A sum of terms, added up from the right; `none` stands for there being none. -/
def sum (none : Term) : List Term → Term
  | [] => none
  | [last] => last
  | first :: next :: rest => .binary (.math .add) first (sum none (next :: rest))

/-- A term, or what answers its errors with nothing, for every question mark. -/
def questioned (base : Term) : Nat → Term
  | 0 => base
  | marks + 1 => .attempt (questioned base marks) none

/-- The question marks in front, and the rest. -/
def takeMarks : List Token → Nat × List Token
  | .symbol "?" :: rest =>
    let (marks, rest) := takeMarks rest
    (marks + 1, rest)
  | rest => (0, rest)

/-- The name of a function that is defined: a word, or a formatter with its at sign. -/
def functionName? : Token → Option String
  | .word name => if Token.isQualified name then none else some name
  | .format name => some ("@" ++ name)
  | _ => none

/-- A call of a formatter. -/
def formatter (name : String) (args : List Term) : Term := .call ("@" ++ name) args

/-- A fold by the word that it starts with; with a wrong number of arguments it means nothing. -/
def foldTerm (word : String) (source : Term) (pattern : Pattern) (args : List Term) : Term :=
  match word, args with
  | "reduce", [start, update] => .reduce source pattern start update
  | "foreach", [start, update] => .foreach source pattern start update none
  | "foreach", [start, update, extract] => .foreach source pattern start update (some extract)
  | _, _ => .meaningless

/-! ## Reading -/

mutual

/-- A term, up to a token that cannot belong to it. Inside an entry of an object, a comma ends it. -/
def parseTerm (comma : Bool) : Nat → List Token → Option (Term × List Token)
  | 0, _ => none
  | fuel + 1, tokens => do
    let (first, rest) ← parseOperand fuel tokens
    let (more, rest) ← parseJoined comma fuel rest
    some (group (more.length + 1) first more, rest)

/-- A term that takes up all tokens. -/
def parseWhole : Nat → List Token → Option Term
  | 0, _ => none
  | fuel + 1, tokens =>
    match parseTerm true fuel tokens with
    | some (term, []) => some term
    | _ => none

/-- Joints and the operands after them. -/
def parseJoined (comma : Bool) : Nat → List Token → Option (List (Joint × Term) × List Token)
  | 0, _ => none
  | _ + 1, [] => some ([], [])
  | fuel + 1, .word "as" :: rest => do
    let (pattern, rest) ← parsePattern fuel rest
    match rest with
    | .symbol "|" :: rest => parseNext comma fuel (.bind pattern) rest
    | _ => none
  | fuel + 1, .symbol "|" :: rest => parseNext comma fuel .pipe rest
  | fuel + 1, token :: rest =>
    match BinaryOp.ofToken? token with
    | none => some ([], token :: rest)
    | some op =>
      match op, comma with
      | .comma, false => some ([], token :: rest)
      | _, _ => parseNext comma fuel (.operator op) rest

/-- The operand after a joint, and what is joined to it. -/
def parseNext (comma : Bool) :
    Nat → Joint → List Token → Option (List (Joint × Term) × List Token)
  | 0, _, _ => none
  | fuel + 1, joint, tokens => do
    let (right, rest) ← parseOperand fuel tokens
    let (more, rest) ← parseJoined comma fuel rest
    some ((joint, right) :: more, rest)

/-- An atom with the question marks and the path after it. -/
def parseOperand : Nat → List Token → Option (Term × List Token)
  | 0, _ => none
  | fuel + 1, tokens => do
    let (atom, rest) ← parseAtom fuel tokens
    let (marks, rest) := takeMarks rest
    let base := questioned atom marks
    match ← parsePath fuel rest with
    | ([], rest) => some (base, rest)
    | (steps, rest) => some (.path base steps, rest)

/-- The steps of a path. -/
def parsePath : Nat → List Token → Option (List PathStep × List Token)
  | 0, _ => none
  | fuel + 1, tokens => do
    let part : Option ((Bool → PathStep) × List Token) ←
      match tokens with
      | .block '[' inner :: rest => do
        let step ← parseStep fuel inner
        pure (some (step, rest))
      | .symbol "." :: .text parts :: rest => do
        let key ← parseText .shown fuel parts
        pure (some (.index key, rest))
      | .symbol "." :: .format name :: .text parts :: rest => do
        let key ← parseText (formatter name []) fuel parts
        pure (some (.index key, rest))
      | .symbol s :: rest =>
        match s.toList with
        | '.' :: c :: name =>
          if c = '.' then pure none
          else pure (some (.index (.chars (String.ofList (c :: name))), rest))
        | _ => pure none
      | _ => pure none
    match part with
    | none => some ([], tokens)
    | some (step, rest) => do
      let (marks, rest) := takeMarks rest
      let (steps, rest) ← parsePath fuel rest
      some (step (marks != 0) :: steps, rest)

/-- What stands between the brackets of a path. -/
def parseStep : Nat → List Token → Option (Bool → PathStep)
  | 0, _ => none
  | _ + 1, [] => some .each
  | fuel + 1, .symbol ":" :: rest => do
    let stop ← parseWhole fuel rest
    some (.slice none (some stop))
  | fuel + 1, tokens => do
    let (start, rest) ← parseTerm true fuel tokens
    match rest with
    | [] => some (.index start)
    | [.symbol ":"] => some (.slice (some start) none)
    | .symbol ":" :: rest => do
      let stop ← parseWhole fuel rest
      some (.slice (some start) (some stop))
    | _ => none

/-- A text: the sum of its parts, those that are programs passed through a formatter. -/
def parseText (format : Term) : Nat → List (String ⊕ List Token) → Option Term
  | 0, _ => none
  | fuel + 1, parts => do
    let parts ← parseTextParts format fuel parts
    some (sum (.chars "") parts)

def parseTextParts (format : Term) : Nat → List (String ⊕ List Token) → Option (List Term)
  | 0, _ => none
  | _ + 1, [] => some []
  | fuel + 1, .inl s :: rest => do
    let rest ← parseTextParts format fuel rest
    some (.chars s :: rest)
  | fuel + 1, .inr inner :: rest => do
    let first ← parseWhole fuel inner
    let rest ← parseTextParts format fuel rest
    some (.pipe first format :: rest)

/-- An atom. -/
def parseAtom : Nat → List Token → Option (Term × List Token)
  | 0, _ => none
  | fuel + 1, tokens =>
    match tokens with
    | .symbol "-" :: rest => do
      let (body, rest) ← parseOperand fuel rest
      some (.negate body, rest)
    | .symbol ".." :: rest => some (.recurse, rest)
    | .symbol "." :: .text _ :: _ | .symbol "." :: .format _ :: .text _ :: _ =>
      some (.identity, tokens)
    | .symbol "." :: rest => some (.identity, rest)
    | .symbol s :: _ =>
      match s.toList with
      | '.' :: _ :: _ => some (.identity, tokens)
      | _ => none
    | .number n :: rest => some (.number n, rest)
    | .text parts :: rest => do
      let term ← parseText .shown fuel parts
      some (term, rest)
    | .format name :: .text parts :: rest => do
      let term ← parseText (formatter name []) fuel parts
      some (term, rest)
    | .format name :: rest => do
      let (args, rest) ← parseArgs fuel rest
      some (formatter name args, rest)
    | .variable name :: rest => some (.variable name, rest)
    | .block '(' inner :: rest => do
      let term ← parseWhole fuel inner
      some (term, rest)
    | .block '[' [] :: rest => some (.array none, rest)
    | .block '[' inner :: rest => do
      let term ← parseWhole fuel inner
      some (.array (some term), rest)
    | .block _ inner :: rest => do
      let entries ← parseEntries fuel inner
      some (sum .emptyObject entries, rest)
    | .word "def" :: _ => do
      let (defs, rest) ← parseDefs fuel tokens
      let (body, rest) ← parseTerm true fuel rest
      some (.define defs body, rest)
    | .word "if" :: rest => parseCond fuel rest
    | .word "try" :: rest => do
      let (body, rest) ← parseOperand fuel rest
      match rest with
      | .word "catch" :: rest => do
        let (handler, rest) ← parseOperand fuel rest
        some (.attempt body (some handler), rest)
      | rest => some (.attempt body none, rest)
    | .word "reduce" :: rest => parseFold fuel "reduce" rest
    | .word "foreach" :: rest => parseFold fuel "foreach" rest
    | .word "label" :: rest =>
      match rest with
      | .variable name :: .symbol "|" :: rest => do
        let (body, rest) ← parseTerm true fuel rest
        some (.label name body, rest)
      | _ => none
    | .word "break" :: rest =>
      match rest with
      | .variable name :: rest => some (.break name, rest)
      | _ => none
    | .word name :: rest => do
      let (args, rest) ← parseArgs fuel rest
      some (.call name args, rest)
    | [] => none

/-- Arguments between parentheses, if there are any. -/
def parseArgs : Nat → List Token → Option (List Term × List Token)
  | 0, _ => none
  | fuel + 1, .block '(' inner :: rest => do
    let args ← parseTerms fuel inner
    some (args, rest)
  | _ + 1, rest => some ([], rest)

/-- Terms with semicolons between them, at least one. -/
def parseTerms : Nat → List Token → Option (List Term)
  | 0, _ => none
  | fuel + 1, tokens => do
    let (first, rest) ← parseTerm true fuel tokens
    match rest with
    | [] => some [first]
    | .symbol ";" :: rest => do
      let more ← parseTerms fuel rest
      some (first :: more)
    | _ => none

/-- A fold after the word that it starts with. -/
def parseFold : Nat → String → List Token → Option (Term × List Token)
  | 0, _, _ => none
  | fuel + 1, word, tokens => do
    let (source, rest) ← parseOperand fuel tokens
    match rest with
    | .word "as" :: rest => do
      let (pattern, rest) ← parsePattern fuel rest
      let (args, rest) ← parseArgs fuel rest
      some (foldTerm word source pattern args, rest)
    | _ => none

/-- A conditional, from its condition up to its end. -/
def parseCond : Nat → List Token → Option (Term × List Token)
  | 0, _ => none
  | fuel + 1, tokens => do
    let (condition, rest) ← parseTerm true fuel tokens
    match rest with
    | .word "then" :: rest => do
      let (positive, rest) ← parseTerm true fuel rest
      match rest with
      | .word "elif" :: rest => do
        let (negative, rest) ← parseCond fuel rest
        some (.cond condition positive (some negative), rest)
      | .word "else" :: rest => do
        let (negative, rest) ← parseTerm true fuel rest
        match rest with
        | .word "end" :: rest => some (.cond condition positive (some negative), rest)
        | _ => none
      | .word "end" :: rest => some (.cond condition positive none, rest)
      | _ => none
    | _ => none

/-- The entries of an object; a comma may follow the last. -/
def parseEntries : Nat → List Token → Option (List Term)
  | 0, _ => none
  | _ + 1, [] => some []
  | fuel + 1, tokens => do
    let (entry, rest) ← parseEntry fuel tokens
    match rest with
    | [] => some [entry]
    | .symbol "," :: rest => do
      let entries ← parseEntries fuel rest
      some (entry :: entries)
    | _ => none

/-- An entry of an object: a key and a value, or a key alone, which takes the value from the input or
from the variable. -/
def parseEntry : Nat → List Token → Option (Term × List Token)
  | 0, _ => none
  | fuel + 1, tokens =>
    match tokens with
    | .variable name :: .symbol ":" :: rest => do
      let (value, rest) ← parseTerm false fuel rest
      some (.single (.variable name) value, rest)
    | .variable name :: rest => some (.single (.chars name) (.variable name), rest)
    | _ => do
      let (key, enclosed, rest) ← parseKey fuel tokens
      match rest with
      | .symbol ":" :: rest => do
        let (value, rest) ← parseTerm false fuel rest
        some (.single key value, rest)
      | rest => if enclosed then none else some (.single key (member key), rest)

/-- A key of an object or of a pattern, and whether it is a term between parentheses. -/
def parseKey : Nat → List Token → Option (Term × Bool × List Token)
  | 0, _ => none
  | fuel + 1, tokens =>
    match tokens with
    | .block '(' inner :: rest => do
      let key ← parseWhole fuel inner
      some (key, true, rest)
    | .word name :: rest =>
      if Token.isQualified name then none else some (.chars name, false, rest)
    | .text parts :: rest => do
      let key ← parseText .shown fuel parts
      some (key, false, rest)
    | .format name :: .text parts :: rest => do
      let key ← parseText (formatter name []) fuel parts
      some (key, false, rest)
    | _ => none

/-- A pattern. -/
def parsePattern : Nat → List Token → Option (Pattern × List Token)
  | 0, _ => none
  | fuel + 1, tokens =>
    match tokens with
    | .variable name :: rest => some (.variable name, rest)
    | .block '[' inner :: rest => do
      let items ← parsePatterns fuel inner
      some (.array items, rest)
    | .block '\x7b' [] :: _ => none
    | .block '\x7b' inner :: rest => do
      let entries ← parsePatternEntries fuel inner
      some (.object entries, rest)
    | _ => none

/-- Patterns with commas between them, at least one. -/
def parsePatterns : Nat → List Token → Option (List Pattern)
  | 0, _ => none
  | fuel + 1, tokens => do
    let (first, rest) ← parsePattern fuel tokens
    match rest with
    | [] => some [first]
    | .symbol "," :: rest => do
      let more ← parsePatterns fuel rest
      some (first :: more)
    | _ => none

/-- The entries of an object pattern: a key and a pattern, or a variable that is both. A comma may
follow the last, but there has to be one. -/
def parsePatternEntries : Nat → List Token → Option (List (Term × Pattern))
  | 0, _ => none
  | _ + 1, [] => some []
  | fuel + 1, tokens => do
    let (entry, rest) ←
      match tokens with
      | .variable name :: rest => pure ((.chars name, .variable name), rest)
      | tokens => do
        let (key, _, rest) ← parseKey fuel tokens
        match rest with
        | .symbol ":" :: rest => do
          let (pattern, rest) ← parsePattern fuel rest
          pure ((key, pattern), rest)
        | _ => none
    match rest with
    | [] => some [entry]
    | .symbol "," :: rest => do
      let entries ← parsePatternEntries fuel rest
      some (entry :: entries)
    | _ => none

/-- Definitions, one after the other. -/
def parseDefs : Nat → List Token → Option (List Definition × List Token)
  | 0, _ => none
  | fuel + 1, .word "def" :: head :: rest => do
    let name ← functionName? head
    let (params, rest) ←
      match rest with
      | .block '(' inner :: rest => do
        let params ← parseParams fuel inner
        pure (params, rest)
      | rest => pure ([], rest)
    match rest with
    | .symbol ":" :: rest => do
      let (body, rest) ← parseTerm true fuel rest
      match rest with
      | .symbol ";" :: rest => do
        let (defs, rest) ← parseDefs fuel rest
        some (.mk name params body :: defs, rest)
      | _ => none
    | _ => none
  | _ + 1, [.word "def"] => none
  | _ + 1, rest => some ([], rest)

/-- Parameters with semicolons between them, at least one. -/
def parseParams : Nat → List Token → Option (List String)
  | 0, _ => none
  | fuel + 1, tokens => do
    let (first, rest) ←
      match tokens with
      | .word param :: rest => if Token.isQualified param then none else pure (param, rest)
      | .variable param :: rest => pure ("$" ++ param, rest)
      | _ => none
    match rest with
    | [] => some [first]
    | .symbol ";" :: rest => do
      let more ← parseParams fuel rest
      some (first :: more)
    | _ => none

end

/-- Room for every step of reading a text of a length. -/
def parseFuel (length : Nat) : Nat := 20 * length + 100

/-- The program that a text is, if it is one. What describes the program as a module may stand in
front; a program that asks for other modules is none, for there are no others. -/
def parse (program : String) : Option Term := do
  let fuel := parseFuel program.length
  match ← Token.lex program with
  | .word "import" :: _ | .word "include" :: _ => none
  | .word "module" :: rest => do
    match ← parseTerm true fuel rest with
    | (_, .symbol ";" :: rest) => parseWhole fuel rest
    | _ => none
  | tokens => parseWhole fuel tokens

/-- The definitions that a text consists of, if it does. -/
def parseDefinitions (text : String) : Option (List Definition) := do
  match ← parseDefs (parseFuel text.length) (← Token.lex text) with
  | (defs, []) => some defs
  | _ => none

end Term

end Specimen
