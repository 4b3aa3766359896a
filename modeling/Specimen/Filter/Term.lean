import Specimen.Filter.Arithmetic

/-!
# Terms of filter programs

A program is a term: it takes one datum and yields any number of data, or fails.
-/

namespace Specimen

/-- The operators that stand between two terms. -/
inductive BinaryOp
  | comma
  /-- What is truthy on the left, or else the right. -/
  | alternative
  | and
  | or
  | math (op : MathOp)
  | compare (op : CompareOp)
  | assign
  | update
  | updateMath (op : MathOp)
  | updateAlternative

mutual

/-- A term. -/
inductive Term
  | identity
  /-- The input and everything within it. -/
  | recurse
  /-- The input as text. -/
  | shown
  | number (text : String)
  | chars (text : String)
  /-- An array of all outputs. -/
  | array (body : Option Term)
  /-- The object without members. -/
  | emptyObject
  /-- An object with one member. -/
  | single (key value : Term)
  | negate (body : Term)
  | pipe (source body : Term)
  | bind (source : Term) (pattern : Pattern) (body : Term)
  | binary (op : BinaryOp) (left right : Term)
  | label (name : String) (body : Term)
  | break (name : String)
  | reduce (source : Term) (pattern : Pattern) (start update : Term)
  | foreach (source : Term) (pattern : Pattern) (start update : Term) (extract : Option Term)
  /-- The outputs up to the first error, which a handler may answer. -/
  | attempt (body : Term) (handler : Option Term)
  | cond (condition positive : Term) (negative : Option Term)
  | define (defs : List Definition) (body : Term)
  | call (name : String) (args : List Term)
  | variable (name : String)
  | path (base : Term) (steps : List PathStep)
  /-- A construct that means nothing, such as a fold with too few arguments. -/
  | meaningless

/-- One step of a path; a lenient step passes over what it does not apply to. -/
inductive PathStep
  | index (place : Term) (lenient : Bool)
  | slice (start stop : Option Term) (lenient : Bool)
  | each (lenient : Bool)

/-- A pattern that binds variables to parts of a datum. -/
inductive Pattern
  | variable (name : String)
  | array (items : List Pattern)
  | object (entries : List (Term × Pattern))

/-- A function definition. A parameter with a dollar sign takes a datum, another a term. -/
inductive Definition
  | mk (name : String) (params : List String) (body : Term)

end

instance : Inhabited Term := ⟨.identity⟩

namespace Definition

def name : Definition → String
  | mk name _ _ => name

def params : Definition → List String
  | mk _ params _ => params

end Definition

/-- The name of a parameter that takes a datum. -/
def datumParam? (param : String) : Option String :=
  match param.toList with
  | '$' :: name => some (String.ofList name)
  | _ => none

end Specimen
