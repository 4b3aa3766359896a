import Specimen.Filter.Data

/-!
# Outputs

What a term yields for an input: a sequence, computed as far as it is looked at. Each item is an
answer or the reason why there is none; such a reason does not end a sequence by itself, whoever
looks decides.

A sequence may also be put off as a whole (`Outputs.later`). Whoever looks at it goes on until there is
an item or the end, so a computation that ends in another one of its kind takes no more room than one
of them.
-/

namespace Specimen

/-- Why evaluation stops short of an answer. -/
inductive Halt
  /-- An error, which a handler may answer. -/
  | raised (d : Data)
  /-- An exit to the label of a number. -/
  | exit (label : Nat)
  /-- Evaluation went deeper than it may. -/
  | exhausted
  /-- Evaluation met what no machine has an answer to; nothing goes on from there. -/
  | abandoned

/-- A sequence of answers, computed on demand. -/
inductive Outputs (α : Type)
  | done
  /-- The last item. -/
  | one (item : Except Halt α)
  | more (item : Except Halt α) (rest : Unit → Outputs α)
  /-- A sequence that is still to be computed. -/
  | later (rest : Unit → Outputs α)

namespace Outputs

variable {α β γ : Type}

instance : Inhabited (Outputs α) := ⟨done⟩

/-- One answer. -/
def of (a : α) : Outputs α := one (.ok a)

def halt (h : Halt) : Outputs α := one (.error h)

/-- An error and nothing else. -/
def raise (d : Data) : Outputs α := halt (.raised d)

def ofExcept : Except Data α → Outputs α
  | .ok a => of a
  | .error d => raise d

def ofList : List α → Outputs α
  | [] => done
  | [a] => of a
  | a :: b :: rest => more (.ok a) fun _ => ofList (b :: rest)

/-- The same sequence with its first item, or its end, at hand. -/
def force : Outputs α → Outputs α
  | later rest => force (rest ())
  | s => s

/-- One sequence after the other. -/
def append : Outputs α → (Unit → Outputs α) → Outputs α
  | done, next => next ()
  | one i, next => more i next
  | more i rest, next => more i fun _ => append (rest ()) next
  | later rest, next => append (rest ()) next

/-- What becomes of each item in turn. -/
def flatMap : Outputs α → (Except Halt α → Outputs β) → Outputs β
  | done, _ => done
  | one i, f => f i
  | more i rest, f => append (f i) fun _ => flatMap (rest ()) f
  | later rest, f => flatMap (rest ()) f

/-- What each answer yields in turn. -/
def bind (s : Outputs α) (f : α → Outputs β) : Outputs β :=
  s.flatMap fun
    | .ok a => f a
    | .error h => halt h

/-- Each item put to a function. -/
def map (f : Except Halt α → Except Halt β) : Outputs α → Outputs β
  | done => done
  | one i => one (f i)
  | more i rest => more (f i) fun _ => map f (rest ())
  | later rest => map f (rest ())

/-- A function of two answers for every item on the left with every item on the right. A failure on
the left counts once for every item on the right, so not at all if there is none. -/
def pairWith (f : α → β → Except Halt γ) (l : Outputs α) (r : Unit → Outputs β) : Outputs γ :=
  l.flatMap fun x => (r ()).map fun y => do f (← x) (← y)

/-- All answers after those collected, backwards; or the first failure. -/
def collect : Outputs α → List α → Except Halt (List α)
  | done, collected => .ok collected.reverse
  | one (.ok a), collected => .ok (a :: collected).reverse
  | one (.error h), _ => .error h
  | more (.ok a) rest, collected => collect (rest ()) (a :: collected)
  | more (.error h) _, _ => .error h
  | later rest, collected => collect (rest ()) collected

/-- All answers as a list, or the first failure. -/
def toList (s : Outputs α) : Except Halt (List α) := collect s []

/-- The first answer, if there is an item. -/
def first? : Outputs α → Except Halt (Option α)
  | done => .ok none
  | one i => i.map some
  | more i _ => i.map some
  | later rest => first? (rest ())

/-- The first items, at most `n`. -/
def take (n : Nat) : Outputs α → Outputs α
  | done => done
  | one i => if n = 0 then done else one i
  | more i rest =>
    if n = 0 then done
    else if n = 1 then one i
    else more i fun _ => take (n - 1) (rest ())
  | later rest => if n = 0 then done else take n (rest ())

/-- The last answer, or the first failure. -/
def last : Outputs α → Option α → Outputs α
  | done, none => done
  | done, some a => of a
  | one i, _ => one i
  | more (.ok a) rest, _ => last (rest ()) (some a)
  | more (.error h) _, _ => halt h
  | later rest, found => last (rest ()) found

/-- Without the answers that count as false. -/
def truthy : Outputs Data → Outputs Data
  | done => done
  | one (.ok d) => if d.truthy then of d else done
  | one (.error h) => halt h
  | more (.ok d) rest =>
    if d.truthy then more (.ok d) fun _ => truthy (rest ()) else truthy (rest ())
  | more (.error h) rest => more (.error h) fun _ => truthy (rest ())
  | later rest => truthy (rest ())

/-- Whether some item is not an answer that counts as false. -/
def anyTruthy (s : Outputs Data) : Bool :=
  match truthy s with
  | done => false
  | _ => true

/-- The items before the exit to a label. -/
def untilExit (label : Nat) : Outputs α → Outputs α
  | done => done
  | one (.error (.exit l)) => if l = label then done else halt (.exit l)
  | one i => one i
  | more (.error (.exit l)) rest =>
    if l = label then done else more (.error (.exit l)) fun _ => untilExit label (rest ())
  | more i rest => more i fun _ => untilExit label (rest ())
  | later rest => untilExit label (rest ())

/-- The items before the first error, and then what a handler makes of that. -/
def untilError (handler : Data → Outputs α) : Outputs α → Outputs α
  | done => done
  | one (.error (.raised d)) => handler d
  | one i => one i
  | more (.error (.raised d)) _ => handler d
  | more i rest => more i fun _ => untilError handler (rest ())
  | later rest => untilError handler (rest ())

/-- Each answer put to work on a state, from left to right; a step may yield several states, and each
goes its own way. -/
def fold (step : α → β → Outputs β) : Outputs α → β → Outputs β
  | done, state => of state
  | one (.ok a), state => step a state
  | one (.error h), _ => halt h
  | more (.ok a) rest, state =>
    match (step a state).force with
    | one (.ok state) => fold step (rest ()) state
    | states => states.bind fun state => fold step (rest ()) state
  | more (.error h) _, _ => halt h
  | later rest, state => fold step (rest ()) state

/-- The same, with what is extracted from every state on the way. -/
def scan (step : α → β → Outputs β) (extract : α → β → Outputs γ) : Outputs α → β → Outputs γ
  | done, _ => done
  | one (.ok a), state => (step a state).bind (extract a)
  | one (.error h), _ => halt h
  | more (.ok a) rest, state =>
    (step a state).bind fun state =>
      append (extract a state) fun _ => scan step extract (rest ()) state
  | more (.error h) _, _ => halt h
  | later rest, state => scan step extract (rest ()) state

end Outputs

end Specimen
