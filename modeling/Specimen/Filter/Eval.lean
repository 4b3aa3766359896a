import Specimen.Filter.Native
import Specimen.Filter.Outputs
import Specimen.Filter.Prelude

/-!
# Evaluation

What a term yields for an input, and how a term that is a path updates what it leads to. Evaluation
within another counts against the room there is for that; what is evaluated in the place of another,
like the body of a function in the place of its call, does not. Where there is no room left the answer
is `Halt.exhausted` and nothing else.

Where two terms both yield several data, the left one is the outer loop. The indices of a path are all
known before the path is followed; one that failed counts once for every combination of the others. An
update goes down a path and puts the new data in on the way back; of two paths with a comma between
them, the left one comes first.

A label is told apart from others by the fuel there was when it was met: of two labels in force at
once, one was met within the other and therefore with less.
-/

namespace Specimen

mutual

/-- What the names in force stand for. -/
inductive Env
  | mk (bindings : List (String × Data)) (functions : List Closure)
      (labels : List (String × Nat))

/-- A function: its parameters and body, where it was defined, and whether it is in force in its own
body. -/
inductive Closure
  | mk (name : String) (params : List String) (body : Term) (env : Env) (recursive : Bool)

end

namespace Env

def empty : Env := mk [] [] []

def lookup? : Env → String → Option Data
  | mk bindings _ _, name => Fields.get? bindings name

def label? : Env → String → Option Nat
  | mk _ _ labels, name => Fields.get? labels name

def withVariable : Env → String → Data → Env
  | mk bindings functions labels, name, d => mk ((name, d) :: bindings) functions labels

def withFunction : Env → Closure → Env
  | mk bindings functions labels, f => mk bindings (f :: functions) labels

def withLabel : Env → String → Nat → Env
  | mk bindings functions labels, name, label => mk bindings functions ((name, label) :: labels)

/-- The function of a name that takes so many arguments. -/
def function? : Env → String → Nat → Option Closure
  | mk _ functions _, name, arity =>
    functions.find? fun | .mk n params _ _ _ => n == name && params.length == arity

/-- Definitions, each in force in itself and in those after it. -/
def withDefs (env : Env) : List Definition → Env
  | [] => env
  | .mk name params body :: rest =>
    (env.withFunction (.mk name params body env true)).withDefs rest

end Env

/-- How to evaluate a term for an input where names stand for what they do. -/
abbrev Evaluate := Env → Term → Data → Outputs Data

/-- How to update through a term. -/
abbrev Updating := Env → Term → (Data → Outputs Data) → Data → Outputs Data

/-- A step of a path whose indices are known. -/
inductive PathPart
  | index (i : Data) (lenient : Bool)
  | slice (start stop : Option Data) (lenient : Bool)
  | each (lenient : Bool)

namespace PathPart

def lenient : PathPart → Bool
  | index _ lenient | slice _ _ lenient | each lenient => lenient

/-- Where a step leads from a datum. -/
def targets (p : PathPart) (d : Data) : Except Data (List Data) :=
  match p with
  | index i _ => (d.index i).map fun v => [v]
  | slice start stop _ => (d.slice start stop).map fun v => [v]
  | each _ => d.values

/-- Where steps lead from a datum; a lenient step leads nowhere where it does not apply. -/
def follow : List PathPart → Data → Outputs Data
  | [], d => .of d
  | p :: rest, d =>
    match p.targets d with
    | .ok found => (Outputs.ofList found).bind (follow rest)
    | .error e => if p.lenient then .done else .raise e

end PathPart

namespace Evaluate

variable (run : Evaluate)

/-- A bound of a slice, if it has one. -/
def bound (env : Env) (d : Data) : Option Term → Outputs (Option Data)
  | none => .of none
  | some t => (run env t d).bind fun v => .of (some v)

/-- The steps that a step of a path stands for. -/
def partsOf (env : Env) (d : Data) : PathStep → Outputs PathPart
  | .index place lenient => (run env place d).bind fun i => .of (.index i lenient)
  | .slice start stop lenient =>
    (bound run env d start).pairWith (fun start stop => .ok (.slice start stop lenient))
      fun _ => bound run env d stop
  | .each lenient => .of (.each lenient)

/-- The paths that the steps of a path stand for, in all combinations of their indices. -/
def parts (env : Env) (d : Data) : List PathStep → Outputs (List PathPart)
  | [] => .of []
  | step :: rest =>
    (partsOf run env d step).pairWith (fun p ps => .ok (p :: ps)) fun _ => parts env d rest

mutual

/-- The ways in which a pattern binds its variables to parts of a datum. -/
def matchPattern (env : Env) : Pattern → Data → Env → Outputs Env
  | .variable name, v, bound => .of (bound.withVariable name v)
  | .array items, v, bound => matchItems env items 0 v bound
  | .object entries, v, bound => matchEntries env entries v bound

def matchItems (env : Env) : List Pattern → Nat → Data → Env → Outputs Env
  | [], _, _, bound => .of bound
  | p :: rest, i, v, bound =>
    match v.index (.integer i) with
    | .error e => .raise e
    | .ok w =>
      (matchPattern env p w bound).bind fun bound => matchItems env rest (i + 1) v bound

def matchEntries (env : Env) : List (Term × Pattern) → Data → Env → Outputs Env
  | [], _, bound => .of bound
  | (key, p) :: rest, v, bound =>
    (run env key v).bind fun k =>
      match v.index k with
      | .error e => .raise e
      | .ok w => (matchPattern env p w bound).bind fun bound => matchEntries env rest v bound

end

/-- The ways in which a pattern binds its variables to parts of what a term yields. -/
def bindings (env : Env) (source : Term) (p : Pattern) (d : Data) : Outputs Env :=
  (run env source d).bind fun v => matchPattern run env p v env

/-- A function's own environment with its parameters bound to arguments, in all combinations. -/
def bindParams (env : Env) (d : Data) : List String → List Term → Env → Outputs Env
  | param :: params, arg :: args, inner =>
    match datumParam? param with
    | none => bindParams env d params args (inner.withFunction (.mk param [] arg env false))
    | some name =>
      (run env arg d).bind fun v => bindParams env d params args (inner.withVariable name v)
  | _, _, inner => .of inner

/-- Data for all arguments, in all combinations. -/
def dataArgs (env : Env) (d : Data) : List Term → Outputs (List Data)
  | [] => .of []
  | arg :: rest => (run env arg d).bind fun v => (dataArgs env d rest).bind fun vs => .of (v :: vs)

/-- Items with what a term yields for each as its key. -/
def keyed (env : Env) (key : Term) : List Data → Except Halt (List (Data × Data))
  | [] => .ok []
  | item :: rest => do
    let keys ← (run env key item).toList
    let rest ← keyed env key rest
    return (.array keys, item) :: rest

/-- The answer of a function on the keyed items of an array. -/
def byKey (env : Env) (key : Term) (d : Data) (f : List (Data × Data) → Data) : Outputs Data :=
  match d with
  | .array items =>
    match keyed run env key items with
    | .ok keyed => .of (f keyed)
    | .error halt => .halt halt
  | d => .raise (d.cannotUse "array")

/-- The items of an array in the order of their keys. Of fewer than two items there is no order to
find, and no key is asked for. -/
def sortBy (env : Env) (key : Term) (d : Data) : Outputs Data :=
  match d with
  | .array [] | .array [_] => .of d
  | d => byKey run env key d fun items => .array ((Native.sortKeyed items).map Prod.snd)

/-- How many data a count lets through. -/
def asCount (d : Data) : Except Data Nat :=
  match d with
  | .integer i => .ok i.toNat
  | d => .error (d.cannotUse "integer")

/-- What follows a term that says what is wrong: the error, or what is right when the term says
nothing. -/
def unlessSaid (env : Env) (message : Term) (d : Data) (otherwise : Outputs Data) : Outputs Data :=
  match (run env message d).first? with
  | .ok (some e) => .raise e
  | .ok none => otherwise
  | .error halt => .halt halt

/-- More numbers than any range is walked through. -/
def rangeLimit : Nat := 0x10000000000000000

/-- Data from a start, a step added each time, while they are on the near side of an end; at most
`left` of them. -/
def upTo (step : Data) (near : Data → Bool) : Nat → Data → Outputs Data
  | 0, _ => .done
  | left + 1, d =>
    if near d then
      .more (.ok d) fun _ =>
        match Data.math .add d step with
        | .ok next => upTo step near left next
        | .error e => .raise e
    else .done

/-- The data from a start to an end by a step. -/
def range (start stop step : Data) : Outputs Data :=
  match Data.order step (.integer 0) with
  | .gt => upTo step (fun d => Data.order d stop == .lt) rangeLimit start
  | .lt => upTo step (fun d => Data.order d stop == .gt) rangeLimit start
  | .eq => upTo step (fun d => !Data.equal d stop) rangeLimit start

/-- The functions that take terms, or yield other than one output. -/
def higher (env : Env) (name : String) (args : List Term) (d : Data) : Outputs Data :=
  match name, args with
  | "first", [f] => (run env f d).take 1
  | "last", [f] => (run env f d).last none
  | "limit", [n, f] =>
    (run env n d).bind fun n =>
      match asCount n with
      | .ok n => if n = 0 then .done else (run env f d).take n
      | .error e => .raise e
  | "range", [start, stop, step] =>
    (dataArgs run env d [start, stop, step]).bind fun
      | [start, stop, step] => range start stop step
      | _ => .done
  | "sort_by", [f] => sortBy run env f d
  | "group_by", [f] =>
    byKey run env f d fun items =>
      .array ((Native.runs (Native.sortKeyed items)).map .array)
  | "min_by", [f] => byKey run env f d fun items => (Native.least? items).getD .null
  | "max_by", [f] => byKey run env f d fun items => (Native.greatest? items).getD .null
  | "error", [f] => unlessSaid run env f d (.of d)
  | "path_values", [] =>
    .ofList (((d.paths.zip d.descendants).drop 1).map fun (path, v) => .array [.array path, v])
  | _, _ => .done

end Evaluate

/-- An operator on two data. -/
def Data.calculate (op : MathOp) (l r : Data) : Except Halt Data :=
  if Data.isBeyond op l r then .error .abandoned else (Data.math op l r).mapError .raised

/-! ## Updates -/

namespace Update

/-- The members of an object without one: the last takes its place. -/
def swapRemove (members : List (String × Data)) (name : String) : List (String × Data) :=
  match members.getLast? with
  | none => []
  | some last =>
    if last.1 = name then members.dropLast
    else members.dropLast.map fun member => if member.1 = name then last else member

/-- The answer where a step does not apply: the datum as it is if the step is lenient. -/
def refused (lenient : Bool) (d e : Data) : Outputs Data := if lenient then .of d else .raise e

/-- The datum under an index replaced. -/
def atIndex (lenient : Bool) (f : Data → Outputs Data) (d i : Data) : Outputs Data :=
  match d, i with
  | .object members, .string name =>
    match (f ((Fields.get? members name).getD .null)).first? with
    | .error halt => .halt halt
    | .ok (some new) => .of (.object (Fields.put members name new))
    | .ok none =>
      .of (.object (if Fields.has members name then swapRemove members name else members))
  | .object _, i => refused lenient d (d.cannotIndex i)
  | .array items, .integer i =>
    match Data.position? i items.length with
    | none => refused lenient d (.string ("index " ++ toString i ++ " out of bounds"))
    | some position =>
      match items[position]? with
      | none => .of d
      | some old =>
        match (f old).first? with
        | .error halt => .halt halt
        | .ok (some new) => .of (.array (items.set position new))
        | .ok none => .of (.array (items.eraseIdx position))
  | .array _, i => refused lenient d (i.cannotUse "integer")
  | d, _ => refused lenient d (d.cannotUse "iterable (array or object)")

/-- Every item replaced by all it yields. -/
def items (f : Data → Outputs Data) : List Data → Except Halt (List Data)
  | [] => .ok []
  | item :: rest => do
    let new ← (f item).toList
    return new ++ (← items f rest)

/-- Every member replaced by the first it yields, or left out when it yields none. -/
def members (f : Data → Outputs Data) : List (String × Data) → Except Halt (List (String × Data))
  | [] => .ok []
  | (name, member) :: rest => do
    match ← (f member).first? with
    | some new => return (name, new) :: (← members f rest)
    | none => members f rest

/-- All values in an array or object replaced. -/
def atEach (lenient : Bool) (f : Data → Outputs Data) (d : Data) : Outputs Data :=
  match d with
  | .array xs =>
    match items f xs with
    | .ok xs => .of (.array xs)
    | .error halt => .halt halt
  | .object ms =>
    match members f ms with
    | .ok ms => .of (.object ms)
    | .error halt => .halt halt
  | d => refused lenient d (d.cannotUse "iterable (array or object)")

/-- A stretch of an array replaced by another array. -/
def atSlice (lenient : Bool) (f : Data → Outputs Data) (d : Data) (start stop : Option Data) :
    Outputs Data :=
  match d with
  | .array items =>
    match Data.sliceBound start, Data.sliceBound stop with
    | .ok start, .ok stop =>
      let (skip, take) := Data.sliceSpan start stop items.length
      match (f (.array ((items.drop skip).take take))).first? with
      | .error halt => .halt halt
      | .ok none => .of (.array (items.take skip ++ items.drop (skip + take)))
      | .ok (some (.array new)) =>
        .of (.array (items.take skip ++ new ++ items.drop (skip + take)))
      | .ok (some other) => .raise (other.cannotUse "array")
    | .error e, _ => refused lenient d e
    | _, .error e => refused lenient d e
  | d => refused lenient d (d.cannotUse "array")

/-- What steps lead to replaced. -/
def along (f : Data → Outputs Data) : List PathPart → Data → Outputs Data
  | [], d => f d
  | .index i lenient :: rest, d => atIndex lenient (along f rest) d i
  | .slice start stop lenient :: rest, d => atSlice lenient (along f rest) d start stop
  | .each lenient :: rest, d => atEach lenient (along f rest) d

/-- What is led to by one path after another, each under its own bindings, replaced at the end. -/
def through (update : Env → (Data → Outputs Data) → Data → Outputs Data)
    (f : Data → Outputs Data) : Outputs Env → Data → Outputs Data
  | .done, d => f d
  | .one (.ok env), d => update env f d
  | .one (.error h), _ => .halt h
  | .more (.ok env) rest, d => update env (through update f (rest ())) d
  | .more (.error h) _, _ => .halt h
  | .later rest, d => through update f (rest ()) d

/-- What is led to by each path on the way, under its own bindings, replaced as it is met. -/
def throughEach (update : Env → (Data → Outputs Data) → Data → Outputs Data)
    (f : Env → Data → Outputs Data) : Outputs Env → Data → Outputs Data
  | .done, d => .of d
  | .one (.ok env), d => update env (f env) d
  | .one (.error h), _ => .halt h
  | .more (.ok env) rest, d =>
    update env (fun d => (f env d).bind (throughEach update f (rest ()))) d
  | .more (.error h) _, _ => .halt h
  | .later rest, d => throughEach update f (rest ()) d

/-- The error of updating through what is no path. -/
def noPath : Outputs Data := .raise (.string "invalid path expression")

end Update

mutual

/-- What a term yields for an input. -/
def evaluate : Nat → Nat → Evaluate
  | 0, _, _, _, _ => .halt .exhausted
  | _ + 1, 0, _, _, _ => .halt .exhausted
  | fuel + 1, room + 1, env, term, d =>
    let run : Evaluate := evaluate fuel room
    let inPlace : Evaluate := evaluate fuel (room + 1)
    match term with
    | .identity => .of d
    | .recurse => .ofList d.descendants
    | .shown => .of (.string d.shown)
    | .number text => .of (.ofNumeralText text)
    | .chars text => .of (.string text)
    | .array none => .of (.array [])
    | .array (some body) =>
      match (run env body d).toList with
      | .ok items => .of (.array items)
      | .error halt => .halt halt
    | .emptyObject => .of (.object [])
    | .single key value =>
      (run env key d).pairWith
        (fun k v =>
          match k with
          | .string name => .ok (.object [(name, v)])
          | k => .error (.raised (k.cannotUse "string")))
        fun _ => run env value d
    | .negate body => (run env body d).bind fun x => .ofExcept x.negated
    | .pipe source body => (run env source d).bind (inPlace env body)
    | .bind source pattern body =>
      (run.bindings env source pattern d).bind fun env => inPlace env body d
    | .binary .comma l r => (run env l d).append fun _ => inPlace env r d
    | .binary .alternative l r =>
      match (run env l d).truthy with
      | .done => inPlace env r d
      | found => found
    | .binary .and l r =>
      (run env l d).bind fun x =>
        if x.truthy then (run env r d).bind fun y => .of (.bool y.truthy) else .of (.bool false)
    | .binary .or l r =>
      (run env l d).bind fun x =>
        if x.truthy then .of (.bool true) else (run env r d).bind fun y => .of (.bool y.truthy)
    | .binary (.math op) l r => (run env l d).pairWith (Data.calculate op) fun _ => run env r d
    | .binary (.compare op) l r =>
      (run env l d).pairWith (fun x y => .ok (.bool (Data.compareBy op x y))) fun _ => run env r d
    | .binary .assign l r =>
      (run env r d).bind fun y => updateThrough fuel room env l (fun _ => .of y) d
    | .binary .update l r => updateThrough fuel room env l (run env r) d
    | .binary (.updateMath op) l r =>
      (run env r d).bind fun y =>
        updateThrough fuel room env l (fun x => .one (Data.calculate op x y)) d
    | .binary .updateAlternative l r =>
      (run env r d).bind fun y =>
        updateThrough fuel room env l (fun x => .of (if x.truthy then x else y)) d
    | .label name body => (run (env.withLabel name fuel) body d).untilExit fuel
    | .break name =>
      match env.label? name with
      | some label => .halt (.exit label)
      | none => .done
    | .reduce source pattern start update =>
      (run env start d).bind
        (Outputs.fold (fun env state => run env update state)
          (run.bindings env source pattern d))
    | .foreach source pattern start update extract =>
      (run env start d).bind
        (Outputs.scan (fun env state => run env update state)
          (fun env state =>
            match extract with
            | none => .of state
            | some extract => run env extract state)
          (run.bindings env source pattern d))
    | .attempt body handler =>
      (run env body d).untilError fun e =>
        match handler with
        | some handler => inPlace env handler e
        | none => .done
    | .cond condition positive negative =>
      (run env condition d).bind fun x =>
        if x.truthy then inPlace env positive d
        else
          match negative with
          | some negative => inPlace env negative d
          | none => .of d
    | .define defs body => inPlace (env.withDefs defs) body d
    | .variable name =>
      match env.lookup? name with
      | some v => .of v
      | none => .done
    | .path base steps =>
      (run env base d).bind fun v => (run.parts env d steps).bind fun ps => PathPart.follow ps v
    | .call name args =>
      match env.function? name args.length with
      | some (.mk name params body inner recursive) =>
        let own := if recursive then inner.withFunction (.mk name params body inner true) else inner
        (run.bindParams env d params args own).bind fun env =>
          .later fun _ => inPlace env body d
      | none =>
        match Prelude.find? name args.length with
        | some (.mk _ params body) =>
          (run.bindParams env d params args .empty).bind fun env =>
            .later fun _ => inPlace env body d
        | none =>
          match Native.find? name args.length with
          | some native => (run.dataArgs env d args).bind fun args => .ofExcept (native.run d args)
          | none => run.higher env name args d
    | .meaningless => .done

/-- What a term leads to replaced by what a function yields for it. -/
def updateThrough : Nat → Nat → Updating
  | 0, _, _, _, _, _ => .halt .exhausted
  | _ + 1, 0, _, _, _, _ => .halt .exhausted
  | fuel + 1, room + 1, env, term, f, d =>
    let run : Evaluate := evaluate fuel room
    let update : Updating := updateThrough fuel room
    match term with
    | .identity => f d
    | .recurse => (Update.atEach true (update env .recurse f) d).bind f
    | .pipe source body => update env source (update env body f) d
    | .bind source pattern body =>
      Outputs.fold (fun env d => update env body f d) (run.bindings env source pattern d) d
    | .binary .comma l r => (update env l f d).bind (update env r f)
    | .binary .alternative l r =>
      if (run env l d).anyTruthy then update env l f d else update env r f d
    | .break name =>
      match env.label? name with
      | some label => .halt (.exit label)
      | none => .done
    | .reduce source pattern start body =>
      update env start
        (Update.through (fun env => update env body) f (run.bindings env source pattern d)) d
    | .foreach source pattern start body extract =>
      update env start
        (Update.throughEach (fun env => update env body)
          (fun env =>
            match extract with
            | none => f
            | some extract => update env extract f)
          (run.bindings env source pattern d)) d
    | .cond condition positive negative =>
      Outputs.fold (fun x d =>
        if x.truthy then update env positive f d
        else
          match negative with
          | some negative => update env negative f d
          | none => f d)
        (run env condition d) d
    | .define defs body => update (env.withDefs defs) body f d
    | .path base steps =>
      update env base
        (Outputs.fold (fun ps v => Update.along f ps v) (run.parts env d steps)) d
    | .call name args =>
      match env.function? name args.length with
      | some (.mk name params body inner recursive) =>
        let own := if recursive then inner.withFunction (.mk name params body inner true) else inner
        Outputs.fold (fun env d => update env body f d) (run.bindParams env d params args own) d
      | none =>
        match Prelude.find? name args.length with
        | some (.mk _ params body) =>
          Outputs.fold (fun env d => update env body f d)
            (run.bindParams env d params args .empty) d
        | none =>
          match Native.find? name args.length with
          | some _ => Outputs.fold (fun _ _ => Update.noPath) (run.dataArgs env d args) d
          | none =>
            match name, args with
            | "error", [message] => run.unlessSaid env message d (f d)
            | _, _ =>
              Outputs.fold (fun _ _ => Update.noPath)
                (run.dataArgs env d (Native.dataTerms name args)) d
    | _ => Update.noPath

end

end Specimen
