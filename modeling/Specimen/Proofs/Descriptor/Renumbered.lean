import Mathlib.Logic.Function.Basic
import Mathlib.Tactic.Common
import Specimen.Compiler.Compile
import Specimen.Proofs.Fields

/-!
# Types with other identities

The identities of a type's nodes are handed out in the order in which the nodes are made, so they tell
of everything that was made before. Here a type is given others (`Descriptor.renumber`): its guard,
its kind, its weight and all that is said of intersections stay as they are, but for the identities of
the types they speak of.

Only pooling the alternatives of unions compares identities. It goes along with any change that keeps
different identities apart (`Intersection.pool_renumber`).
-/

namespace Specimen

namespace Descriptor

mutual

/-- A type with other identities. -/
def renumber (f : Nat → Nat) : Descriptor → Descriptor
  | .node id shape => .node (f id) (renumberShape f shape)

/-- A shape with other identities in all its parts. -/
def renumberShape (f : Nat → Nat) : Shape → Shape
  | .array element => .array (renumber f element)
  | .constraint underlying predicate correction arguments =>
    .constraint (renumber f underlying) predicate correction (renumberMarking f arguments)
  | .dictionary value => .dictionary (renumber f value)
  | .intersect intersectees => .intersect (renumberAll f intersectees)
  | .partialRecord fields => .partialRecord (renumberFields f fields)
  | .record fields => .record (renumberFields f fields)
  | .tuple components => .tuple (renumberAll f components)
  | .union alternatives => .union (renumberAll f alternatives)
  | shape => shape

/-- The arguments of a constraint, with other identities in the types they name. -/
def renumberMarking (f : Nat → Nat) : Option (Args Descriptor) → Option (Args Descriptor)
  | none => none
  | some ⟨tag, params, types⟩ => some ⟨tag, params, renumberFields f types⟩

/-- Types with other identities. Written out rather than mapped, so that the recursion through a
type is seen to end; `renumberAll_eq` says that it is a map. -/
def renumberAll (f : Nat → Nat) : List Descriptor → List Descriptor
  | [] => []
  | t :: rest => renumber f t :: renumberAll f rest

/-- Fields whose types have other identities, under the same names. -/
def renumberFields (f : Nat → Nat) : List (String × Descriptor) → List (String × Descriptor)
  | [] => []
  | (name, t) :: rest => (name, renumber f t) :: renumberFields f rest

end

/-- The arguments of a constraint, with other identities. -/
def renumberArgs (f : Nat → Nat) (args : Args Descriptor) : Args Descriptor :=
  { args with types := renumberFields f args.types }

variable {f : Nat → Nat}

theorem renumberMarking_eq (arguments : Option (Args Descriptor)) :
    renumberMarking f arguments = arguments.map (renumberArgs f) := by
  rcases arguments with _ | ⟨tag, params, types⟩
  · rfl
  · rfl

/-- New identities can be handed out shape by shape. -/
theorem shape_renumber (t : Descriptor) : (renumber f t).shape = renumberShape f t.shape := by
  cases t
  rfl

theorem renumberAll_eq (types : List Descriptor) : renumberAll f types = types.map (renumber f) := by
  induction types with
  | nil => rfl
  | cons t rest ih => rw [renumberAll, ih, List.map_cons]

/-- Types put together may be given new identities before or after. -/
theorem renumberAll_append (types others : List Descriptor) :
    renumberAll f (types ++ others) = renumberAll f types ++ renumberAll f others := by
  rw [renumberAll_eq, renumberAll_eq, renumberAll_eq, List.map_append]

/-- New identities change no field's name and leave the fields in order. -/
theorem renumberFields_eq (fields : List (String × Descriptor)) :
    renumberFields f fields = Fields.mapValues (renumber f) fields := by
  induction fields with
  | nil => rfl
  | cons field rest ih => rw [renumberFields, ih]; rfl

/-! ## Guards, kinds and weights -/

mutual

/-- No guard looks at identities. -/
theorem guard_renumber : ∀ t : Descriptor, (renumber f t).guard = t.guard
  | .node _ shape => shapeGuard_renumber shape

/-- One case for each shape: a guard asks what a type is made of and never which node it is. -/
theorem shapeGuard_renumber : ∀ shape : Shape, shapeGuard (renumberShape f shape) = shapeGuard shape
  | .array element => by
    funext v
    cases v <;> simp [renumberShape, shapeGuard, guard_renumber element]
  | .constraint underlying predicate correction arguments => by
    funext v
    simp [renumberShape, shapeGuard, guard_renumber underlying]
  | .dictionary value => by
    funext v
    cases v <;> simp [renumberShape, shapeGuard, guard_renumber value]
  | .intersect intersectees => by
    funext v
    simp [renumberShape, shapeGuard, guardAll_renumber intersectees]
  | .partialRecord fields => by
    funext v
    cases v <;> simp [renumberShape, shapeGuard, guardOptional_renumber fields]
  | .record fields => by
    funext v
    cases v <;> simp [renumberShape, shapeGuard, guardRequired_renumber fields]
  | .tuple components => by
    funext v
    cases v <;> simp [renumberShape, shapeGuard, guardEach_renumber components]
  | .union alternatives => by
    funext v
    simp [renumberShape, shapeGuard, guardAny_renumber alternatives]
  | .always | .boolean | .function | .literal _ | .number | .string | .void | .extension _ _ _ => rfl

theorem guardAll_renumber : ∀ types : List Descriptor, guardAll (renumberAll f types) = guardAll types
  | [] => rfl
  | t :: rest => by
    funext v
    rw [renumberAll, guardAll, guardAll, guard_renumber t, guardAll_renumber rest]

theorem guardAny_renumber : ∀ types : List Descriptor, guardAny (renumberAll f types) = guardAny types
  | [] => rfl
  | t :: rest => by
    funext v
    rw [renumberAll, guardAny, guardAny, guard_renumber t, guardAny_renumber rest]

/-- The components of a tuple accept what they accepted, each in its place. -/
theorem guardEach_renumber :
    ∀ types : List Descriptor, guardEach (renumberAll f types) = guardEach types
  | [] => rfl
  | t :: rest => by
    funext vs
    cases vs with
    | nil => rfl
    | cons v vs => rw [renumberAll, guardEach, guardEach, guard_renumber t, guardEach_renumber rest]

/-- The fields of a record ask as much of an object as before. -/
theorem guardRequired_renumber : ∀ fields : List (String × Descriptor),
    guardRequired (renumberFields f fields) = guardRequired fields
  | [] => rfl
  | (name, t) :: rest => by
    funext members
    rw [renumberFields, guardRequired, guardRequired, guard_renumber t, guardRequired_renumber rest]

theorem guardOptional_renumber : ∀ fields : List (String × Descriptor),
    guardOptional (renumberFields f fields) = guardOptional fields
  | [] => rfl
  | (name, t) :: rest => by
    funext members
    rw [renumberFields, guardOptional, guardOptional, guard_renumber t, guardOptional_renumber rest]

end

/-- The kind of a type is the kind of its shape. -/
theorem tag_renumber (t : Descriptor) : (renumber f t).tag = t.tag := by
  obtain ⟨id, shape⟩ := t
  cases shape <;> rfl

/-- Whether a constraint is handed to a strategy does not change, and the strategy is told the types
with their new identities. -/
theorem marking_renumber (arguments : Option (Args Descriptor)) :
    marking (renumberMarking f arguments) = (marking arguments).map (renumberArgs f) := by
  rw [renumberMarking_eq]
  cases arguments with
  | none => rfl
  | some args =>
    simp only [marking, Option.map_some, Option.filter_some, renumberArgs]
    split
    · rfl
    · rfl

/-- A type goes to the same custom strategy under any identities. -/
theorem customTag_renumber (t : Descriptor) : (renumber f t).customTag = t.customTag := by
  obtain ⟨id, shape⟩ := t
  cases shape with
  | constraint underlying predicate correction arguments =>
    change (marking (renumberMarking f arguments)).map Args.tag = (marking arguments).map Args.tag
    rw [marking_renumber, Option.map_map]
    rfl
  | _ => rfl

mutual

/-- The weight counts nodes, so it does not depend on how they are numbered. What compiles a type
with fewer nodes than another does so under all identities. -/
theorem weight_renumber : ∀ t : Descriptor, (renumber f t).weight = t.weight
  | .node _ shape => congrArg (· + 1) (shapeWeight_renumber shape)

theorem shapeWeight_renumber :
    ∀ shape : Shape, shapeWeight (renumberShape f shape) = shapeWeight shape
  | .array element => weight_renumber element
  | .constraint underlying _ _ none => weight_renumber underlying
  | .constraint underlying _ _ (some ⟨_, _, types⟩) =>
    congrArg₂ (· + ·) (weight_renumber underlying) (weightFields_renumber types)
  | .dictionary value => weight_renumber value
  | .intersect intersectees => weightAll_renumber intersectees
  | .partialRecord fields => weightFields_renumber fields
  | .record fields => weightFields_renumber fields
  | .tuple components => weightAll_renumber components
  | .union alternatives => weightAll_renumber alternatives
  | .always | .boolean | .function | .literal _ | .number | .string | .void | .extension _ _ _ => rfl

theorem weightAll_renumber :
    ∀ types : List Descriptor, weightAll (renumberAll f types) = weightAll types
  | [] => rfl
  | t :: rest => congrArg₂ (· + ·) (weight_renumber t) (weightAll_renumber rest)

theorem weightFields_renumber : ∀ fields : List (String × Descriptor),
    weightFields (renumberFields f fields) = weightFields fields
  | [] => rfl
  | (_, t) :: rest => congrArg₂ (· + ·) (weight_renumber t) (weightFields_renumber rest)

end

end Descriptor

namespace Intersection

open Descriptor

variable {f : Nat → Nat}

mutual

/-- Intersections within intersections are laid flat in the same order. -/
theorem flatten_renumber :
    ∀ types : List Descriptor, flatten (renumberAll f types) = renumberAll f (flatten types)
  | [] => rfl
  | t :: rest => by
    rw [renumberAll, flatten, flatten, flattenOne_renumber t, flatten_renumber rest,
      renumberAll_append]

theorem flattenOne_renumber :
    ∀ t : Descriptor, flattenOne (renumber f t) = renumberAll f (flattenOne t)
  | .node _ shape => by
    cases shape with
    | intersect types => exact flatten_renumber types
    | _ => rfl

end

theorem kinds_renumber (types : List Descriptor) : kinds (renumberAll f types) = kinds types := by
  rw [kinds, kinds, renumberAll_eq, List.map_map]
  exact congrArg tagSet (List.map_congr_left fun t _ => tag_renumber t)

/-- What an error says of the kinds that cannot be intersected is the same text. -/
theorem kindsLabel_renumber (types : List Descriptor) :
    kindsLabel (renumberAll f types) = kindsLabel types := by
  rw [kindsLabel, kinds_renumber, kindsLabel]

/-- A generator guarded by types is the very same generator, label and all. -/
theorem guarded_renumber (source : Generator) (label : String) (types : List Descriptor) :
    guarded source label (renumberAll f types) = guarded source label types := by
  rw [guarded, guardAll_renumber, guarded]

/-- The tags by which a strategy for an intersection is looked up are the same, and there are such
tags for as many lists of types. -/
theorem customTags?_renumber (types : List Descriptor) :
    customTags? (renumberAll f types) = customTags? types := by
  rw [customTags?, customTags?]
  induction types with
  | nil => rfl
  | cons t rest ih => rw [renumberAll, List.mapM_cons, List.mapM_cons, customTag_renumber, ih]

/-! ## Merged fields -/

/-- What is said of a field, with other identities. -/
def FieldDecls.renumber (f : Nat → Nat) (decls : FieldDecls) : FieldDecls :=
  { decls with types := renumberAll f decls.types }

/-- A declaration of a field joins those made before it under new identities as it did. -/
theorem declareField_renumber (required : Bool) (merged : List (String × FieldDecls))
    (field : String × Descriptor) :
    declareField required (Fields.mapValues (FieldDecls.renumber f) merged)
        (field.1, renumber f field.2) =
      Fields.mapValues (FieldDecls.renumber f) (declareField required merged field) := by
  unfold declareField
  rw [Fields.get?_mapValues, ← Fields.put_mapValues]
  dsimp only
  refine congrArg _ ?_
  cases Fields.get? merged field.1 with
  | none => rfl
  | some known => simp [FieldDecls.renumber, renumberAll_append, renumberAll]

private theorem declareFields_renumber (required : Bool) (fields : List (String × Descriptor)) :
    ∀ merged : List (String × FieldDecls),
      (renumberFields f fields).foldl (declareField required)
          (Fields.mapValues (FieldDecls.renumber f) merged) =
        Fields.mapValues (FieldDecls.renumber f) (fields.foldl (declareField required) merged) := by
  induction fields with
  | nil => exact fun _ => rfl
  | cons field rest ih =>
    intro merged
    rw [renumberFields, List.foldl_cons, List.foldl_cons, declareField_renumber, ih]

/-- The fields that the merge of records has to fill are declared by the same types, in the same
order. -/
theorem fieldDecls_renumber (types : List Descriptor) :
    fieldDecls (renumberAll f types) =
      Fields.mapValues (FieldDecls.renumber f) (fieldDecls types) := by
  unfold fieldDecls
  have empty : ([] : List (String × FieldDecls)) =
      Fields.mapValues (FieldDecls.renumber f) [] := rfl
  conv_lhs => rw [empty]
  generalize ([] : List (String × FieldDecls)) = merged
  induction types generalizing merged with
  | nil => rfl
  | cons t rest ih =>
    rw [renumberAll, List.foldl_cons, List.foldl_cons, ← ih]
    refine congrArg (fun merged => List.foldl _ merged _) ?_
    obtain ⟨id, shape⟩ := t
    cases shape with
    | record fields => exact declareFields_renumber true fields merged
    | partialRecord fields => exact declareFields_renumber false fields merged
    | _ => rfl

/-- A type that merging makes has a new identity, which is not renumbered. Nothing depends on it. -/
theorem shape_fieldType_renumber (types : List Descriptor) :
    (fieldType (renumberAll f types)).shape = renumberShape f (fieldType types).shape := by
  match types with
  | [] => rfl
  | [only] => exact shape_renumber only
  | _ :: _ :: _ => rfl

/-- What keeps a type from being merged with records is its shape. -/
theorem mergeFault?_renumber (t : Descriptor) : mergeFault? (renumber f t) = mergeFault? t := by
  obtain ⟨id, shape⟩ := t
  cases shape <;> rfl

/-! ## Pools -/

/-- The alternatives that a type adds to the pool of unions. -/
theorem alternativesOf_renumber (t : Descriptor) :
    alternativesOf (renumber f t) = renumberAll f (alternativesOf t) := by
  obtain ⟨id, shape⟩ := t
  cases shape <;> rfl

theorem flattenFault?_renumber (t : Descriptor) : flattenFault? (renumber f t) = flattenFault? t := by
  obtain ⟨id, shape⟩ := t
  cases shape with
  | union alternatives =>
    cases alternatives with
    | nil => rfl
    | cons _ _ => rfl
  | _ => rfl

/-- Whether two types count as the same node is kept by an injective change only: two that were
apart must not come to be one. -/
theorem same_renumber (apart : Function.Injective f) (s t : Descriptor) :
    same (renumber f s) (renumber f t) = same s t := by
  obtain ⟨m, _⟩ := s
  obtain ⟨n, _⟩ := t
  change (f m == f n) = (m == n)
  rw [Bool.eq_iff_iff, beq_iff_eq, beq_iff_eq]
  exact apart.eq_iff

/-- A type is in the pool already exactly if it was before. -/
theorem addToPool_renumber (apart : Function.Injective f) (pool : List Descriptor) (t : Descriptor) :
    addToPool (renumberAll f pool) (renumber f t) = renumberAll f (addToPool pool t) := by
  have held : ((renumberAll f pool).any fun seen => same seen (renumber f t)) =
      pool.any fun seen => same seen t := by
    rw [renumberAll_eq, List.any_map]
    exact congrArg pool.any (funext fun seen => same_renumber apart seen t)
  rw [addToPool, addToPool, held]
  split
  · rfl
  · rw [renumberAll_append]
    rfl

/-- The pool of alternatives goes along with identities that are kept apart. -/
theorem pool_renumber (apart : Function.Injective f) (types : List Descriptor) :
    pool (renumberAll f types) = renumberAll f (pool types) := by
  have listed : (renumberAll f types).flatMap alternativesOf =
      renumberAll f (types.flatMap alternativesOf) := by
    induction types with
    | nil => rfl
    | cons t rest ih =>
      rw [renumberAll, List.flatMap_cons, List.flatMap_cons, ih, alternativesOf_renumber,
        renumberAll_append]
  rw [pool, pool, listed]
  have each : ∀ alternatives pool : List Descriptor,
      (renumberAll f alternatives).foldl addToPool (renumberAll f pool) =
        renumberAll f (alternatives.foldl addToPool pool) := by
    intro alternatives
    induction alternatives with
    | nil => exact fun _ => rfl
    | cons t rest ih =>
      intro pool
      rw [renumberAll, List.foldl_cons, List.foldl_cons, addToPool_renumber apart, ih]
  exact each _ []

end Intersection

end Specimen
