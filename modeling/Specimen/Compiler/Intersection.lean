import Specimen.Compiler.Basic

/-!
# Intersections

How an intersection is generated. Nested intersections dissolve; what is left is drawn by the first
rule that covers all kinds present, the built-in rules before the registered ones, or else by trying
the intersectees one by one. Whatever a rule answers, every draw passes the guards of all
intersectees.

The built-in rules:

- records and partial records are merged field by field;
- the alternatives of unions are pooled;
- marked constraints look for a registered strategy that covers their tags.
-/

namespace Specimen

namespace Intersection

mutual

/-- The intersectees of nested intersections, in order. -/
def flatten : List Descriptor → List Descriptor
  | [] => []
  | t :: rest => flattenOne t ++ flatten rest

/-- An intersection as what it intersects; any other descriptor alone. -/
def flattenOne : Descriptor → List Descriptor
  | .node _ (.intersect intersectees) => flatten intersectees
  | t => [t]

end

/-- Draws that every type accepts. -/
def guarded (source : Generator) (label : String) (types : List Descriptor) : Generator :=
  .filtered source (some label) (Descriptor.guardAll types)

/-- The kinds present among types. -/
def kinds (types : List Descriptor) : List Tag := tagSet (types.map Descriptor.tag)

/-- The kinds present, as reports name them. -/
def kindsLabel (types : List Descriptor) : String :=
  String.intercalate " & " ((kinds types).map Tag.name)

/-- Whether all of some things lie in a set. -/
def covers {α : Type} [BEq α] (set things : List α) : Bool := things.all set.contains

/-- Draws from any intersectee what all of them accept. -/
def generic (types : List Descriptor) : Plan Generator := do
  match Generator.oneOf? (← types.mapM Plan.generatorOf) with
  | none => return .json Generator.jsonDepth
  | some anyOf =>
    return guarded anyOf
      ("no draw satisfied every intersectee of `" ++ kindsLabel types ++ "`") types

/-! ## Records -/

/-- What the merged records say of one field. -/
structure FieldDecls where
  types : List Descriptor
  /-- Whether a record, and not only partial records, declares it. -/
  required : Bool

/-- One more declaration of a field. -/
def declareField (required : Bool) (merged : List (String × FieldDecls))
    (field : String × Descriptor) : List (String × FieldDecls) :=
  let known := (Fields.get? merged field.1).getD ⟨[], false⟩
  Fields.put merged field.1 ⟨known.types ++ [field.2], known.required || required⟩

/-- The declarations of all fields, in the order of their first appearance. -/
def fieldDecls (types : List Descriptor) : List (String × FieldDecls) :=
  types.foldl (fun merged t =>
    match t.shape with
    | .record fields => fields.foldl (declareField true) merged
    | .partialRecord fields => fields.foldl (declareField false) merged
    | _ => merged) []

/-- The type of a field declared several times. -/
def fieldType : List Descriptor → Descriptor
  | [only] => only
  | several => .node 0 (.intersect several)

/-- The generator of one merged field. -/
def mergedField (name : String) (decls : FieldDecls) : Plan (String × Generator) := do
  let field ← Plan.generatorOf (fieldType decls.types)
  let field := guarded field ("field `" ++ name ++ "` rejected") decls.types
  return (name, if decls.required then field else Generator.optional field)

/-- Why a type is not merged, if it is not. -/
def mergeFault? (t : Descriptor) : Option GenError :=
  match t.shape with
  | .record _ => none
  | .partialRecord _ => none
  | _ => some (.unsupportedType t.tag.name)

/-- Records and partial records as one record; fields that no record declares may be absent. -/
def mergeRecords (types : List Descriptor) : Plan Generator :=
  match types.findSome? mergeFault? with
  | some fault => Plan.fail fault
  | none => do
    let merged := fieldDecls types
    let fields ← merged.mapM fun (name, decls) => mergedField name decls
    let optional := (merged.filter fun entry => !entry.2.required).map Prod.fst
    return Generator.dropAbsent (.recordOf fields) optional

/-! ## Unions -/

/-- The alternatives of a union. -/
def alternativesOf (t : Descriptor) : List Descriptor :=
  match t.shape with
  | .union alternatives => alternatives
  | _ => []

/-- A pool with one more alternative, unless it holds the same node already. -/
def addToPool (pool : List Descriptor) (t : Descriptor) : List Descriptor :=
  if pool.any fun seen => Descriptor.same seen t then pool else pool ++ [t]

/-- The alternatives of all unions, shared ones once. -/
def pool (types : List Descriptor) : List Descriptor :=
  (types.flatMap alternativesOf).foldl addToPool []

/-- Why a type is not flattened, if it is not. -/
def flattenFault? (t : Descriptor) : Option GenError :=
  match t.shape with
  | .union [] => some (.uninhabited Tag.union.name)
  | .union _ => none
  | _ => some (.unsupportedType t.tag.name)

/-- Draws a candidate from every alternative, and takes one that all unions accept. -/
def flattenUnions (types : List Descriptor) : Plan Generator :=
  match types.findSome? flattenFault? with
  | some fault => Plan.fail fault
  | none => do
    let candidates ← (pool types).mapM Plan.generatorOf
    return .rotated candidates "no flattened alternative satisfied every union"
      (Descriptor.guardAll types)

/-! ## Marked constraints -/

/-- The tags of constraints that are all marked. -/
def customTags? (types : List Descriptor) : Option (List String) :=
  types.mapM Descriptor.customTag

/-- The registered strategy that covers the tags of all intersectees, if each is marked and one is
registered. -/
def dispatch (c : Compiler) (types : List Descriptor) : Plan Generator :=
  let entry := (customTags? types).bind fun tags =>
    c.customIntersections.find? fun entry => covers entry.tags tags
  match entry with
  | some entry => entry.strategy c.maxSize types
  | none => generic types

/-! ## Rules -/

/-- The built-in rules, in the order in which they are tried. -/
inductive BuiltIn
  | mergeRecords | flattenUnions | dispatchConstraints
deriving DecidableEq

namespace BuiltIn

def all : List BuiltIn := [mergeRecords, flattenUnions, dispatchConstraints]

def name : BuiltIn → String
  | mergeRecords => "merge records"
  | flattenUnions => "flatten unions"
  | dispatchConstraints => "dispatch tagged constraints"

/-- The kinds a rule covers. -/
def tags : BuiltIn → List Tag
  | mergeRecords => [.partialRecord, .record]
  | flattenUnions => [.union]
  | dispatchConstraints => [.constraint]

def strategy (c : Compiler) : BuiltIn → IntersectStrategy
  | mergeRecords, _ => Intersection.mergeRecords
  | flattenUnions, _ => Intersection.flattenUnions
  | dispatchConstraints, _ => Intersection.dispatch c

end BuiltIn

/-- All rules of a compiler, in the order in which they are tried. -/
def rules (c : Compiler) : List IntersectionRule :=
  BuiltIn.all.map (fun rule => ⟨rule.name, rule.tags, rule.strategy c⟩) ++ c.customRules

/-- How two or more intersectees are drawn, before their guards: by the first rule that covers them,
or else one by one. -/
def candidate (c : Compiler) (types : List Descriptor) : Plan Generator :=
  match (rules c).find? fun rule => covers rule.tags (kinds types) with
  | some rule => rule.strategy c.maxSize types
  | none => generic types

/-- The generator of an intersection. -/
def resolve (c : Compiler) (intersectees : List Descriptor) : Plan Generator :=
  match flatten intersectees with
  | [] => return .json Generator.jsonDepth
  | [only] => do return guarded (← Plan.generatorOf only) "intersection guard" [only]
  | types => do return guarded (← candidate c types) "intersection guard" types

end Intersection

/-- The dump of a compiler: what is registered, by name. -/
def Compiler.dump (c : Compiler) : String :=
  let names (entries : List String) : String := Dump.list (entries.map dumpQuote)
  let set (entries : List String) : String :=
    "\x7b" ++ Dump.commaSeparated (entries.map dumpQuote) ++ "\x7d"
  Dump.fields "Compiler"
    [("strategies", names (textSet (c.strategies.map Prod.fst))),
      ("custom_constraints", names (textSet (c.customConstraints.map Prod.fst))),
      ("rules", names ((Intersection.rules c).map IntersectionRule.name)),
      ("custom_intersections",
        Dump.list (c.customIntersections.map fun entry => set entry.tags)),
      ("max_size", toString c.maxSize)]

end Specimen
