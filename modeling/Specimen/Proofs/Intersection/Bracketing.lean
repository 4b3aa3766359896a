import Specimen.Proofs.Compiler.Depth
import Specimen.Proofs.Intersection.Conjunction

/-!
# The bracketing of intersections

An intersection of intersections says no more than the sequence of what is intersected in the end,
however it is bracketed, and with whatever empty intersections and intersections of one in between.
The two ways of putting `a`, `b` and `c` together by `and` are one intersection: they accept the same
values and compile to the same generator, so they also draw, reject and blame alike
(`bracketing_makes_no_difference`).

What a sequence of intersectees is handed to is said of the sequence alone (`recourse`), and that a
bracketed descriptor is handed to it is what there is to show: the resolver dissolves first and
decides afterwards. The induction is on how a descriptor brackets its sequence.

That two descriptors compile alike is said at every bound on the nesting of compilations. The bound
that `Compiler.compile` allows a descriptor grows with its brackets, so of two bracketings one may be
abandoned there where the other is not; otherwise they come to the same.
-/

namespace Specimen

namespace Intersection

/-! ## Bracketed sequences -/

mutual

/-- A descriptor brackets a sequence of descriptors that are no intersections: it is the only one of
them, or it intersects what brackets the sequence piece by piece. -/
inductive Brackets : Descriptor → List Descriptor → Prop
  | alone {t : Descriptor} (plain : t.tag ≠ .intersect) : Brackets t [t]
  | intersect {id : Nat} {intersectees sequence : List Descriptor}
      (pieces : BracketsAll intersectees sequence) :
      Brackets (.node id (.intersect intersectees)) sequence

/-- Descriptors bracket a sequence piece by piece. -/
inductive BracketsAll : List Descriptor → List Descriptor → Prop
  | nil : BracketsAll [] []
  | cons {t : Descriptor} {rest piece others : List Descriptor} (first : Brackets t piece)
      (later : BracketsAll rest others) : BracketsAll (t :: rest) (piece ++ others)

end

/-- Both of two descriptors bracket the one sequence and then the other. -/
theorem Brackets.and {a b : Descriptor} {one other : List Descriptor} (left : Brackets a one)
    (right : Brackets b other) (next : Nat) :
    Brackets ((a.and b).run next).1 (one ++ other) := by
  have pieces : BracketsAll [a, b] (one ++ (other ++ [])) := .cons left (.cons right .nil)
  rw [List.append_nil] at pieces
  exact .intersect pieces

theorem flattenOne_of_plain {t : Descriptor} (plain : t.tag ≠ .intersect) : flattenOne t = [t] := by
  obtain ⟨id, shape⟩ := t
  cases shape with
  | intersect intersectees => exact absurd rfl plain
  | _ => rfl

mutual

theorem flattenOne_of_brackets : ∀ {t : Descriptor} {sequence : List Descriptor},
    Brackets t sequence → flattenOne t = sequence
  | _, _, .alone plain => flattenOne_of_plain plain
  | _, _, .intersect pieces => flatten_of_bracketsAll pieces

theorem flatten_of_bracketsAll : ∀ {types sequence : List Descriptor},
    BracketsAll types sequence → flatten types = sequence
  | _, _, .nil => rfl
  | _, _, .cons first later => by
    rw [flatten, flattenOne_of_brackets first, flatten_of_bracketsAll later]

end

mutual

/-- Every descriptor brackets a sequence. -/
theorem brackets_flattenOne : ∀ t : Descriptor, Brackets t (flattenOne t)
  | .node id shape => by
    cases shape with
    | intersect intersectees => exact .intersect (bracketsAll_flatten intersectees)
    | _ => exact .alone (by simp [Descriptor.tag, Descriptor.shape, Shape.tag])

theorem bracketsAll_flatten : ∀ types : List Descriptor, BracketsAll types (flatten types)
  | [] => .nil
  | t :: rest => .cons (brackets_flattenOne t) (bracketsAll_flatten rest)

end

/-- So there is one sequence that a descriptor brackets, and it is what is left when nested
intersections dissolve. -/
theorem brackets_iff {t : Descriptor} {sequence : List Descriptor} :
    Brackets t sequence ↔ flattenOne t = sequence := by
  constructor
  · exact flattenOne_of_brackets
  · intro same
    rw [← same]
    exact brackets_flattenOne t

/-! ## What a sequence is handed to -/

/-- What is asked for the generator of an intersection. -/
inductive Recourse
  /-- Nothing: no value is excluded. -/
  | anything
  /-- The one descriptor that there is. -/
  | alone (t : Descriptor)
  /-- A built-in rule that is no dispatch, which is handed the descriptors. -/
  | builtIn (rule : BuiltIn) (types : List Descriptor)
  /-- What is registered for the tags of marked constraints, which is handed the descriptors. -/
  | customIntersection (entry : CustomIntersection) (types : List Descriptor)
  /-- A registered rule, which is handed the descriptors. -/
  | customRule (rule : IntersectionRule) (types : List Descriptor)
  /-- The descriptors one by one. -/
  | generic (types : List Descriptor)

/-- What a sequence of descriptors that are no intersections is handed to: of several, to the first
built-in rule that covers their kinds, which hands marked constraints on, or else to the first
registered one. -/
def recourse (c : Compiler) : List Descriptor → Recourse
  | [] => .anything
  | [only] => .alone only
  | types =>
    match BuiltIn.all.find? fun rule => covers rule.tags (kinds types) with
    | some .dispatchConstraints =>
      match (customTags? types).bind fun tags =>
        c.customIntersections.find? fun entry => covers entry.tags tags with
      | some entry => .customIntersection entry types
      | none => .generic types
    | some rule => .builtIn rule types
    | none =>
      match c.customRules.find? fun rule => covers rule.tags (kinds types) with
      | some rule => .customRule rule types
      | none => .generic types

/-- What a strategy makes, behind the guards of the descriptors that it was handed. -/
def behindGuards (types : List Descriptor) (plan : Plan Generator) : Plan Generator := do
  return guarded (← plan) "intersection guard" types

/-- The generator that is asked for. -/
def Recourse.plan (c : Compiler) : Recourse → Plan Generator
  | .anything => return .json Generator.jsonDepth
  | .alone t => behindGuards [t] (Plan.generatorOf t)
  | .builtIn rule types => behindGuards types (rule.strategy c c.maxSize types)
  | .customIntersection entry types => behindGuards types (entry.strategy c.maxSize types)
  | .customRule rule types => behindGuards types (rule.strategy c.maxSize types)
  | .generic types => behindGuards types (Intersection.generic types)

variable {c : Compiler} {intersectees sequence : List Descriptor}

/-- Several descriptors are drawn as what they are handed to draws them. -/
theorem candidate_eq_recourse (several : 2 ≤ sequence.length) :
    behindGuards sequence (candidate c sequence) = (recourse c sequence).plan c := by
  unfold candidate rules
  rw [List.find?_append, List.find?_map]
  match sequence with
  | first :: second :: rest =>
    unfold recourse
    simp only [Function.comp_def]
    cases BuiltIn.all.find? fun rule => covers rule.tags (kinds (first :: second :: rest)) with
    | some rule =>
      cases rule with
      | dispatchConstraints =>
        simp only [Option.map_some, Option.some_or, BuiltIn.strategy, dispatch]
        cases (customTags? (first :: second :: rest)).bind fun tags =>
          c.customIntersections.find? fun entry => covers entry.tags tags with
        | some entry => rfl
        | none => rfl
      | _ => rfl
    | none =>
      simp only [Option.map_none, Option.none_or]
      cases c.customRules.find? fun rule => covers rule.tags (kinds (first :: second :: rest)) with
      | some rule => rfl
      | none => rfl

/-- An intersection is resolved by what its sequence is handed to, however it brackets it. -/
theorem resolve_of_bracketsAll (pieces : BracketsAll intersectees sequence) :
    resolve c intersectees = (recourse c sequence).plan c := by
  unfold resolve
  rw [flatten_of_bracketsAll pieces]
  match sequence with
  | [] => rfl
  | [only] => rfl
  | first :: second :: rest => exact candidate_eq_recourse (Nat.le_add_left 2 rest.length)

/-! ## Bracketings of one sequence -/

section Bracketed

variable {t : Descriptor}

theorem guard_of_brackets (brackets : Brackets t sequence) (v : Value) :
    t.guard v = Descriptor.guardAll sequence v := by
  rw [← flattenOne_of_brackets brackets, Descriptor.guardAll_flattenOne]

theorem step_of_brackets (brackets : Brackets t sequence) (outer : t.tag = .intersect) :
    c.step t = (recourse c sequence).plan c := by
  cases brackets with
  | alone plain => exact absurd outer plain
  | intersect pieces => exact resolve_of_bracketsAll pieces

end Bracketed

/-- Two intersections that bracket one sequence of descriptors are one. They have the same guard, and
both are what the sequence is handed to, which is handed the sequence itself. Within any bound they
compile to the same, be it an error or a generator; so the same choices give the same samples, with
the same rejections and the same filter to blame. -/
theorem bracketing_makes_no_difference (c : Compiler) {a b : Descriptor}
    {sequence : List Descriptor} (left : Brackets a sequence) (right : Brackets b sequence)
    (outerLeft : a.tag = .intersect) (outerRight : b.tag = .intersect) :
    (∀ v, a.guard v = b.guard v) ∧
    c.step a = (recourse c sequence).plan c ∧ c.step b = (recourse c sequence).plan c ∧
    (∀ depth, c.compileWithin depth a = c.compileWithin depth b) ∧
    (c.compile a ≠ .error .abandoned → c.compile b ≠ .error .abandoned →
      c.compile a = c.compile b) ∧
    (∀ g h, c.Compiles a g → c.Compiles b h → ∀ source count run,
      g.sample source count run = h.sample source count run) := by
  have stepLeft : c.step a = (recourse c sequence).plan c := step_of_brackets left outerLeft
  have stepRight : c.step b = (recourse c sequence).plan c := step_of_brackets right outerRight
  have within : ∀ depth, c.compileWithin depth a = c.compileWithin depth b := by
    intro depth
    cases depth with
    | zero => rfl
    | succ depth =>
      show (c.step a).run (c.compileWithin depth) = (c.step b).run (c.compileWithin depth)
      rw [stepLeft, stepRight]
  refine ⟨?_, stepLeft, stepRight, within, ?_, ?_⟩
  · intro v
    rw [guard_of_brackets left, guard_of_brackets right]
  · -- each is settled at its own bound, and so at the greater of the two
    intro settledLeft settledRight
    have atLeft := c.extends_of_le (Nat.le_max_left (a.weight + Compiler.nestingRoom)
      (b.weight + Compiler.nestingRoom)) a settledLeft
    have atRight := c.extends_of_le (Nat.le_max_right (a.weight + Compiler.nestingRoom)
      (b.weight + Compiler.nestingRoom)) b settledRight
    rw [within] at atLeft
    exact atLeft.symm.trans atRight
  · intro g h compilesLeft compilesRight source count run
    obtain ⟨depth, compiled⟩ := compilesLeft
    have also : c.Compiles b g := ⟨depth, (within depth).symm.trans compiled⟩
    rw [also.unique compilesRight]

/-- Three descriptors for which the lying rule is registered. -/
def trueThrice : List Descriptor :=
  [.node 1 .boolean, .node 2 (.literal (.bool true)), .node 3 .boolean]

/-- The first two of them, put together by `and`, and the third. -/
def bracketedLeft : Descriptor :=
  let firstTwo := ((Descriptor.node 1 .boolean).and (.node 2 (.literal (.bool true)))).run 4
  ((firstTwo.1.and (.node 3 .boolean)).run firstTwo.2).1

/-- The first and the others, with intersections of none and of one in between. -/
def bracketedRight : Descriptor :=
  .node 9 (.intersect [.node 1 .boolean, .node 8 (.intersect [.node 7 (.intersect []),
    .node 6 (.intersect [.node 2 (.literal (.bool true))]), .node 3 .boolean])])

/-- Both bracketings are handed to the lying rule, as the three descriptors that they bracket, and
come to one generator. -/
theorem lying_rule_sees_no_brackets :
    Brackets bracketedLeft trueThrice ∧ Brackets bracketedRight trueThrice ∧
      recourse lyingCompiler trueThrice =
        .customRule ⟨"liar", [.boolean, .literal], lyingStrategy⟩ trueThrice ∧
      ∃ g, lyingCompiler.compile bracketedLeft = .ok g ∧
        lyingCompiler.compile bracketedRight = .ok g := by
  have left : Brackets bracketedLeft trueThrice :=
    Brackets.and (Brackets.and (.alone (by decide)) (.alone (by decide)) 4) (.alone (by decide)) 5
  have right : Brackets bracketedRight trueThrice := brackets_iff.mpr rfl
  have compiled : lyingCompiler.compile bracketedLeft = .ok (guarded
      (.oneOf (.constant (.string "true")) [.boolean]) "intersection guard" trueThrice) := rfl
  obtain ⟨_, _, _, within, _⟩ := bracketing_makes_no_difference lyingCompiler left right rfl rfl
  refine ⟨left, right, rfl, _, compiled, ?_⟩
  exact (within (bracketedRight.weight + Compiler.nestingRoom)).symm.trans rfl

end Intersection

end Specimen
