import Specimen.Value.Display

/-!
# Generation errors

What can go wrong between a descriptor and its values, each cause a constructor, with the wording in
`GenError.message`.
-/

namespace Specimen

inductive GenError
  /-- No strategy exists for a kind of type. -/
  | unsupportedType (tag : String)
  /-- A marked constraint has no registered strategy. -/
  | missingCustomGenerator (tag : String)
  /-- A strategy was handed arguments it cannot use. -/
  | invalidArgs (tag reason : String)
  /-- A type has no values. -/
  | uninhabited (tag : String)
  /-- A filter found the budget of rejections spent. -/
  | retryBudgetExceeded (reason : String)
  /-- A generated value fails the guard of its own type. -/
  | counterexampleFound (trial : Nat) (seed : UInt64) (value : Value)

namespace GenError

def message : GenError → String
  | unsupportedType tag => "unsupported type: no generation strategy for tag `" ++ tag ++ "`"
  | missingCustomGenerator tag =>
    "missing custom generator for `" ++ tag ++ "`; register it before compiling"
  | invalidArgs tag reason => "invalid args for custom generator `" ++ tag ++ "`: " ++ reason
  | uninhabited tag => "type `" ++ tag ++ "` is uninhabited"
  | retryBudgetExceeded reason => "retry budget exceeded: " ++ reason
  | counterexampleFound trial seed value =>
    "counterexample found on trial " ++ toString trial ++ " (seed " ++ toString seed.toNat ++
      "): " ++ value.display

end GenError

end Specimen
