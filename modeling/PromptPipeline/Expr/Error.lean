/-!
Why evaluating an expression or running a step failed, and the message for each cause.
-/
namespace PromptPipeline

/-- A failure while evaluating an expression or running a workflow step. -/
inductive EvalError where
  | undefinedVariable (name : String)
  | nonNumericComparison (op left right : String)
  | typeMismatch (op found : String)
  | divisionByZero
  | indexOutOfRange (index : Int) (length : Nat)
  | notIterable (found : String)
  | notFinite (op : String)
  | stepLimitExceeded (limit : Nat)
  deriving DecidableEq, Repr

namespace EvalError

/-- The message of a failure. -/
def message : EvalError → String
  | .undefinedVariable name => s!"undefined variable '{name}'"
  | .nonNumericComparison op left right => s!"'{op}' needs numeric operands, got {left} and {right}"
  | .typeMismatch op found => s!"'{op}' cannot be applied to {found}"
  | .divisionByZero => "division by zero"
  | .indexOutOfRange index length => s!"index {index} out of range for list of length {length}"
  | .notIterable found => s!"cannot iterate over {found}"
  | .notFinite op => s!"result of '{op}' is not a finite number"
  | .stepLimitExceeded limit => s!"step budget of {limit} exhausted"

/-- The name of the cause. -/
def variant : EvalError → String
  | .undefinedVariable _ => "UndefinedVariable"
  | .nonNumericComparison _ _ _ => "NonNumericComparison"
  | .typeMismatch _ _ => "TypeMismatch"
  | .divisionByZero => "DivisionByZero"
  | .indexOutOfRange _ _ => "IndexOutOfRange"
  | .notIterable _ => "NotIterable"
  | .notFinite _ => "NotFinite"
  | .stepLimitExceeded _ => "StepLimitExceeded"

end EvalError

end PromptPipeline
