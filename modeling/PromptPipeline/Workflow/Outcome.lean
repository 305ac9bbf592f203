import PromptPipeline.Value
/-!
What running one item produces.

An item's run gives the rows of its `output` steps, the raw text and total time of the prompts it
sent, the number of steps it executed, and, when it stopped early, why: the family of the cause
(an expression, a template, a provider, a response), the step where it happened and the message.
Rows written before a failure are kept.
-/
namespace PromptPipeline

/-- The family of the cause that stopped an item. -/
inductive Category where
  | runtime
  | template
  | provider
  | parse
  deriving DecidableEq

/-- The name of a family, as it is written in reports. -/
def Category.name : Category → String
  | .runtime => "runtime"
  | .template => "template"
  | .provider => "provider"
  | .parse => "parse"

/-- The family of a name. -/
def Category.ofName? : String → Option Category
  | "runtime" => some .runtime
  | "template" => some .template
  | "provider" => some .provider
  | "parse" => some .parse
  | _ => none

/-- Why an item stopped: the family, the step if known, and the message. -/
structure Failure where
  category : Category
  step : Option Nat
  message : String

/-- The one-line report of a failure: `[family] step N: message`. -/
def Failure.display (f : Failure) : String :=
  match f.step with
  | some step => "[" ++ f.category.name ++ "] step " ++ toString step ++ ": " ++ f.message
  | none => "[" ++ f.category.name ++ "] " ++ f.message

/-- What one item's run produced. -/
structure ItemOutcome where
  /-- one row per `output` step executed -/
  outputRows : List Map := []
  /-- why the item stopped early, if it did -/
  error : Option Failure := none
  /-- the raw text of the last answered prompt -/
  rawText : Option String := none
  /-- the time of all answered prompts, in milliseconds, on a 64-bit counter that wraps -/
  turnaroundMs : UInt64 := 0
  stepsExecuted : Nat := 0
  /-- whether the template engine aborted, so that nothing of the item can be reported -/
  aborted : Bool := false

/-- Whether the item ran to the end. -/
def ItemOutcome.succeeded (o : ItemOutcome) : Bool := o.error.isNone

end PromptPipeline
