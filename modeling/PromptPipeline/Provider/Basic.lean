import PromptPipeline.Json.Write
/-!
Prompts sent to providers, and what comes back.

A request carries the rendered text and, optionally, the provider to use, the model and free
parameters. A provider answers with raw text and the time it took, in milliseconds, or fails with
a fault of one of four kinds, each with the provider's own message.
-/
namespace PromptPipeline

/-- The kinds of provider failure. -/
inductive FaultKind where
  | rateLimited
  | timeout
  /-- the request was rejected: bad model, unknown provider, … -/
  | invalid
  | unknown
  deriving DecidableEq

/-- The words that name a kind of failure in its text. -/
def FaultKind.label : FaultKind → String
  | .rateLimited => "rate limited"
  | .timeout => "timeout"
  | .invalid => "invalid request"
  | .unknown => "provider error"

/-- A kind of failure by its name: `rate_limited`, `timeout`, `invalid` or `unknown`. -/
def FaultKind.ofName? : String → Option FaultKind
  | "rate_limited" => some .rateLimited
  | "timeout" => some .timeout
  | "invalid" => some .invalid
  | "unknown" => some .unknown
  | _ => none

/-- A provider's failure: its kind and the provider's message, kept verbatim. -/
structure ProviderFault where
  kind : FaultKind
  message : String

/-- The text of a failure: the kind's label, a colon, the message. -/
def ProviderFault.text (f : ProviderFault) : String := f.kind.label ++ ": " ++ f.message

/-- A rendered prompt ready to send. -/
structure PromptRequest where
  text : String
  /-- the provider to use; a registry's default applies when absent -/
  provider : Option String := none
  model : Option String := none
  /-- free parameters passed on to the provider -/
  parameters : Map := []

/-- A request as data: `model`, `parameters`, `provider` and `text`, absent names as null. -/
def PromptRequest.toValue (r : PromptRequest) : Value :=
  let name : Option String → Value := fun o => (o.map Value.str).getD .null
  .map [("model", name r.model), ("parameters", .map r.parameters), ("provider", name r.provider),
    ("text", .str r.text)]

/-- A provider's answer: the raw text and the time it took. -/
structure Response where
  rawText : String
  turnaroundMs : UInt64 := 0

/-- What a provider gives for one request. -/
abbrev Reply := Except ProviderFault Response

end PromptPipeline
