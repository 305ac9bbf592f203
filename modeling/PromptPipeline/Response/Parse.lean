import PromptPipeline.Response.Extract
import PromptPipeline.Pattern.Automaton
import PromptPipeline.Workflow.Definition
/-!
Reading the fields of a model's response.

A response specification says how: `text` takes the whole trimmed response as the field `TEXT`;
`json` takes the entries of the JSON object found in the response; `regex` takes the named groups
of the first match of a pattern, each trimmed, leaving out groups that did not take part. The
fields the specification requires must all be there.

A specification is checked before any response is read: a `regex` one needs a pattern that
compiles, has named groups, and names every required field among them.
-/
namespace PromptPipeline.Response

/-- The text of a reason a response could not be read. -/
def failureText (reason : String) : String := "could not parse response: " ++ reason

/-- The compiled pattern of a `regex` specification. -/
def compiledPattern (spec : ResponseSpec) : Except String Pattern.Regex :=
  match spec.pattern with
  | none => .error "regex parser needs a pattern"
  | some p =>
    match Pattern.Regex.compile p with
    | .ok re => .ok re
    | .error e => .error ("bad pattern: " ++ e.text p)

/-- Checks a specification before use; the reason it is unusable. -/
def validate (spec : ResponseSpec) : Except String Unit :=
  match spec.format with
  | .regex => do
    let re ← compiledPattern spec
    let groups := re.names.map (·.2)
    if groups.isEmpty then throw "regex pattern has no named groups"
    match spec.fields.find? (fun f => !groups.contains f) with
    | some f => throw ("required field '" ++ f ++ "' is not a named group of the pattern")
    | none => pure ()
  | _ => pure ()

/-- The named groups of the first match of a pattern, trimmed. -/
def regexFields (raw : String) (spec : ResponseSpec) : Except String Map := do
  let re ← compiledPattern spec
  match re.captures raw with
  | none => throw "pattern did not match the response"
  | some spans =>
    let cs := raw.toList
    pure (Map.ofList (re.names.filterMap fun (i, name) =>
      match spans.getD i none with
      | some (a, b) => some (name, .str (Text.trim (String.ofList ((cs.drop a).take (b - a)))))
      | none => none))

/-- Reads the fields of a response under a specification. -/
def parse (raw : String) (spec : ResponseSpec) : Except String Map := do
  let fields ← match spec.format with
    | .text => pure (Map.ofList [("TEXT", .str (Text.trim raw))])
    | .json =>
      match extractObject raw with
      | some m => pure m
      | none => throw "no JSON object found in response"
    | .regex => regexFields raw spec
  let missing := spec.fields.filter fun f => !fields.contains f
  if missing.isEmpty then pure fields
  else throw ("missing required field(s): " ++ ", ".intercalate missing)

end PromptPipeline.Response
