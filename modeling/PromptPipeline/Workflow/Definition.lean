import PromptPipeline.Value.Decode
/-!
Workflow definitions.

A workflow is a named, flat list of steps together with a library of prompts. Blocks are written
as opening and closing steps (`if` … `else` … `end_if`, `for_each` … `end_for_each`), jumps as
`goto` to a `label`. A prompt is a template, the provider and model to send it to, free provider
parameters, and how to read the response. The decoders read all of these from data values with
the field names and kind names of the definition format; unknown fields are refused.
-/
namespace PromptPipeline

/-- One step of a workflow. -/
inductive Step where
  /-- assigns the value of an expression to a variable -/
  | set (name expr : String)
  /-- renders, sends and reads the named prompt -/
  | prompt (name : String)
  /-- opens a conditional block -/
  | openIf (condition : String)
  /-- starts the alternative branch of the enclosing conditional block -/
  | elseBranch
  /-- closes a conditional block -/
  | closeIf
  /-- opens a loop binding each item of a list to `var` -/
  | openLoop (var collection : String)
  /-- closes a loop -/
  | closeLoop
  /-- jumps to the step with the named label -/
  | goto (label : String)
  /-- marks a jump target -/
  | label (name : String)
  /-- appends a result row of the named expressions -/
  | output (fields : List String)

/-- The kind names of steps, as definitions write them. -/
def Step.kindNames : List String :=
  ["set", "prompt", "if", "else", "end_if", "for_each", "end_for_each", "goto", "label", "output"]

/-- How the response to a prompt is read. -/
inductive ResponseFormat where
  /-- the whole trimmed response as the field `TEXT` -/
  | text
  /-- the entries of a JSON object found in the response -/
  | json
  /-- the named groups of a pattern matched against the response -/
  | regex
  deriving DecidableEq

/-- How a prompt's response becomes fields: the format, the fields that must be present, and
the pattern of the `regex` format. -/
structure ResponseSpec where
  format : ResponseFormat := .text
  fields : List String := []
  pattern : Option String := none

/-- A prompt of a workflow's library. -/
structure PromptSpec where
  /-- template text with `{{name}}` or `{{name:type}}` placeholders -/
  template : String
  /-- provider name; the configured default when absent -/
  provider : Option String := none
  /-- model name passed to the provider -/
  model : Option String := none
  /-- free provider parameters -/
  parameters : Map := []
  response : ResponseSpec := {}

/-- A workflow definition: its prompts in key order and its steps in execution order. -/
structure Workflow where
  name : String
  description : String := ""
  /-- upper bound on executed steps per item -/
  maxSteps : Option Nat := none
  prompts : List (String × PromptSpec) := []
  steps : List Step := []

open Decoder

/-- Reads a response format from its name: `text`, `json` or `regex`. -/
def ResponseFormat.decode : Decoder ResponseFormat :=
  choice [("text", .text), ("json", .json), ("regex", .regex)]

/-- Reads a response specification; every field may be absent. -/
def ResponseSpec.decode : Decoder ResponseSpec := fun v => do
  let r ← Record.ofValue "struct ParserConfig" ["kind", "fields", "pattern"] true v
  let format := r.field "kind" ResponseFormat.decode
  let fields := r.field "fields" (list string)
  let pattern := r.field "pattern" (option string)
  r.check [Record.faultOf format, Record.faultOf fields, Record.faultOf pattern]
  let spec : ResponseSpec :=
    { format := ← Record.withDefault .text format
      fields := ← Record.withDefault [] fields
      pattern := ← r.optional "pattern" pattern }
  r.finish
  pure spec

/-- Reads a prompt; only the template is required. -/
def PromptSpec.decode : Decoder PromptSpec := fun v => do
  let r ← Record.ofValue "struct PromptDefinition"
    ["template", "provider", "model", "parameters", "parser"] true v
  let template := r.field "template" string
  let provider := r.field "provider" (option string)
  let model := r.field "model" (option string)
  let parameters := r.field "parameters" (entries any)
  let response := r.field "parser" ResponseSpec.decode
  r.check [Record.faultOf template, Record.faultOf provider, Record.faultOf model,
    Record.faultOf parameters, Record.faultOf response]
  let spec : PromptSpec :=
    { template := ← r.required "template" template
      provider := ← r.optional "provider" provider
      model := ← r.optional "model" model
      parameters := ← Record.withDefault [] parameters
      response := ← Record.withDefault {} response }
  r.finish
  pure spec

/-- The alternatives of a step, by kind name. -/
inductive StepKind where
  | set | prompt | openIf | elseBranch | closeIf | openLoop | closeLoop | goto | label | output

/-- The kinds of steps under their names. -/
def StepKind.named : List (String × StepKind) :=
  Step.kindNames.zip [.set, .prompt, .openIf, .elseBranch, .closeIf, .openLoop, .closeLoop,
    .goto, .label, .output]

/-- Reads the fields of a step of the given kind. -/
def StepKind.decodeFields : StepKind → Content → Except DecodeError Step
  | .set, c => do
    let r := Record.ofContent "struct variant Step::Set" ["name", "expr"] true c
    let name := r.field "name" string
    let expr := r.field "expr" string
    r.check [Record.faultOf name, Record.faultOf expr]
    let step := Step.set (← r.required "name" name) (← r.required "expr" expr)
    r.finish
    pure step
  | .prompt, c => do
    let r := Record.ofContent "struct variant Step::Prompt" ["prompt"] true c
    let prompt := r.field "prompt" string
    r.check [Record.faultOf prompt]
    let step := Step.prompt (← r.required "prompt" prompt)
    r.finish
    pure step
  | .openIf, c => do
    let r := Record.ofContent "struct variant Step::If" ["condition"] true c
    let condition := r.field "condition" string
    r.check [Record.faultOf condition]
    let step := Step.openIf (← r.required "condition" condition)
    r.finish
    pure step
  | .elseBranch, c => do c.unit; pure .elseBranch
  | .closeIf, c => do c.unit; pure .closeIf
  | .openLoop, c => do
    let r := Record.ofContent "struct variant Step::ForEach" ["var", "collection"] true c
    let var := r.field "var" string
    let collection := r.field "collection" string
    r.check [Record.faultOf var, Record.faultOf collection]
    let step := Step.openLoop (← r.required "var" var) (← r.required "collection" collection)
    r.finish
    pure step
  | .closeLoop, c => do c.unit; pure .closeLoop
  | .goto, c => do
    let r := Record.ofContent "struct variant Step::Goto" ["label"] true c
    let label := r.field "label" string
    r.check [Record.faultOf label]
    let step := Step.goto (← r.required "label" label)
    r.finish
    pure step
  | .label, c => do
    let r := Record.ofContent "struct variant Step::Label" ["name"] true c
    let name := r.field "name" string
    r.check [Record.faultOf name]
    let step := Step.label (← r.required "name" name)
    r.finish
    pure step
  | .output, c => do
    let r := Record.ofContent "struct variant Step::Output" ["fields"] true c
    let fields := r.field "fields" (list string)
    r.check [Record.faultOf fields]
    let step := Step.output (← r.required "fields" fields)
    r.finish
    pure step

/-- Reads a step: a map whose `kind` entry names the kind of step. -/
def Step.decode : Decoder Step := fun v => do
  let (kind, rest) ← tagged "internally tagged enum Step" "kind" StepKind.named v
  kind.decodeFields rest

/-- Reads a workflow definition; only the name is required. -/
def Workflow.decode : Decoder Workflow := fun v => do
  let r ← Record.ofValue "struct WorkflowDefinition"
    ["name", "description", "max_steps", "prompts", "steps"] true v
  let name := r.field "name" string
  let description := r.field "description" string
  let maxSteps := r.field "max_steps" (option size)
  let prompts := r.field "prompts" (entries PromptSpec.decode)
  let steps := r.field "steps" (list Step.decode)
  r.check [Record.faultOf name, Record.faultOf description, Record.faultOf maxSteps,
    Record.faultOf prompts, Record.faultOf steps]
  let workflow : Workflow :=
    { name := ← r.required "name" name
      description := ← Record.withDefault "" description
      maxSteps := ← r.optional "max_steps" maxSteps
      prompts := ← Record.withDefault [] prompts
      steps := ← Record.withDefault [] steps }
  r.finish
  pure workflow

end PromptPipeline
