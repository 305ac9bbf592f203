import PromptPipeline.Template.Suggest
/-!
Errors of templates.

The engine reports an `EngineError`: a kind, an optional detail and the line where it arose. Its
text names the kind, the detail after a colon, and the template with the line in parentheses:
`syntax error: unexpected end of block (in __validate__:1)`.

A prompt's renderer turns it into a `TemplateError`: a missing variable (named by its dotted path,
with a suggestion among the known names), a syntax error, any other failure while rendering, or
an abort, where the engine itself gave up (slicing nothing backwards, cycling through nothing).
Its location is the line, or `prompt:line` once the prompt is known.
-/
namespace PromptPipeline.Template

/-- The kinds of engine errors. -/
inductive ErrorKind where
  | syntaxError
  | invalidOperation
  | undefinedValue
  | unknownFilter
  | unknownTest
  | unknownFunction
  | unknownMethod
  | tooManyArguments
  | missingArgument
  | badEscape
  | cannotUnpack
  | nonKey
  | templateNotFound
  /-- the engine stopped on a fault of its own, which no template error describes -/
  | aborted
  deriving DecidableEq

/-- The words for a kind of engine error. -/
def ErrorKind.text : ErrorKind → String
  | .syntaxError => "syntax error"
  | .invalidOperation => "invalid operation"
  | .undefinedValue => "undefined value"
  | .unknownFilter => "unknown filter"
  | .unknownTest => "unknown test"
  | .unknownFunction => "unknown function"
  | .unknownMethod => "unknown method"
  | .tooManyArguments => "too many arguments"
  | .missingArgument => "missing argument"
  | .badEscape => "bad string escape"
  | .cannotUnpack => "cannot unpack"
  | .nonKey => "not a key type"
  | .templateNotFound => "template not found"
  | .aborted => "aborted"

/-- An error of the engine at a line of a template. -/
structure EngineError where
  kind : ErrorKind
  detail : Option String := none
  line : Nat := 0

/-- The text of an engine error in the template called `name`. -/
def EngineError.text (name : String) (e : EngineError) : String :=
  let what := match e.detail with
    | some d => e.kind.text ++ ": " ++ d
    | none => e.kind.text
  what ++ " (in " ++ name ++ ":" ++ toString e.line ++ ")"

/-- A syntax error with its detail. -/
def EngineError.syntaxError (detail : String) (line : Nat) : EngineError :=
  { kind := .syntaxError, detail := some detail, line }

/-- Where in a prompt's template an error arose. -/
structure Location where
  line : Nat
  prompt : Option String := none

/-- The text of a location: `line 3`, or `grade:3` in the prompt `grade`. -/
def Location.text (l : Location) : String :=
  match l.prompt with
  | some p => p ++ ":" ++ toString l.line
  | none => "line " ++ toString l.line

/-- Why a prompt's template could not be rendered. -/
inductive TemplateError where
  /-- a variable that the bindings do not hold, with the nearest known name -/
  | undefinedVariable (name : String) (location : Location) (suggestion : Option String)
  /-- a template that does not parse; `message` is the engine's text -/
  | syntaxError (message : String) (location : Location)
  /-- any other failure while rendering; `message` is the engine's text -/
  | render (message : String) (location : Location)
  /-- the engine stopped on a fault of its own: nothing of the rendering can be reported -/
  | aborted (location : Location)

namespace TemplateError

/-- The location of an error. -/
def location : TemplateError → Location
  | .undefinedVariable _ l _ | .syntaxError _ l | .render _ l | .aborted l => l

/-- The same error located in the named prompt. -/
def inPrompt (e : TemplateError) (prompt : String) : TemplateError :=
  match e with
  | .undefinedVariable n l s => .undefinedVariable n { l with prompt := some prompt } s
  | .syntaxError m l => .syntaxError m { l with prompt := some prompt }
  | .render m l => .render m { l with prompt := some prompt }
  | .aborted l => .aborted { l with prompt := some prompt }

/-- The name of the kind of error. -/
def variant : TemplateError → String
  | .undefinedVariable .. => "UndefinedVariable"
  | .syntaxError .. => "SyntaxError"
  | .render .. => "Render"
  | .aborted .. => "Aborted"

/-- The text of an error. -/
def message : TemplateError → String
  | .undefinedVariable name l suggestion =>
    let hint := match suggestion with
      | some s => ", did you mean '" ++ s ++ "'?"
      | none => ""
    "undefined variable '" ++ name ++ "' at " ++ l.text ++ hint
  | .syntaxError m l => "syntax error at " ++ l.text ++ ": " ++ m
  | .render m l => "render failed at " ++ l.text ++ ": " ++ m
  | .aborted l => "the template engine aborted at " ++ l.text

/-- An error for a missing variable, with the nearest of the known names as suggestion. -/
def undefinedAt (name : String) (line : Nat) (known : List String) : TemplateError :=
  .undefinedVariable name { line } (suggest name known)

end TemplateError

end PromptPipeline.Template
