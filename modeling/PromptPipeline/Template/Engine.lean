import PromptPipeline.Template.Render
import PromptPipeline.Template.Parse
import PromptPipeline.Template.Placeholder
/-!
Prompt templates: reading, checking and rendering them.

A prompt's template may write typed placeholders `{{ name:type }}`; they are read as `{{ name }}`.
Rendering is strict about missing values. When it fails for a missing value, the error names the
first placeholder path of the template that the bindings do not resolve, and suggests the nearest
bound name; other failures keep the engine's text, which names the template `<string>`. Checking
a template only reads it, and reports every failure as a syntax error, in the template
`__validate__`.
-/
namespace PromptPipeline.Template

/-- The error a prompt's renderer reports for an engine error. -/
def reportError (source : String) (bindings : Map) (e : EngineError) : TemplateError :=
  match e.kind with
  | .undefinedValue =>
    let missing := (firstUnresolved source bindings).getD "unknown"
    TemplateError.undefinedAt missing e.line (bindings.map (·.1))
  | .syntaxError => .syntaxError (e.text "<string>") { line := e.line }
  | .aborted => .aborted { line := e.line }
  | _ => .render (e.text "<string>") { line := e.line }

/-- The text of a prompt's template rendered with bindings. -/
def renderPrompt (template : String) (bindings : Map) : Except TemplateError String :=
  let source := normalize template
  match parse source with
  | .error e => .error (reportError source bindings e)
  | .ok nodes =>
    match render (bindings.map fun e => (e.1, Datum.ofValue e.2)) nodes with
    | .ok text => .ok text
    | .error e => .error (reportError source bindings e)

/-- Checks that a prompt's template reads. -/
def validate (template : String) : Except TemplateError Unit :=
  match parse (normalize template) with
  | .error e => .error (.syntaxError (e.text "__validate__") { line := e.line })
  | .ok _ => .ok ()

end PromptPipeline.Template
