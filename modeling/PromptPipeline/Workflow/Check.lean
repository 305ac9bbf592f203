import PromptPipeline.Workflow.Program
import PromptPipeline.Template.Engine
import PromptPipeline.Response.Parse
/-!
Checking a workflow's prompts.

A prompt is usable when its template reads and its response specification is usable. The
problems come in that order, each as the text of its error.
-/
namespace PromptPipeline

/-- The problems of a prompt: its template's, then its response specification's. -/
def PromptSpec.faults (spec : PromptSpec) : List String :=
  let templateFault := match Template.validate spec.template with
    | .error e => [e.message]
    | .ok _ => []
  let responseFault := match Response.validate spec.response with
    | .error reason => [Response.failureText reason]
    | .ok _ => []
  templateFault ++ responseFault

/-- Checks a workflow, prompts included, and builds its program. -/
def Workflow.check (w : Workflow) : Except ValidationFailure Program :=
  Program.compile PromptSpec.faults w

end PromptPipeline
