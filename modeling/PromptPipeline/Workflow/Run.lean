import PromptPipeline.Workflow.Check
import PromptPipeline.Workflow.Outcome
import PromptPipeline.Provider.Registry
import PromptPipeline.Expr.Eval
import PromptPipeline.Json.Read
import PromptPipeline.Scope
/-!
Running a program for one item.

A run starts with a scope holding the item's bindings and executes instructions from the first
one. Each instruction goes to the next one or to its jump target: an `if` whose condition is false
jumps past its branch, `else` jumps to the end of the conditional, a loop with no items jumps past
its body and the end of a loop jumps back while items remain, and a `goto` jumps to its label,
leaving the loops that do not enclose the label. The run ends when the counter leaves the program.

A prompt renders its template over the scope, sends the text to the provider, and reads the answer
into fields that are merged into `parsed`. Each of the three may fail, and stops the item with
the step where it happened. So does an expression that cannot be evaluated, and so does the step
budget: a run executes at most that many steps.

The three collaborators are parameters: the run is the same for every renderer, provider and
reader, and each of them may answer according to the calls made before, through a state that all
three read and update.
-/
namespace PromptPipeline

/-- What a run needs from outside: rendering templates over bindings, answering requests, and
reading responses into fields. Each call reads the state `σ` left by the calls before it and may
change it. -/
structure Agents (σ : Type) where
  render : σ → String → Map → Except Template.TemplateError String × σ
  answer : σ → PromptRequest → Reply × σ
  read : σ → String → ResponseSpec → Except String Map × σ

/-- The cause that stops an item. -/
inductive Fault where
  | runtime (e : EvalError)
  | template (e : Template.TemplateError)
  | provider (f : ProviderFault)
  | parse (reason : String)

namespace Fault

/-- The family of a cause. -/
def category : Fault → Category
  | .runtime _ => .runtime
  | .template _ => .template
  | .provider _ => .provider
  | .parse _ => .parse

/-- The message of a cause. -/
def message : Fault → String
  | .runtime e => e.message
  | .template e => e.message
  | .provider f => f.text
  | .parse reason => Response.failureText reason

/-- Whether the cause is the template engine giving up on a fault of its own. -/
def isAbort : Fault → Bool
  | .template (.aborted _) => true
  | _ => false

/-- The failure record of a cause at a step. -/
def at_ (f : Fault) (step : Nat) : Failure := ⟨f.category, some step, f.message⟩

end Fault

/-- The default step budget, for programs and callers that set none. -/
def defaultMaxSteps : Nat := 10000

/-- The items a loop goes over: a list, or a string holding the JSON text of a list. -/
def loopItems : Value → Except EvalError (List Value)
  | .list items => .ok items
  | .str text =>
    match Json.read text with
    | .ok (.list items) => .ok items
    | _ => .error (.notIterable "string")
  | other => .error (.notIterable other.typeName)

/-- The state of a run between steps: the scope, the provider's state, and the outcome so far. -/
structure Machine (σ : Type) where
  scope : Scope
  agent : σ
  outcome : ItemOutcome := {}

namespace Program

/-- The step after `pc` when it jumps: its target in the jump table, else the next step. -/
def jumpFrom (p : Program) (pc : Nat) : Nat := (p.jumps.getD pc none).getD (pc + 1)

/-- The number of loops around a step. -/
def depthAt (p : Program) (pc : Nat) : Nat := p.loopDepth.getD pc 0

/-- Evaluates an expression over the scope of a machine. -/
def evalIn (m : Machine σ) (e : Expr) : Except Fault Value :=
  (e.eval m.scope.get).mapError .runtime

/-- The row of an `output` step: each field's value under its name. -/
def row (m : Machine σ) (fields : List (String × Expr)) : Except Fault Map :=
  fields.foldlM (fun r (name, e) => do pure (r.insert name (← evalIn m e))) []

/-- Renders, sends and reads one prompt, merging the fields read into `parsed`. The raw text and
the time of an answer are kept even when the answer cannot be read. -/
def prompt (agents : Agents σ) (name : String) (spec : PromptSpec) (m : Machine σ) :
    Except Fault Unit × Machine σ :=
  let (rendered, agent) := agents.render m.agent spec.template m.scope.snapshot
  let m := { m with agent }
  match rendered with
  | .error e => (.error (.template (e.inPrompt name)), m)
  | .ok text =>
    let request : PromptRequest :=
      { text, provider := spec.provider, model := spec.model, parameters := spec.parameters }
    let (reply, agent) := agents.answer m.agent request
    let m := { m with agent }
    match reply with
    | .error f => (.error (.provider f), m)
    | .ok r =>
      let m := { m with outcome := { m.outcome with
        turnaroundMs := m.outcome.turnaroundMs + r.turnaroundMs, rawText := some r.rawText } }
      let (fields, agent) := agents.read m.agent r.rawText spec.response
      let m := { m with agent }
      match fields with
      | .error reason => (.error (.parse reason), m)
      | .ok fields => (.ok (), { m with scope := m.scope.mergeParsed fields })

/-- Executes the instruction at `pc`: the step after it, or the cause that stops the item. -/
def step (agents : Agents σ) (p : Program) (pc : Nat) (m : Machine σ) :
    Instruction → Except Fault Nat × Machine σ
  | .set name e =>
    match evalIn m e with
    | .ok v => (.ok (pc + 1), { m with scope := m.scope.set name v })
    | .error f => (.error f, m)
  | .openIf condition =>
    match evalIn m condition with
    | .ok v => (.ok (if v.truthy then pc + 1 else p.jumpFrom pc), m)
    | .error f => (.error f, m)
  | .elseBranch => (.ok (p.jumpFrom pc), m)
  | .closeIf | .label => (.ok (pc + 1), m)
  | .openLoop var collection =>
    match evalIn m collection >>= fun v => (loopItems v).mapError .runtime with
    | .ok items =>
      let (entered, scope) := m.scope.push var items
      (.ok (if entered then pc + 1 else p.jumpFrom pc), { m with scope })
    | .error f => (.error f, m)
  | .closeLoop =>
    let (more, scope) := m.scope.advance
    (.ok (if more then p.jumpFrom pc else pc + 1), { m with scope })
  | .goto _ =>
    let target := p.jumpFrom pc
    (.ok target, { m with scope := m.scope.truncate (p.depthAt target) })
  | .prompt name spec =>
    match prompt agents name spec m with
    | (.ok (), m) => (.ok (pc + 1), m)
    | (.error f, m) => (.error f, m)
  | .output fields =>
    match row m fields with
    | .ok r => (.ok (pc + 1), { m with outcome := { m.outcome with
        outputRows := m.outcome.outputRows ++ [r] } })
    | .error f => (.error f, m)

/-- Executes from `pc` with `remaining` steps of the budget `limit` left. A step that would
exceed the budget stops the item at that step. -/
def execute (agents : Agents σ) (p : Program) (limit : Nat) :
    Nat → Nat → Machine σ → Machine σ
  | remaining, pc, m =>
    match p.instructions[pc]? with
    | none => m
    | some ins =>
      match remaining with
      | 0 => { m with outcome := { m.outcome with
          error := some ((Fault.runtime (.stepLimitExceeded limit)).at_ pc) } }
      | rest + 1 =>
        let m := { m with outcome := { m.outcome with stepsExecuted := m.outcome.stepsExecuted + 1 } }
        match step agents p pc m ins with
        | (.ok next, m) => execute agents p limit rest next m
        | (.error f, m) =>
          let failed := { m.outcome with error := some (f.at_ pc), aborted := f.isAbort }
          { m with outcome := failed }

/-- Runs a program for one item with these bindings. The budget is the program's own, else
`maxSteps`. Gives the outcome and the provider's state afterwards. -/
def run (agents : Agents σ) (p : Program) (maxSteps : Nat) (agent : σ) (bindings : Map) :
    ItemOutcome × σ :=
  let limit := p.maxSteps.getD maxSteps
  let m := execute agents p limit limit 0 { scope := Scope.ofSeed bindings, agent }
  (m.outcome, m.agent)

end Program

/-- The template engine, a provider of this library, and the response reader. -/
def Agents.standard : Agents Provider where
  render provider template bindings := (Template.renderPrompt template bindings, provider)
  answer := Provider.answer
  read provider raw spec := (Response.parse raw spec, provider)

end PromptPipeline
