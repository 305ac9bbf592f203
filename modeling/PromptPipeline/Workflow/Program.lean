import PromptPipeline.Workflow.Definition
import PromptPipeline.Expr.Parser
import PromptPipeline.Scope
/-!
Checked workflows.

`Program.compile` reads a workflow's steps once, left to right. It matches every closing step
with the innermost open block, parses every expression, records labels (the first of a name
wins) and the loops around every step, and writes a jump target for each control step:

* `if`: the first step of its `else` branch, or its `end_if`, taken when the condition is false;
* `else`: its `end_if`;
* `for_each`: the step after its `end_for_each`, taken for an empty list;
* `end_for_each`: the first step of the body, taken while items remain;
* `goto`: its label, which must not lie inside a loop that does not enclose the `goto`.

Every problem is collected, in the order of the steps; blocks left open follow, outermost first,
then the faults of `goto` steps in step order. A workflow with any problem gives no program.
-/
namespace PromptPipeline

/-- A step with its expressions parsed and its prompt looked up. -/
inductive Instruction where
  | set (name : String) (expr : Expr)
  | prompt (name : String) (spec : PromptSpec)
  | openIf (condition : Expr)
  | elseBranch
  | closeIf
  | openLoop (var : String) (collection : Expr)
  | closeLoop
  | goto (label : String)
  | label
  | output (fields : List (String × Expr))

/-- The kind name of an instruction, as of the step it comes from. -/
def Instruction.kind : Instruction → String
  | .set .. => "set"
  | .prompt .. => "prompt"
  | .openIf _ => "if"
  | .elseBranch => "else"
  | .closeIf => "end_if"
  | .openLoop .. => "for_each"
  | .closeLoop => "end_for_each"
  | .goto _ => "goto"
  | .label => "label"
  | .output _ => "output"

/-- A problem of a workflow found before anything runs. -/
inductive ValidationError where
  /-- a closing step with no open block -/
  | unopened (step : Nat) (kind expected : String)
  /-- a closing step whose innermost open block is of the other kind -/
  | crossed (step : Nat) (kind openKind : String) (openedAt : Nat)
  /-- a second `else` in one conditional block -/
  | duplicateElse (step openedAt : Nat)
  /-- a block open at the end of the steps -/
  | unclosed (step : Nat) (kind : String)
  /-- a label name used before -/
  | duplicateLabel (step : Nat) (label : String) (first : Nat)
  /-- a `goto` to a label that no step carries -/
  | danglingGoto (step : Nat) (label : String)
  /-- a `goto` to a label inside a loop that does not enclose the `goto` -/
  | gotoIntoLoop (step : Nat) (label : String)
  /-- an assignment to a name that the scope keeps for itself -/
  | reservedName (step : Nat) (name : String)
  /-- an expression that does not parse -/
  | expression (step : Nat) (source : String) (error : SyntaxError)
  /-- a `prompt` step naming no prompt of the library -/
  | unknownPrompt (step : Nat) (prompt : String)
  /-- a prompt whose template or response specification is faulty -/
  | invalidPrompt (prompt : String) (message : String)
  /-- an `output` step without fields -/
  | emptyOutput (step : Nat)

namespace ValidationError

/-- The name of the kind of problem. -/
def variant : ValidationError → String
  | .unopened .. => "Unopened"
  | .crossed .. => "Crossed"
  | .duplicateElse .. => "DuplicateElse"
  | .unclosed .. => "Unclosed"
  | .duplicateLabel .. => "DuplicateLabel"
  | .danglingGoto .. => "DanglingGoto"
  | .gotoIntoLoop .. => "GotoIntoLoop"
  | .reservedName .. => "ReservedName"
  | .expression .. => "Expression"
  | .unknownPrompt .. => "UnknownPrompt"
  | .invalidPrompt .. => "InvalidPrompt"
  | .emptyOutput _ => "EmptyOutput"

/-- The text of a problem. -/
def message : ValidationError → String
  | .unopened step kind expected =>
    s!"step {step}: '{kind}' has no open '{expected}'"
  | .crossed step kind openKind openedAt =>
    s!"step {step}: '{kind}' closes the '{openKind}' opened at step {openedAt}"
  | .duplicateElse step openedAt =>
    s!"step {step}: second 'else' in the 'if' opened at step {openedAt}"
  | .unclosed step kind => s!"step {step}: '{kind}' is never closed"
  | .duplicateLabel step label first =>
    s!"step {step}: label '{label}' already defined at step {first}"
  | .danglingGoto step label => s!"step {step}: goto targets unknown label '{label}'"
  | .gotoIntoLoop step label => s!"step {step}: goto jumps into the loop around label '{label}'"
  | .reservedName step name => s!"step {step}: '{name}' is reserved and cannot be assigned"
  | .expression step source error =>
    let reason := error.message
    s!"step {step}: invalid expression '{source}': {reason}"
  | .unknownPrompt step prompt => s!"step {step}: unknown prompt '{prompt}'"
  | .invalidPrompt prompt message => s!"prompt '{prompt}': {message}"
  | .emptyOutput step => s!"step {step}: output lists no fields"

end ValidationError

/-- All problems of one workflow. -/
structure ValidationFailure where
  workflow : String
  errors : List ValidationError

/-- The text of a failed check: the workflow's name and one indented line per problem. -/
def ValidationFailure.message (f : ValidationFailure) : String :=
  let name := f.workflow
  let lines := "\n  ".intercalate (f.errors.map ValidationError.message)
  s!"workflow '{name}' is invalid:\n  {lines}"

/-- A checked workflow: one instruction per step, the jump target of each step, and the number of
loops around each step. -/
structure Program where
  name : String
  instructions : List Instruction
  jumps : List (Option Nat)
  loopDepth : List Nat
  maxSteps : Option Nat

/-- A block open during the scan: a conditional block with the step of its `else`, or a loop. -/
inductive Block where
  | cond (start : Nat) (elseAt : Option Nat)
  | loop (start : Nat)

namespace Block

/-- The kind name of the step that opened the block. -/
def kind : Block → String
  | .cond .. => "if"
  | .loop _ => "for_each"

/-- The step that opened the block. -/
def start : Block → Nat
  | .cond s _ => s
  | .loop s => s

end Block

/-- The state of the scan over the steps. -/
structure Scan where
  /-- problems in the order found -/
  errors : List ValidationError := []
  /-- jump targets, one per step -/
  jumps : List (Option Nat)
  /-- open blocks, innermost first -/
  blocks : List Block := []
  /-- open loops by their first step, outermost first -/
  loops : List Nat := []
  /-- labels with the step of their first use -/
  labels : List (String × Nat) := []
  /-- `goto` steps with their labels, in step order -/
  gotos : List (Nat × String) := []

namespace Scan

/-- Records a problem. -/
def note (s : Scan) (e : ValidationError) : Scan := { s with errors := s.errors ++ [e] }

/-- Writes a jump target. -/
def jump (s : Scan) (source target : Nat) : Scan :=
  { s with jumps := s.jumps.set source (some target) }

/-- Parses an expression of a step, recording the problem if it does not parse. -/
def parse (s : Scan) (step : Nat) (source : String) : Scan × Option Expr :=
  match Expr.parse source with
  | .ok e => (s, some e)
  | .error err => (s.note (.expression step source err), none)

/-- Parses the fields of an `output` step, keeping those that parse. -/
def parseFields (step : Nat) : Scan → List String → Scan × List (String × Expr)
  | s, [] => (s, [])
  | s, f :: fs =>
    let (s, e) := s.parse step f
    let (s, rest) := parseFields step s fs
    (s, (e.map ((f, ·))).toList ++ rest)

/-- Visits step `i`, giving its instruction unless an expression or the prompt is faulty. -/
def visit (prompts : List (String × PromptSpec)) (s : Scan) (i : Nat) :
    Step → Scan × Option Instruction
  | .set name source =>
    let s := if Scope.reservedNames.contains name then s.note (.reservedName i name) else s
    let (s, e) := s.parse i source
    (s, e.map (.set name ·))
  | .prompt name =>
    match prompts.lookup name with
    | some spec => (s, some (.prompt name spec))
    | none => (s.note (.unknownPrompt i name), none)
  | .openIf source =>
    let s := { s with blocks := .cond i none :: s.blocks }
    let (s, e) := s.parse i source
    (s, e.map .openIf)
  | .elseBranch =>
    let s := match s.blocks with
      | .cond start none :: rest => { s with blocks := .cond start (some i) :: rest }
      | .cond start (some _) :: _ => s.note (.duplicateElse i start)
      | inner :: _ => s.note (.crossed i "else" inner.kind inner.start)
      | [] => s.note (.unopened i "else" "if")
    (s, some .elseBranch)
  | .closeIf =>
    let s := match s.blocks with
      | .cond start (some e) :: rest => { (s.jump start (e + 1)).jump e i with blocks := rest }
      | .cond start none :: rest => { s.jump start i with blocks := rest }
      | inner :: _ => s.note (.crossed i "end_if" inner.kind inner.start)
      | [] => s.note (.unopened i "end_if" "if")
    (s, some .closeIf)
  | .openLoop var source =>
    let s := if var == "parsed" || var == "loop" then s.note (.reservedName i var) else s
    let s := { s with blocks := .loop i :: s.blocks, loops := s.loops ++ [i] }
    let (s, e) := s.parse i source
    (s, e.map (.openLoop var ·))
  | .closeLoop =>
    let s := match s.blocks with
      | .loop start :: rest =>
        { (s.jump start (i + 1)).jump i (start + 1) with blocks := rest, loops := s.loops.dropLast }
      | inner :: _ => s.note (.crossed i "end_for_each" inner.kind inner.start)
      | [] => s.note (.unopened i "end_for_each" "for_each")
    (s, some .closeLoop)
  | .goto label => ({ s with gotos := s.gotos ++ [(i, label)] }, some (.goto label))
  | .label name =>
    match s.labels.lookup name with
    | some first => (s.note (.duplicateLabel i name first), some .label)
    | none => ({ s with labels := s.labels ++ [(name, i)] }, some .label)
  | .output fields =>
    let s := if fields.isEmpty then s.note (.emptyOutput i) else s
    let (s, parsed) := parseFields i s fields
    (s, some (.output parsed))

/-- Visits the steps from step `i` on, giving the instructions and the loops open before each
step, outermost first. -/
def visitAll (prompts : List (String × PromptSpec)) :
    Scan → Nat → List Step → Scan × List Instruction × List (List Nat)
  | s, _, [] => (s, [], [])
  | s, i, step :: rest =>
    let enclosing := s.loops
    let (s, instr) := s.visit prompts i step
    let (s, instrs, nesting) := visitAll prompts s (i + 1) rest
    (s, instr.getD .label :: instrs, enclosing :: nesting)

/-- Resolves the `goto` steps: a label that exists and whose loops all enclose the `goto`. -/
def resolve (nesting : List (List Nat)) (s : Scan) : Scan :=
  s.gotos.foldl (fun s (step, label) =>
    match s.labels.lookup label with
    | none => s.note (.danglingGoto step label)
    | some target =>
      if (nesting.getD target []).isPrefixOf (nesting.getD step []) then s.jump step target
      else s.note (.gotoIntoLoop step label)) s

end Scan

/-- Checks a workflow and builds its program; `promptFaults` gives the problems of a prompt, in
the order they are reported. -/
def Program.compile (promptFaults : PromptSpec → List String) (w : Workflow) :
    Except ValidationFailure Program :=
  let start : Scan := { jumps := List.replicate w.steps.length none }
  let (s, instructions, nesting) := start.visitAll w.prompts 0 w.steps
  let s := s.blocks.reverse.foldl (fun s b => s.note (.unclosed b.start b.kind)) s
  let s := s.resolve nesting
  let s := w.prompts.foldl (fun s (name, spec) =>
    (promptFaults spec).foldl (fun s m => s.note (.invalidPrompt name m)) s) s
  if s.errors.isEmpty then
    .ok { name := w.name, instructions, jumps := s.jumps, loopDepth := nesting.map List.length,
          maxSteps := w.maxSteps }
  else .error { workflow := w.name, errors := s.errors }

end PromptPipeline
