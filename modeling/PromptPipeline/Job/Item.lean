import PromptPipeline.Workflow.Outcome
import PromptPipeline.Value.Decode
/-!
The items of a job and their records.

A job runs one workflow over many items. An item is one pass of a repeated run, bound as
`iteration`, or one row of a dataset, whose columns are its bindings. Each item has a status that
starts `pending`, becomes `running` when a worker takes it, and ends `done`, `error` or
`cancelled`. A job's status is never stored: it follows from the counts of its items' statuses,
its progress.
-/
namespace PromptPipeline

/-- What a single item runs on. -/
inductive ItemInput where
  /-- one pass of a repeated run -/
  | pass (iteration : Nat)
  /-- one dataset row, with its position in the dataset -/
  | row (index : Nat) (bindings : Map)

namespace ItemInput

/-- The bindings an item's run starts with. -/
def bindings : ItemInput → Map
  | .pass iteration => [("iteration", .ofNat iteration)]
  | .row _ bindings => bindings

/-- An input as data: its kind and fields. -/
def toValue : ItemInput → Value
  | .pass iteration => .map [("iteration", .ofNat iteration), ("kind", .str "repeat")]
  | .row index bindings =>
    .map [("bindings", .map bindings), ("index", .ofNat index), ("kind", .str "row")]

/-- The kinds of input by name. -/
inductive Kind where
  | pass | row

open Decoder in
/-- Reads an input: a map whose `kind` is `repeat` or `row`. -/
def decode : Decoder ItemInput := fun v => do
  let (kind, c) ← tagged "internally tagged enum ItemInput" "kind"
    [("repeat", Kind.pass), ("row", Kind.row)] v
  match kind with
  | .pass =>
    let r := Record.ofContent "struct variant ItemInput::Repeat" ["iteration"] false c
    let iteration := r.field "iteration" size
    r.check [Record.faultOf iteration]
    let input := ItemInput.pass (← r.required "iteration" iteration)
    r.finish
    pure input
  | .row =>
    let r := Record.ofContent "struct variant ItemInput::Row" ["index", "bindings"] false c
    let index := r.field "index" size
    let bindings := r.field "bindings" (entries any)
    r.check [Record.faultOf index, Record.faultOf bindings]
    let input := ItemInput.row (← r.required "index" index) (← r.required "bindings" bindings)
    r.finish
    pure input

end ItemInput

/-- Where an item is in its life. -/
inductive ItemStatus where
  | pending
  | running
  | done
  | error
  | cancelled
  deriving DecidableEq

namespace ItemStatus

/-- Whether an item has finished: done, failed or cancelled. -/
def isTerminal : ItemStatus → Bool
  | .done | .error | .cancelled => true
  | .pending | .running => false

/-- The name of a status. -/
def name : ItemStatus → String
  | .pending => "pending"
  | .running => "running"
  | .done => "done"
  | .error => "error"
  | .cancelled => "cancelled"

/-- The status of a name. -/
def ofName? : String → Option ItemStatus
  | "pending" => some .pending
  | "running" => some .running
  | "done" => some .done
  | "error" => some .error
  | "cancelled" => some .cancelled
  | _ => none

end ItemStatus

/-- The status of a job, derived from its items. -/
inductive JobStatus where
  /-- some item is pending or running -/
  | running
  | done
  | doneWithErrors
  /-- every item was cancelled before it ran -/
  | cancelled
  deriving DecidableEq

/-- The name of a job status. -/
def JobStatus.name : JobStatus → String
  | .running => "running"
  | .done => "done"
  | .doneWithErrors => "done-with-errors"
  | .cancelled => "cancelled"

/-- Everything known about one item. `started` and `finished` say whether the item was taken by a
worker and whether it reached a final status. -/
structure ItemRecord where
  itemId : Nat
  input : ItemInput
  status : ItemStatus := .pending
  outputRows : List Map := []
  error : Option Failure := none
  rawText : Option String := none
  turnaroundMs : UInt64 := 0
  started : Bool := false
  finished : Bool := false

/-- The counts of a job's items by status, and the share of items that have finished. -/
structure Progress where
  total : Nat := 0
  pending : Nat := 0
  running : Nat := 0
  done : Nat := 0
  error : Nat := 0
  cancelled : Nat := 0
  /-- finished items in percent, rounded down; 100 for a job without items -/
  percent : Nat := 100

namespace Progress

/-- The number of finished items. -/
def terminal (p : Progress) : Nat := p.done + p.error + p.cancelled

/-- Counts one more item of a status. -/
def count (p : Progress) : ItemStatus → Progress
  | .pending => { p with total := p.total + 1, pending := p.pending + 1 }
  | .running => { p with total := p.total + 1, running := p.running + 1 }
  | .done => { p with total := p.total + 1, done := p.done + 1 }
  | .error => { p with total := p.total + 1, error := p.error + 1 }
  | .cancelled => { p with total := p.total + 1, cancelled := p.cancelled + 1 }

/-- The progress of items with these statuses. -/
def ofStatuses (statuses : List ItemStatus) : Progress :=
  let p := statuses.foldl count {}
  { p with percent := if p.total = 0 then 100 else p.terminal * 100 / p.total }

/-- The job status the counts show: running while an item is pending or running, cancelled when
every item of a non-empty job was cancelled, done with errors when some item failed, else
done. -/
def jobStatus (p : Progress) : JobStatus :=
  if p.pending + p.running > 0 then .running
  else if p.total > 0 && p.cancelled == p.total then .cancelled
  else if p.error > 0 then .doneWithErrors
  else .done

end Progress

end PromptPipeline
