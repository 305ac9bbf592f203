import PromptPipeline.Job.Item
/-!
The records of all jobs, and the moves of their items.

Registering a job gives it the next number, from 1, and a pending record per input. An item moves
only from pending to running, from running to done or to error, and from pending to cancelled;
any other move is refused and changes nothing. Finishing an item keeps the rows, raw text and
time of its run, and a failure its cause. Cancelling a job cancels exactly the items still
pending and says how many.
-/
namespace PromptPipeline

/-- Why the tracker refused an operation. -/
inductive TrackerError where
  | unknownJob (job : Nat)
  | unknownItem (job item : Nat)
  | illegalTransition (job item : Nat) (source target : ItemStatus)

namespace TrackerError

/-- The message of a refusal. -/
def message : TrackerError → String
  | .unknownJob job => s!"unknown job {job}"
  | .unknownItem job item => s!"job {job} has no item {item}"
  | .illegalTransition job item source target =>
    let a := source.name
    let b := target.name
    s!"item {item} of job {job} cannot go from {a} to {b}"

/-- The name of the kind of refusal. -/
def variant : TrackerError → String
  | .unknownJob _ => "UnknownJob"
  | .unknownItem .. => "UnknownItem"
  | .illegalTransition .. => "IllegalTransition"

end TrackerError

/-- The records of every registered job, by job number in ascending order. -/
structure Tracker where
  jobs : List (Nat × List ItemRecord) := []
  /-- the number of the last job registered -/
  lastId : Nat := 0

namespace Tracker

/-- Registers a job with a pending item per input; its number. -/
def register (t : Tracker) (inputs : List ItemInput) : Nat × Tracker :=
  let job := t.lastId + 1
  let records := inputs.zipIdx.map fun (input, i) => ({ itemId := i, input } : ItemRecord)
  (job, { jobs := t.jobs ++ [(job, records)], lastId := job })

/-- The records of a job, in item order. -/
def records (t : Tracker) (job : Nat) : Except TrackerError (List ItemRecord) :=
  match t.jobs.lookup job with
  | some rs => .ok rs
  | none => .error (.unknownJob job)

/-- The same tracker with the records of a job replaced. -/
def setRecords (t : Tracker) (job : Nat) (rs : List ItemRecord) : Tracker :=
  { t with jobs := t.jobs.map fun (j, old) => if j == job then (j, rs) else (j, old) }

/-- The record of an item. -/
def item (t : Tracker) (job item : Nat) : Except TrackerError ItemRecord := do
  let rs ← t.records job
  match rs[item]? with
  | some r => pure r
  | none => throw (.unknownItem job item)

/-- Moves an item from status `source` to `target`, updating its record; refused when the item
is in another status. -/
def transition (t : Tracker) (job itemId : Nat) (source target : ItemStatus)
    (update : ItemRecord → ItemRecord) : Except TrackerError Tracker := do
  let rs ← t.records job
  let r ← t.item job itemId
  if r.status != source then throw (.illegalTransition job itemId r.status target)
  pure (t.setRecords job (rs.set itemId (update { r with status := target })))

/-- A worker takes a pending item. -/
def markRunning (t : Tracker) (job item : Nat) : Except TrackerError Tracker :=
  t.transition job item .pending .running fun r => { r with started := true }

/-- A running item finished; its rows, raw text and time are kept. -/
def markDone (t : Tracker) (job item : Nat) (o : ItemOutcome) : Except TrackerError Tracker :=
  t.transition job item .running .done fun r =>
    { r with outputRows := o.outputRows, rawText := o.rawText, turnaroundMs := o.turnaroundMs,
             finished := true }

/-- A running item failed; its cause is kept, and so are the rows, raw text and time of its run. -/
def markError (t : Tracker) (job item : Nat) (cause : Failure) (o : ItemOutcome) :
    Except TrackerError Tracker :=
  t.transition job item .running .error fun r =>
    { r with error := some cause, outputRows := o.outputRows, rawText := o.rawText,
             turnaroundMs := o.turnaroundMs, finished := true }

/-- Cancels one pending item: the turn of that item in `cancelPending`, which takes the items'
locks one after another, so that other operations may come between two turns. -/
def markCancelled (t : Tracker) (job item : Nat) : Except TrackerError Tracker :=
  t.transition job item .pending .cancelled fun r => { r with finished := true }

/-- Cancels every pending item of a job; how many were cancelled. -/
def cancelPending (t : Tracker) (job : Nat) : Except TrackerError (Nat × Tracker) := do
  let rs ← t.records job
  let cancel (r : ItemRecord) : ItemRecord :=
    if r.status == .pending then { r with status := .cancelled, finished := true } else r
  let count := (rs.filter (·.status == .pending)).length
  pure (count, t.setRecords job (rs.map cancel))

/-- The progress of a job. -/
def snapshot (t : Tracker) (job : Nat) : Except TrackerError Progress := do
  let rs ← t.records job
  pure (Progress.ofStatuses (rs.map (·.status)))

/-- The status of a job. -/
def status (t : Tracker) (job : Nat) : Except TrackerError JobStatus :=
  (·.jobStatus) <$> t.snapshot job

end Tracker

end PromptPipeline
