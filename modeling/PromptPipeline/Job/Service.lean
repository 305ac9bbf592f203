import PromptPipeline.Job.Tracker
import PromptPipeline.Workflow.Run
/-!
Running jobs on a pool of workers.

Starting a job checks the workflow and the number of workers (1 to 99), registers the items with
the tracker, queues them, and adds one worker task per worker to the end of a single task queue
shared by all jobs. Nothing runs until some job is waited for.

A worker task, when it runs, takes items from its job's queue until the queue is empty or the job
is cancelled: it marks the item running (skipping it if that is refused), runs the program on the
item's bindings, records the outcome as done or error, and sends a completion. A worker never
pauses in the middle, so the first worker of a job to run does all of the job's queued items.

Waiting for a job runs the task queue from the front, 61 tasks at a time, and stops after the
first round of tasks at whose end none of that job's workers is left; tasks of other jobs that
come first in the queue run too. A job can be waited for once; afterwards the service forgets it,
though the tracker keeps its records.

Each job's completions go to its stream. The stream can be taken once while the job is known;
completions sent before it is taken wait in it, and when the job is forgotten before its stream
was taken, the stream is dropped.
-/
namespace PromptPipeline

/-- The report of an item that finished, done or failed. -/
structure Completion where
  job : Nat
  itemId : Nat
  status : ItemStatus
  error : Option Failure
  turnaroundMs : UInt64

/-- Why a job could not be started or waited for. -/
inductive ServiceError where
  /-- the number of workers is not from 1 to 99 -/
  | invalidConcurrency (count : Nat)
  /-- the job is not known to the service, or was already waited for -/
  | notRunning (job : Nat)

namespace ServiceError

/-- The message of a service error. -/
def message : ServiceError → String
  | .invalidConcurrency n => s!"concurrency must be between 1 and 99, got {n}"
  | .notRunning job => s!"job {job} is not running under this service"

end ServiceError

/-- A job known to the service. -/
structure LiveJob where
  workflow : String
  program : Program
  /-- the items no worker has taken yet, with their bindings -/
  queue : List (Nat × Map)
  cancelled : Bool := false
  /-- completions waiting in the stream, while it has not been taken -/
  inbox : List Completion := []
  streamTaken : Bool := false

/-- The state of a service: the tracker, the provider's state, the live jobs, the task queue
(one entry per worker task, naming its job) and the streams that have been taken. -/
structure Service (σ : Type) where
  tracker : Tracker := {}
  agent : σ
  /-- the step budget of runs whose programs set none -/
  maxSteps : Nat := defaultMaxSteps
  jobs : List (Nat × LiveJob) := []
  tasks : List Nat := []
  streams : List (Nat × List Completion) := []

namespace Service

/-- The fewest and most workers a job may have. -/
def minWorkers : Nat := 1
def maxWorkers : Nat := 99

/-- How many tasks run between two looks at whether the awaited job is finished. -/
def roundSize : Nat := 61

/-- A fresh service with this provider state and step budget. -/
def create (agent : σ) (maxSteps : Nat) : Service σ := { agent, maxSteps }

/-- The live job with this number. -/
def live? (s : Service σ) (job : Nat) : Option LiveJob := s.jobs.lookup job

/-- The same service with a live job changed. -/
def updateJob (s : Service σ) (job : Nat) (f : LiveJob → LiveJob) : Service σ :=
  { s with jobs := s.jobs.map fun (j, l) => if j == job then (j, f l) else (j, l) }

/-- Checks a workflow and starts it on `workers` workers over these inputs; the job's number. -/
def createRun (s : Service σ) (w : Workflow) (inputs : List ItemInput) (workers : Nat) :
    Except (Sum ValidationFailure ServiceError) (Nat × Service σ) := do
  let program ← (w.check).mapError Sum.inl
  if workers < minWorkers || workers > maxWorkers then throw (.inr (.invalidConcurrency workers))
  let (job, tracker) := s.tracker.register inputs
  let queue := inputs.zipIdx.map fun (input, i) => (i, input.bindings)
  let live : LiveJob := { workflow := w.name, program, queue }
  pure (job, { s with tracker, jobs := s.jobs ++ [(job, live)],
                      tasks := s.tasks ++ List.replicate workers job })

/-- Sends a completion to its job's stream: the taken stream, else the live job's inbox, else
nowhere. -/
def deliver (s : Service σ) (c : Completion) : Service σ :=
  match s.streams.lookup c.job with
  | some _ =>
    { s with streams := s.streams.map fun (j, q) => if j == c.job then (j, q ++ [c]) else (j, q) }
  | none =>
    match s.live? c.job with
    | some l => if l.streamTaken then s else s.updateJob c.job fun l => { l with inbox := l.inbox ++ [c] }
    | none => s

/-- A worker runs one item: marks it running, runs the program, records the outcome and sends a
completion. A refused mark skips the item. -/
def runItem (agents : Agents σ) (job : Nat) (program : Program) (s : Service σ)
    (item : Nat × Map) : Service σ :=
  let (itemId, bindings) := item
  match s.tracker.markRunning job itemId with
  | .error _ => s
  | .ok tracker =>
    let (outcome, agent) := program.run agents s.maxSteps s.agent bindings
    let s := { s with tracker, agent }
    let (status, recorded) := match outcome.error with
      | none => (ItemStatus.done, tracker.markDone job itemId outcome)
      | some cause => (ItemStatus.error, tracker.markError job itemId cause outcome)
    match recorded with
    | .error _ => s
    | .ok tracker =>
      { s with tracker }.deliver ⟨job, itemId, status, outcome.error, outcome.turnaroundMs⟩

/-- A worker task of a job runs: unless the job is cancelled, it takes every queued item in
order. -/
def runTask (agents : Agents σ) (s : Service σ) (job : Nat) : Service σ :=
  match s.live? job with
  | none => s
  | some l =>
    if l.cancelled then s
    else
      let s := s.updateJob job fun l => { l with queue := [] }
      l.queue.foldl (runItem agents job l.program) s

/-- Runs up to `n` tasks from the front of the task queue. -/
def runRound (agents : Agents σ) : Nat → Service σ → Service σ
  | 0, s => s
  | n + 1, s =>
    match s.tasks with
    | [] => s
    | job :: rest => runRound agents n (runTask agents { s with tasks := rest } job)

/-- Runs rounds of tasks until none of the job's tasks is left, at most `fuel` rounds. -/
def runUntilDone (agents : Agents σ) (job : Nat) : Nat → Service σ → Service σ
  | 0, s => s
  | fuel + 1, s =>
    if s.tasks.contains job then runUntilDone agents job fuel (runRound agents roundSize s)
    else s

/-- Waits for a live job: runs tasks until its workers are done, forgets the job, and reports
its progress. -/
def wait (agents : Agents σ) (s : Service σ) (job : Nat) :
    Except (Sum ServiceError TrackerError) (Progress × Service σ) := do
  if (s.live? job).isNone then throw (.inl (.notRunning job))
  -- the awaited job's stream is dropped with it unless it was taken
  let s := s.updateJob job fun l => { l with streamTaken := true, inbox := [] }
  let s := runUntilDone agents job (s.tasks.length + 1) s
  let s := { s with jobs := s.jobs.filter (·.1 != job) }
  let progress ← (s.tracker.snapshot job).mapError Sum.inr
  pure (progress, s)

/-- Cancels a job: stops its workers from taking more items and cancels its pending items;
how many were cancelled. -/
def cancel (s : Service σ) (job : Nat) : Except TrackerError (Nat × Service σ) := do
  let s := s.updateJob job fun l => { l with cancelled := true }
  let (n, tracker) ← s.tracker.cancelPending job
  pure (n, { s with tracker })

/-- The name of the workflow of a live job. -/
def workflowName (s : Service σ) (job : Nat) : Option String := (s.live? job).map (·.workflow)

/-- Takes the completion stream of a live job, once; whether it was taken now. -/
def takeStream (s : Service σ) (job : Nat) : Bool × Service σ :=
  match s.live? job with
  | some l =>
    if l.streamTaken then (false, s)
    else
      let s := s.updateJob job fun l => { l with streamTaken := true, inbox := [] }
      (true, { s with streams := s.streams ++ [(job, l.inbox)] })
  | none => (false, s)

/-- The completions that reached a taken stream so far, by item number; the stream is left
empty. -/
def drain (s : Service σ) (job : Nat) : List Completion × Service σ :=
  match s.streams.lookup job with
  | some queued =>
    (queued.mergeSort fun a b => a.itemId ≤ b.itemId,
      { s with streams := s.streams.map fun (j, q) => if j == job then (j, []) else (j, q) })
  | none => ([], s)

end Service

end PromptPipeline
