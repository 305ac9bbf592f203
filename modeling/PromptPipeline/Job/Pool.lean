import PromptPipeline.Job.Service
import Mathlib.Logic.Relation
/-!
A job's workers and its cancel calls running at the same time.

The service runs a job's workers one after another, as a runtime with one thread does. On a runtime
with several threads the workers of a job run at once, and a cancel call may come at any moment.
Here each party takes atomic steps, one for each lock or atomic access of the code, and every
interleaving of the steps is a run of the job:

* a worker reads the job's cancel flag and leaves its loop when the flag is set; otherwise it
  takes the front of the shared queue, or leaves when the queue is empty (the flag and the queue's
  lock are two separate steps);
* it marks the item running under the item's lock, and skips the item when that is refused;
* it hands the item to the interpreter, which executes one instruction per step, each step with
  the collaborators' state as the other workers left it;
* it records the outcome under the item's lock and sends a completion;
* a cancel call holds the service's lock of runs, so that one runs at a time: it sets the flag,
  then cancels the job's items one lock at a time, in item order, each if it is still pending,
  and returns how many it cancelled.

Waiting for a job reads its progress once every worker has left and, holding the lock of runs, no
cancel call is midway (`Pool.Settled`). The items handed to the interpreter and what each cancel
call returned are kept as observations.
-/
namespace PromptPipeline

variable {σ : Type}

namespace Program

/-- One turn of the loop of `execute`: the budget left, the step and the machine the run goes on
from, or the machine it ends with. -/
def tick (agents : Agents σ) (p : Program) (limit remaining pc : Nat) (m : Machine σ) :
    (Nat × Nat × Machine σ) ⊕ Machine σ :=
  match p.instructions[pc]? with
  | none => .inr m
  | some ins =>
    match remaining with
    | 0 => .inr { m with outcome := { m.outcome with
        error := some ((Fault.runtime (.stepLimitExceeded limit)).at_ pc) } }
    | rest + 1 =>
      let m := { m with outcome := { m.outcome with stepsExecuted := m.outcome.stepsExecuted + 1 } }
      match step agents p pc m ins with
      | (.ok next, m) => .inl (rest, next, m)
      | (.error f, m) =>
        .inr { m with outcome := { m.outcome with error := some (f.at_ pc), aborted := f.isAbort } }

/-- A run is its turns one after another. -/
theorem execute_eq_tick (agents : Agents σ) (p : Program) (limit remaining pc : Nat)
    (m : Machine σ) :
    p.execute agents limit remaining pc m =
      match p.tick agents limit remaining pc m with
      | .inl (rest, next, m) => p.execute agents limit rest next m
      | .inr m => m := by
  rw [execute]
  cases fetched : p.instructions[pc]? with
  | none => simp only [tick, fetched]
  | some ins =>
    cases remaining with
    | zero => simp only [tick, fetched]
    | succ rest =>
      simp only [tick, fetched]
      -- both sides go on as the step's result says
      rcases step agents p pc
        { m with outcome := { m.outcome with stepsExecuted := m.outcome.stepsExecuted + 1 } } ins
        with ⟨_ | _, _⟩ <;> rfl

end Program

namespace Tracker

/-- Records the outcome of a running item: done when the run went to the end, else failed with
its cause. The status recorded, and the tracker afterwards. -/
def recordOutcome (t : Tracker) (job item : Nat) (o : ItemOutcome) :
    ItemStatus × Except TrackerError Tracker :=
  match o.error with
  | none => (.done, t.markDone job item o)
  | some cause => (.error, t.markError job item cause o)

end Tracker

/-- Where a worker of a job stands in its loop. -/
inductive Worker (σ : Type) where
  /-- at the head of its loop, about to read the job's cancel flag -/
  | idle
  /-- found the flag clear, about to take the front of the queue -/
  | taking
  /-- holds the item it took, about to mark it running -/
  | took (item : Nat) (bindings : Map)
  /-- marked its item running, about to hand it to the interpreter -/
  | marked (item : Nat) (bindings : Map)
  /-- the interpreter runs its item: the budget left, the step and the machine -/
  | running (item : Nat) (remaining pc : Nat) (m : Machine σ)
  /-- the interpreter is done with its item, about to record the outcome -/
  | ran (item : Nat) (outcome : ItemOutcome)
  /-- recorded its item, about to send the completion -/
  | sending (c : Completion)
  /-- left its loop -/
  | exited

/-- The item a worker holds, if any. -/
def Worker.held : Worker σ → Option Nat
  | .took item _ | .marked item _ | .running item .. | .ran item _ => some item
  | .sending c => some c.itemId
  | .idle | .taking | .exited => none

/-- A job while its workers run: the shared tracker, queue and cancel flag, the collaborators'
state, the workers, the completions sent, and the cancel call under way. -/
structure Pool (σ : Type) where
  job : Nat
  program : Program
  tracker : Tracker
  agent : σ
  /-- the items no worker has taken yet, with their bindings -/
  queue : List (Nat × Map)
  /-- the job's cancel flag -/
  cancelled : Bool := false
  workers : List (Worker σ)
  /-- the completions sent, in order -/
  sent : List Completion := []
  /-- the cancel call holding the lock of runs: the next item it looks at, and how many it
  has cancelled -/
  cancelling : Option (Nat × Nat) := none
  /-- what each cancel call that returned gave back, in order -/
  returned : List Nat := []
  /-- the items handed to the interpreter, in order -/
  handed : List Nat := []

namespace Pool

/-- Starts a job as the service does: registers the inputs, queues every item with its bindings,
and sets `workers` workers at the head of their loops. -/
def launch (tracker : Tracker) (agent : σ) (program : Program) (inputs : List ItemInput)
    (workers : Nat) : Pool σ :=
  { job := (tracker.register inputs).1, program, tracker := (tracker.register inputs).2, agent,
    queue := inputs.zipIdx.map fun (input, i) => (i, input.bindings),
    workers := List.replicate workers .idle }

/-- The step budget of a run of the job's program. -/
def limit (s : Pool σ) (maxSteps : Nat) : Nat := s.program.maxSteps.getD maxSteps

/-- The same job with worker `k` in a new state. -/
def setWorker (s : Pool σ) (k : Nat) (w : Worker σ) : Pool σ :=
  { s with workers := s.workers.set k w }

/-- One atomic step of a job: a step of one worker, made under the lock of what it touches, or
a step of the cancel call. -/
inductive Step (agents : Agents σ) (maxSteps : Nat) : Pool σ → Pool σ → Prop
  /-- a worker at the head of its loop reads the cancel flag, and leaves when it is set -/
  | look {s : Pool σ} {k : Nat} (at_ : s.workers[k]? = some .idle) :
      Step agents maxSteps s (s.setWorker k (if s.cancelled then .exited else .taking))
  /-- a worker finds the queue empty and leaves -/
  | drained {s : Pool σ} {k : Nat} (at_ : s.workers[k]? = some .taking) (empty : s.queue = []) :
      Step agents maxSteps s (s.setWorker k .exited)
  /-- a worker takes the front of the queue -/
  | take {s : Pool σ} {k item : Nat} {bindings : Map} {rest : List (Nat × Map)}
      (at_ : s.workers[k]? = some .taking) (front : s.queue = (item, bindings) :: rest) :
      Step agents maxSteps s { s.setWorker k (.took item bindings) with queue := rest }
  /-- a worker marks its item running -/
  | mark {s : Pool σ} {k item : Nat} {bindings : Map} {t : Tracker}
      (at_ : s.workers[k]? = some (.took item bindings))
      (marked : s.tracker.markRunning s.job item = .ok t) :
      Step agents maxSteps s { s.setWorker k (.marked item bindings) with tracker := t }
  /-- a worker whose item was cancelled first skips it -/
  | skip {s : Pool σ} {k item : Nat} {bindings : Map} {e : TrackerError}
      (at_ : s.workers[k]? = some (.took item bindings))
      (refused : s.tracker.markRunning s.job item = .error e) :
      Step agents maxSteps s (s.setWorker k .idle)
  /-- a worker hands its item to the interpreter -/
  | hand {s : Pool σ} {k item : Nat} {bindings : Map}
      (at_ : s.workers[k]? = some (.marked item bindings)) :
      Step agents maxSteps s { s.setWorker k (.running item (s.limit maxSteps) 0
        { scope := Scope.ofSeed bindings, agent := s.agent }) with handed := s.handed ++ [item] }
  /-- the interpreter executes one instruction of a worker's item, with the collaborators'
  state as the other workers left it -/
  | tick {s : Pool σ} {k item remaining pc rest next : Nat} {m m' : Machine σ}
      (at_ : s.workers[k]? = some (.running item remaining pc m))
      (ticked : s.program.tick agents (s.limit maxSteps) remaining pc { m with agent := s.agent } =
        .inl (rest, next, m')) :
      Step agents maxSteps s { s.setWorker k (.running item rest next m') with agent := m'.agent }
  /-- the interpreter is done with a worker's item -/
  | finish {s : Pool σ} {k item remaining pc : Nat} {m m' : Machine σ}
      (at_ : s.workers[k]? = some (.running item remaining pc m))
      (ticked : s.program.tick agents (s.limit maxSteps) remaining pc { m with agent := s.agent } =
        .inr m') :
      Step agents maxSteps s { s.setWorker k (.ran item m'.outcome) with agent := m'.agent }
  /-- a worker records the outcome of its item -/
  | record {s : Pool σ} {k item : Nat} {o : ItemOutcome} {status : ItemStatus} {t : Tracker}
      (at_ : s.workers[k]? = some (.ran item o))
      (recorded : s.tracker.recordOutcome s.job item o = (status, .ok t)) :
      Step agents maxSteps s
        { s.setWorker k (.sending ⟨s.job, item, status, o.error, o.turnaroundMs⟩) with tracker := t }
  /-- a worker that could not record its item goes back to the head of its loop -/
  | unrecorded {s : Pool σ} {k item : Nat} {o : ItemOutcome} {e : TrackerError}
      (at_ : s.workers[k]? = some (.ran item o))
      (refused : (s.tracker.recordOutcome s.job item o).2 = .error e) :
      Step agents maxSteps s (s.setWorker k .idle)
  /-- a worker sends the completion of its item -/
  | send {s : Pool σ} {k : Nat} {c : Completion} (at_ : s.workers[k]? = some (.sending c)) :
      Step agents maxSteps s { s.setWorker k .idle with sent := s.sent ++ [c] }
  /-- a cancel call takes the lock of runs and sets the job's flag -/
  | cancel {s : Pool σ} (free : s.cancelling = none) :
      Step agents maxSteps s { s with cancelled := true, cancelling := some (0, 0) }
  /-- the cancel call cancels the next item, which was pending -/
  | cancelOne {s : Pool σ} {item count : Nat} {t : Tracker}
      (at_ : s.cancelling = some (item, count)) (cancelled : s.tracker.markCancelled s.job item = .ok t) :
      Step agents maxSteps s { s with tracker := t, cancelling := some (item + 1, count + 1) }
  /-- the cancel call passes over the next item, which was not pending -/
  | cancelPass {s : Pool σ} {item count : Nat} {rs : List ItemRecord} {e : TrackerError}
      (at_ : s.cancelling = some (item, count)) (listed : s.tracker.records s.job = .ok rs)
      (within : item < rs.length) (refused : s.tracker.markCancelled s.job item = .error e) :
      Step agents maxSteps s { s with cancelling := some (item + 1, count) }
  /-- the cancel call has looked at every item; it returns its count and lets go of the lock -/
  | cancelDone {s : Pool σ} {item count : Nat} {rs : List ItemRecord}
      (at_ : s.cancelling = some (item, count)) (listed : s.tracker.records s.job = .ok rs)
      (past : rs.length ≤ item) :
      Step agents maxSteps s { s with cancelling := none, returned := s.returned ++ [count] }

/-- Every worker has left its loop and no cancel call is midway: where waiting for the job reads
its progress, once its workers are done and it holds the lock of runs again. -/
def Settled (s : Pool σ) : Prop := (∀ w ∈ s.workers, w = .exited) ∧ s.cancelling = none

end Pool

end PromptPipeline
