import PromptPipeline.Proofs.Isolation
/-!
One worker runs a job as the sequential loop does.

With one worker a job's steps interleave only with those of cancel calls. The worker takes the
items in order and runs each to its end before it takes the next, each run with the
collaborators' state the run before left, so the job follows the sequential loop
(`Program.serial`) item after item (`Pool.Serial`): the items handed over are the first ones,
the collaborators' state is the loop's after them, and the completions sent and the records are
the loop's, in item order. Once the job settles every later item is cancelled, and with no cancel
call every item ran (`Pool.sequential_of_one_worker`).
-/
namespace PromptPipeline

variable {σ : Type}

namespace Program

/-- The sequential loop: runs the bindings in order, each run starting with the collaborators'
state the run before left; the outcomes in order, and the state at the end. -/
def serial (agents : Agents σ) (p : Program) (maxSteps : Nat) (agent : σ) (items : List Map) :
    List ItemOutcome × σ :=
  items.foldl (fun (done, a) bindings =>
    let (o, a') := p.run agents maxSteps a bindings
    (done ++ [o], a')) ([], agent)

variable (agents : Agents σ) (p : Program) (maxSteps : Nat) (agent : σ)

theorem serial_append_single (items : List Map) (bindings : Map) :
    p.serial agents maxSteps agent (items ++ [bindings]) =
      ((p.serial agents maxSteps agent items).1 ++
        [(p.run agents maxSteps (p.serial agents maxSteps agent items).2 bindings).1],
        (p.run agents maxSteps (p.serial agents maxSteps agent items).2 bindings).2) := by
  rw [serial, List.foldl_append, List.foldl_cons, List.foldl_nil]
  rfl

theorem serial_length (items : List Map) :
    (p.serial agents maxSteps agent items).1.length = items.length := by
  induction items using List.reverseRecOn with
  | nil => rfl
  | append_singleton items bindings ih =>
    rw [serial_append_single, List.length_append, ih, List.length_append]
    rfl

end Program

theorem ItemRecord.ofOutcome_status_ne_pending (i : Nat) (input : ItemInput) (o : ItemOutcome) :
    (ItemRecord.ofOutcome i input o).status ≠ .pending := by
  rcases o.recordedStatus_final with final | final <;> simp [ItemRecord.ofOutcome, final]

namespace Pool

section Loop

variable (agents : Agents σ) (maxSteps : Nat) (agent : σ) (inputs : List ItemInput)

/-- The sequential loop over the first `k` items of a job. -/
def loop (p : Program) (k : Nat) : List ItemOutcome × σ :=
  p.serial agents maxSteps agent ((inputs.take k).map ItemInput.bindings)

/-- The completions of items run to these outcomes, numbered from 0. -/
def completions (job : Nat) (outcomes : List ItemOutcome) : List Completion :=
  outcomes.zipIdx.map fun (o, i) => Completion.ofOutcome job i o

/-- The queue a job starts with. -/
def queued : List (Nat × Map) := inputs.zipIdx.map fun (input, i) => (i, input.bindings)

variable {agents maxSteps agent inputs}

theorem loop_length (p : Program) {k : Nat} (within : k ≤ inputs.length) :
    (loop agents maxSteps agent inputs p k).1.length = k := by
  rw [loop, Program.serial_length, List.length_map, List.length_take, Nat.min_eq_left within]

/-- The loop goes on with the next item, run with the state the loop left. -/
theorem loop_succ (p : Program) {k : Nat} {input : ItemInput} (given : inputs[k]? = some input) :
    loop agents maxSteps agent inputs p (k + 1) =
      ((loop agents maxSteps agent inputs p k).1 ++
        [(p.run agents maxSteps (loop agents maxSteps agent inputs p k).2 input.bindings).1],
        (p.run agents maxSteps (loop agents maxSteps agent inputs p k).2 input.bindings).2) := by
  rw [loop, List.take_add_one, given, Option.toList_some, List.map_append, List.map_singleton,
    Program.serial_append_single]
  rfl

theorem completions_append_single (job : Nat) (outcomes : List ItemOutcome) (o : ItemOutcome) :
    completions job (outcomes ++ [o]) =
      completions job outcomes ++ [Completion.ofOutcome job outcomes.length o] := by
  simp [completions, List.zipIdx_append]

theorem itemId_lt_of_mem_completions {job : Nat} {outcomes : List ItemOutcome} {c : Completion}
    (member : c ∈ completions job outcomes) : c.itemId < outcomes.length := by
  obtain ⟨⟨o, i⟩, inside, rfl⟩ := List.mem_map.1 member
  exact (List.getElem?_eq_some_iff.1 (List.mem_zipIdx_iff_getElem?.1 inside)).1

theorem queued_drop {k : Nat} {input : ItemInput} (given : inputs[k]? = some input) :
    (queued inputs).drop k = (k, input.bindings) :: (queued inputs).drop (k + 1) := by
  have within : k < (queued inputs).length := by
    simpa [queued] using (List.getElem?_eq_some_iff.1 given).1
  rw [List.drop_eq_getElem_cons within]
  congr
  simp [queued, (List.getElem?_eq_some_iff.1 given).2]

theorem queued_drop_of_le {k : Nat} (past : inputs.length ≤ k) : (queued inputs).drop k = [] := by
  simpa [queued] using past

end Loop

section Phases

variable (agents : Agents σ) (maxSteps : Nat) (agent : σ) (inputs : List ItemInput)

/-- The completions sent and the records of the first `k` items are the loop's, in item order. -/
structure Upto (s : Pool σ) (k : Nat) : Prop where
  sent : s.sent = completions s.job (loop agents maxSteps agent inputs s.program k).1
  recorded : ∀ i o, (loop agents maxSteps agent inputs s.program k).1[i]? = some o →
    ∃ input, inputs[i]? = some input ∧ s.records[i]? = some (ItemRecord.ofOutcome i input o)

/-- Where the one worker of a job stands against the loop after the first `k` items, which were
handed over in order: between items, with the collaborators' state the loop's; with item `k`
taken or marked; running it as the loop runs it from the state the loop left; done with it; or
sending its completion, its record being the loop's. The queue holds the items not taken. -/
def Worker.Serial (s : Pool σ) (k : Nat) : Worker σ → Prop
  | .idle => s.handed = List.range k ∧ s.agent = (loop agents maxSteps agent inputs s.program k).2 ∧
    (s.queue = (queued inputs).drop k ∨
      s.queue = (queued inputs).drop (k + 1) ∧ s.cancelled = true)
  | .taking => s.handed = List.range k ∧
    s.agent = (loop agents maxSteps agent inputs s.program k).2 ∧ s.queue = (queued inputs).drop k
  | .exited => s.handed = List.range k ∧ s.agent = (loop agents maxSteps agent inputs s.program k).2
  | .took i bindings | .marked i bindings => i = k ∧
    (∃ input, inputs[k]? = some input ∧ bindings = input.bindings) ∧ s.handed = List.range k ∧
    s.agent = (loop agents maxSteps agent inputs s.program k).2 ∧
    s.queue = (queued inputs).drop (k + 1)
  | .running i remaining pc m => i = k ∧ (∃ input, inputs[k]? = some input ∧
      let m' := s.program.execute agents (s.program.maxSteps.getD maxSteps) remaining pc m
      (m'.outcome, m'.agent) = s.program.run agents maxSteps
        (loop agents maxSteps agent inputs s.program k).2 input.bindings) ∧
    s.handed = List.range (k + 1) ∧ s.agent = m.agent ∧ s.queue = (queued inputs).drop (k + 1)
  | .ran i o => i = k ∧ (∃ input, inputs[k]? = some input ∧
      (o, s.agent) = s.program.run agents maxSteps
        (loop agents maxSteps agent inputs s.program k).2 input.bindings) ∧
    s.handed = List.range (k + 1) ∧ s.queue = (queued inputs).drop (k + 1)
  | .sending c => c.itemId = k ∧ (∃ input o, inputs[k]? = some input ∧
      loop agents maxSteps agent inputs s.program (k + 1) =
        ((loop agents maxSteps agent inputs s.program k).1 ++ [o], s.agent) ∧
      c = Completion.ofOutcome s.job k o ∧ s.records[k]? = some (ItemRecord.ofOutcome k input o)) ∧
    s.handed = List.range (k + 1) ∧ s.queue = (queued inputs).drop (k + 1)

/-- A job run by one worker follows the loop: after its first `k` items, the worker standing as
`Worker.Serial` says. -/
def Serial (s : Pool σ) : Prop :=
  ∃ w k, s.workers = [w] ∧ Upto agents maxSteps agent inputs s k ∧
    Worker.Serial agents maxSteps agent inputs s k w

/-- What a job run by one worker shows once it settles, against the loop over its first `k`
items: those items and no others were handed to the interpreter, in item order; the
collaborators' state is the loop's after them; the completions sent and the records of those
items are the loop's, in item order; and every later item is cancelled. -/
structure Sequential (program : Program) (job : Nat) (s : Pool σ) (k : Nat) : Prop where
  handed : s.handed = List.range k
  state : s.agent = (loop agents maxSteps agent inputs program k).2
  sent : s.sent = completions job (loop agents maxSteps agent inputs program k).1
  recorded : ∀ i o, (loop agents maxSteps agent inputs program k).1[i]? = some o →
    ∃ input, inputs[i]? = some input ∧ s.records[i]? = some (ItemRecord.ofOutcome i input o)
  cancelled : ∀ i r, k ≤ i → s.records[i]? = some r → r.status = .cancelled

end Phases

section Steps

variable {agents : Agents σ} {maxSteps : Nat} {agent : σ} {inputs : List ItemInput}
  {s : Pool σ} {k : Nat}

theorem only_worker {w v : Worker σ} {j : Nat} (single : s.workers = [w])
    (at_ : s.workers[j]? = some v) : j = 0 ∧ v = w := by
  rw [single] at at_
  cases j with
  | zero => exact ⟨rfl, (Option.some.inj at_).symm⟩
  | succ j => simp at at_

theorem workers_setWorker {w w' : Worker σ} (single : s.workers = [w]) :
    (s.setWorker 0 w').workers = [w'] := by
  simp [setWorker, single]

theorem loop_index_lt (p : Program) {i : Nat} {o : ItemOutcome}
    (early : (loop agents maxSteps agent inputs p k).1[i]? = some o) : i < k := by
  have inside := (List.getElem?_eq_some_iff.1 early).1
  rw [loop, Program.serial_length, List.length_map, List.length_take] at inside
  omega

theorem Upto.frame {s' : Pool σ} (upto : Upto agents maxSteps agent inputs s k)
    (sent : s'.sent = s.sent) (job : s'.job = s.job) (program : s'.program = s.program)
    (records : ∀ (i : Nat) (o : ItemOutcome),
      (loop agents maxSteps agent inputs s.program k).1[i]? = some o →
        s'.records[i]? = s.records[i]?) :
    Upto agents maxSteps agent inputs s' k := by
  refine ⟨by rw [sent, job, program]; exact upto.sent, fun i o early => ?_⟩
  rw [program] at early
  obtain ⟨input, given, found⟩ := upto.recorded i o early
  exact ⟨input, given, (records i o early).trans found⟩

theorem Upto.frame_cancel {s' : Pool σ} (upto : Upto agents maxSteps agent inputs s k)
    (sent : s'.sent = s.sent) (job : s'.job = s.job) (program : s'.program = s.program)
    (records : ∀ (i : Nat) (r : ItemRecord), s.records[i]? = some r → r.status ≠ .pending →
      s'.records[i]? = some r) :
    Upto agents maxSteps agent inputs s' k := by
  refine upto.frame sent job program fun i o early => ?_
  -- a record the loop made is final, so no cancel call moved it
  obtain ⟨input, -, found⟩ := upto.recorded i o early
  rw [found]
  exact records i _ found (ItemRecord.ofOutcome_status_ne_pending i input o)

/-- A cancel call changes nothing the worker's phase says, but may set the flag. -/
theorem Worker.Serial.frame_cancel {s' : Pool σ} {w : Worker σ}
    (phase : Worker.Serial agents maxSteps agent inputs s k w)
    (job : s'.job = s.job) (program : s'.program = s.program) (handed : s'.handed = s.handed)
    (state : s'.agent = s.agent) (queue : s'.queue = s.queue)
    (flag : s.cancelled = true → s'.cancelled = true)
    (records : ∀ (i : Nat) (r : ItemRecord), s.records[i]? = some r → r.status ≠ .pending →
      s'.records[i]? = some r) :
    Worker.Serial agents maxSteps agent inputs s' k w := by
  cases w <;> simp only [Worker.Serial, job, program, handed, state, queue] at phase ⊢
  case idle => exact ⟨phase.1, phase.2.1, phase.2.2.imp id fun later => ⟨later.1, flag later.2⟩⟩
  case sending c =>
    obtain ⟨numbered, ⟨input, o, given, next, sent, found⟩, rest⟩ := phase
    exact ⟨numbered, ⟨input, o, given, next, sent,
      records k _ found (ItemRecord.ofOutcome_status_ne_pending k input o)⟩, rest⟩
  all_goals exact phase

theorem Serial.frame_cancel {s' : Pool σ} (serial : Serial agents maxSteps agent inputs s)
    (workers : s'.workers = s.workers) (sent : s'.sent = s.sent) (job : s'.job = s.job)
    (program : s'.program = s.program) (handed : s'.handed = s.handed)
    (state : s'.agent = s.agent) (queue : s'.queue = s.queue)
    (flag : s.cancelled = true → s'.cancelled = true)
    (records : ∀ (i : Nat) (r : ItemRecord), s.records[i]? = some r → r.status ≠ .pending →
      s'.records[i]? = some r) :
    Serial agents maxSteps agent inputs s' := by
  obtain ⟨w, k, single, upto, phase⟩ := serial
  exact ⟨w, k, workers.trans single, upto.frame_cancel sent job program records,
    phase.frame_cancel job program handed state queue flag records⟩

/-! The worker's steps, one lemma for each phase. Between items it reads the flag and leaves
once the flag is set. It takes item `k`, the front of the queue, and marks it running, or skips
it when a cancel call came first. The interpreter runs item `k` from the state the loop left, one
instruction a step. The worker records the loop's outcome of item `k` and sends its completion,
the loop's next one. -/

theorem Serial.look (upto : Upto agents maxSteps agent inputs s k) {w : Worker σ}
    (single : s.workers = [w]) (phase : Worker.Serial agents maxSteps agent inputs s k .idle) :
    Serial agents maxSteps agent inputs (s.setWorker 0 (if s.cancelled then .exited else .taking)) := by
  obtain ⟨handed, state, queue⟩ := phase
  refine ⟨_, k, workers_setWorker single, upto.frame rfl rfl rfl fun _ _ _ => rfl, ?_⟩
  cases flag : s.cancelled
  · simp only [Bool.false_eq_true, if_false]
    exact ⟨handed, state, queue.resolve_right fun later => by simp [flag] at later⟩
  · simp only [if_true]
    exact ⟨handed, state⟩

theorem Serial.take (upto : Upto agents maxSteps agent inputs s k) {w : Worker σ}
    (single : s.workers = [w]) {item : Nat} {bindings : Map} {rest : List (Nat × Map)}
    (phase : Worker.Serial agents maxSteps agent inputs s k .taking)
    (front : s.queue = (item, bindings) :: rest) :
    Serial agents maxSteps agent inputs
      { s.setWorker 0 (.took item bindings) with queue := rest } := by
  obtain ⟨handed, state, queue⟩ := phase
  rw [queue] at front
  cases given : inputs[k]? with
  | none =>
    rw [queued_drop_of_le (List.getElem?_eq_none_iff.1 given)] at front
    cases front
  | some input =>
    rw [queued_drop given] at front
    simp only [List.cons.injEq, Prod.mk.injEq] at front
    obtain ⟨⟨rfl, rfl⟩, rfl⟩ := front
    exact ⟨_, k, workers_setWorker single, upto.frame rfl rfl rfl fun _ _ _ => rfl, rfl,
      ⟨input, given, rfl⟩, handed, state, rfl⟩

theorem Serial.mark (upto : Upto agents maxSteps agent inputs s k) {w : Worker σ}
    (single : s.workers = [w]) (sound : s.Sound inputs.length) {bindings : Map} {t : Tracker}
    (phase : Worker.Serial agents maxSteps agent inputs s k (.took k bindings))
    (marked : s.tracker.markRunning s.job k = .ok t) :
    Serial agents maxSteps agent inputs { s.setWorker 0 (.marked k bindings) with tracker := t } := by
  obtain ⟨-, given, handed, state, queue⟩ := phase
  obtain ⟨r, found, -, records⟩ := sound.transition marked
  refine ⟨_, k, workers_setWorker single, upto.frame rfl rfl rfl fun i o early => ?_, rfl, given,
    handed, state, queue⟩
  rw [records_eq records, List.getElem?_set_ne (Nat.ne_of_lt (loop_index_lt s.program early)).symm]

theorem Serial.skip (upto : Upto agents maxSteps agent inputs s k) {w : Worker σ}
    (single : s.workers = [w]) (sound : s.Sound inputs.length) {bindings : Map} {e : TrackerError}
    (phase : Worker.Serial agents maxSteps agent inputs s k (.took k bindings))
    (at_ : s.workers[0]? = some (.took k bindings))
    (refused : s.tracker.markRunning s.job k = .error e) :
    Serial agents maxSteps agent inputs (s.setWorker 0 .idle) := by
  obtain ⟨-, -, handed, state, queue⟩ := phase
  -- the item was cancelled before the worker marked it, so a cancel call has set the flag
  obtain ⟨r, found⟩ := sound.found_held at_ rfl
  have flag := sound.flag_of_cancelled found (sound.refused_cancelled at_ refused found)
  exact ⟨_, k, workers_setWorker single, upto.frame rfl rfl rfl fun _ _ _ => rfl, handed, state,
    .inr ⟨queue, flag⟩⟩

theorem Serial.hand (upto : Upto agents maxSteps agent inputs s k) {w : Worker σ}
    (single : s.workers = [w]) {bindings : Map}
    (phase : Worker.Serial agents maxSteps agent inputs s k (.marked k bindings)) :
    Serial agents maxSteps agent inputs { s.setWorker 0 (.running k (s.limit maxSteps) 0
      { scope := Scope.ofSeed bindings, agent := s.agent }) with handed := s.handed ++ [k] } := by
  obtain ⟨-, ⟨input, given, rfl⟩, handed, state, queue⟩ := phase
  refine ⟨_, k, workers_setWorker single, upto.frame rfl rfl rfl fun _ _ _ => rfl, rfl,
    ⟨input, given, ?_⟩, by rw [handed, List.range_succ], rfl, queue⟩
  show (_, _) = _
  rw [state]
  rfl

theorem Serial.tick (upto : Upto agents maxSteps agent inputs s k) {w : Worker σ}
    (single : s.workers = [w]) {remaining pc rest next : Nat} {m m' : Machine σ}
    (phase : Worker.Serial agents maxSteps agent inputs s k (.running k remaining pc m))
    (ticked : s.program.tick agents (s.limit maxSteps) remaining pc { m with agent := s.agent } =
      .inl (rest, next, m')) :
    Serial agents maxSteps agent inputs
      { s.setWorker 0 (.running k rest next m') with agent := m'.agent } := by
  obtain ⟨-, ⟨input, given, runs⟩, handed, state, queue⟩ := phase
  -- with one worker the state the step reads is the one the run left
  have same : s.program.execute agents (s.limit maxSteps) remaining pc m =
      s.program.execute agents (s.limit maxSteps) rest next m' := by
    have turn := Program.execute_eq_tick agents s.program (s.limit maxSteps) remaining pc
      { m with agent := s.agent }
    rw [ticked, state] at turn
    exact turn
  refine ⟨_, k, workers_setWorker single, upto.frame rfl rfl rfl fun _ _ _ => rfl, rfl,
    ⟨input, given, ?_⟩, handed, rfl, queue⟩
  show ((s.program.execute agents (s.limit maxSteps) rest next m').outcome,
    (s.program.execute agents (s.limit maxSteps) rest next m').agent) =
      s.program.run agents maxSteps (loop agents maxSteps agent inputs s.program k).2 input.bindings
  rw [← same]
  exact runs

theorem Serial.finish (upto : Upto agents maxSteps agent inputs s k) {w : Worker σ}
    (single : s.workers = [w]) {remaining pc : Nat} {m m' : Machine σ}
    (phase : Worker.Serial agents maxSteps agent inputs s k (.running k remaining pc m))
    (ticked : s.program.tick agents (s.limit maxSteps) remaining pc { m with agent := s.agent } =
      .inr m') :
    Serial agents maxSteps agent inputs
      { s.setWorker 0 (.ran k m'.outcome) with agent := m'.agent } := by
  obtain ⟨-, ⟨input, given, runs⟩, handed, state, queue⟩ := phase
  have same : s.program.execute agents (s.limit maxSteps) remaining pc m = m' := by
    have turn := Program.execute_eq_tick agents s.program (s.limit maxSteps) remaining pc
      { m with agent := s.agent }
    rw [ticked, state] at turn
    exact turn
  refine ⟨_, k, workers_setWorker single, upto.frame rfl rfl rfl fun _ _ _ => rfl, rfl,
    ⟨input, given, ?_⟩, handed, queue⟩
  show (m'.outcome, m'.agent) =
    s.program.run agents maxSteps (loop agents maxSteps agent inputs s.program k).2 input.bindings
  rw [← same]
  exact runs

theorem Serial.record (upto : Upto agents maxSteps agent inputs s k) {w : Worker σ}
    (single : s.workers = [w]) (sound : s.Sound inputs.length)
    (identified : Identified inputs s.records) {o : ItemOutcome} {status : ItemStatus} {t : Tracker}
    (phase : Worker.Serial agents maxSteps agent inputs s k (.ran k o))
    (at_ : s.workers[0]? = some (.ran k o))
    (recorded : s.tracker.recordOutcome s.job k o = (status, .ok t)) :
    Serial agents maxSteps agent inputs
      { s.setWorker 0 (.sending ⟨s.job, k, status, o.error, o.turnaroundMs⟩) with tracker := t } := by
  obtain ⟨-, ⟨input, given, runs⟩, handed, queue⟩ := phase
  obtain ⟨r, found, rfl, records⟩ := sound.recordOutcome_eq at_ recorded
  obtain ⟨numbered, own⟩ := identified k r found
  have same : r.input = input := Option.some.inj (own.symm.trans given)
  have next : loop agents maxSteps agent inputs s.program (k + 1) =
      ((loop agents maxSteps agent inputs s.program k).1 ++ [o], s.agent) := by
    rw [loop_succ s.program given, ← runs]
  refine ⟨_, k, workers_setWorker single, upto.frame rfl rfl rfl fun i o' early => ?_, rfl,
    ⟨input, o, given, next, rfl, ?_⟩, handed, queue⟩
  · rw [records_eq records,
      List.getElem?_set_ne (Nat.ne_of_lt (loop_index_lt s.program early)).symm]
  · rw [records_eq records, List.getElem?_set_self (List.getElem?_eq_some_iff.1 found).1,
      numbered, same]

theorem Serial.send (upto : Upto agents maxSteps agent inputs s k) {w : Worker σ}
    (single : s.workers = [w]) {c : Completion}
    (phase : Worker.Serial agents maxSteps agent inputs s k (.sending c)) :
    Serial agents maxSteps agent inputs { s.setWorker 0 .idle with sent := s.sent ++ [c] } := by
  obtain ⟨-, ⟨input, o, given, next, rfl, found⟩, handed, queue⟩ := phase
  have within : k ≤ inputs.length := Nat.le_of_lt (List.getElem?_eq_some_iff.1 given).1
  have length : (loop agents maxSteps agent inputs s.program k).1.length = k :=
    loop_length s.program within
  refine ⟨_, k + 1, workers_setWorker single, ⟨?_, fun i o' early => ?_⟩, handed,
    (congrArg Prod.snd next).symm, .inl queue⟩
  · show s.sent ++ [Completion.ofOutcome s.job k o] =
      completions s.job (loop agents maxSteps agent inputs s.program (k + 1)).1
    rw [next, completions_append_single, length, upto.sent]
  · change (loop agents maxSteps agent inputs s.program (k + 1)).1[i]? = some o' at early
    rw [next, List.getElem?_append, length] at early
    split at early
    · exact upto.recorded i o' early
    · -- past the first `k`, the one outcome left is item `k`'s
      rename_i past
      rw [List.getElem?_singleton] at early
      split at early
      · rename_i first
        cases early
        obtain rfl : i = k := by omega
        exact ⟨input, given, found⟩
      · cases early

/-- Every step keeps a job run by one worker on the loop: the worker's steps move it along the
loop's phases, and a cancel call changes no record the loop made. -/
theorem Serial.step {s' : Pool σ} (serial : Serial agents maxSteps agent inputs s)
    (sound : s.Sound inputs.length) (identified : Identified inputs s.records)
    (step : Step agents maxSteps s s') : Serial agents maxSteps agent inputs s' := by
  obtain ⟨w, k, single, upto, phase⟩ := serial
  -- the cancel steps that leave the tracker alone change nothing the invariant reads
  have kept : ∀ {s' : Pool σ}, s'.workers = s.workers → s'.sent = s.sent → s'.job = s.job →
      s'.program = s.program → s'.handed = s.handed → s'.agent = s.agent → s'.queue = s.queue →
      s'.tracker = s.tracker → (s.cancelled = true → s'.cancelled = true) →
      Serial agents maxSteps agent inputs s' :=
    fun workers sent job program handed state queue tracker flag =>
      Serial.frame_cancel ⟨w, k, single, upto, phase⟩ workers sent job program handed state queue
        flag fun _ _ found _ => by rw [records, tracker, job]; exact found
  cases step with
  | look at_ =>
    obtain ⟨rfl, rfl⟩ := only_worker single at_
    exact Serial.look upto single phase
  | drained at_ =>
    obtain ⟨rfl, rfl⟩ := only_worker single at_
    exact ⟨_, k, workers_setWorker single, upto.frame rfl rfl rfl fun _ _ _ => rfl, phase.1,
      phase.2.1⟩
  | take at_ front =>
    obtain ⟨rfl, rfl⟩ := only_worker single at_
    exact Serial.take upto single phase front
  | mark at_ marked =>
    obtain ⟨rfl, rfl⟩ := only_worker single at_
    obtain rfl := phase.1
    exact Serial.mark upto single sound phase marked
  | skip at_ refused =>
    obtain ⟨rfl, rfl⟩ := only_worker single at_
    obtain rfl := phase.1
    exact Serial.skip upto single sound phase at_ refused
  | hand at_ =>
    obtain ⟨rfl, rfl⟩ := only_worker single at_
    obtain rfl := phase.1
    exact Serial.hand upto single phase
  | tick at_ ticked =>
    obtain ⟨rfl, rfl⟩ := only_worker single at_
    obtain rfl := phase.1
    exact Serial.tick upto single phase ticked
  | finish at_ ticked =>
    obtain ⟨rfl, rfl⟩ := only_worker single at_
    obtain rfl := phase.1
    exact Serial.finish upto single phase ticked
  | record at_ recorded =>
    obtain ⟨rfl, rfl⟩ := only_worker single at_
    obtain rfl := phase.1
    exact Serial.record upto single sound identified phase at_ recorded
  | unrecorded at_ refused =>
    obtain ⟨t, recorded⟩ := sound.recordOutcome_ok at_
    rw [recorded] at refused
    cases refused
  | send at_ =>
    obtain ⟨rfl, rfl⟩ := only_worker single at_
    exact Serial.send upto single phase
  | cancel => exact kept rfl rfl rfl rfl rfl rfl rfl rfl fun _ => rfl
  | cancelPass => exact kept rfl rfl rfl rfl rfl rfl rfl rfl id
  | cancelDone => exact kept rfl rfl rfl rfl rfl rfl rfl rfl id
  | cancelOne at_ cancelled =>
    -- the item cancelled was pending, so not one the loop recorded
    rename_i item _ _
    obtain ⟨r, found, pending, records⟩ := sound.transition cancelled
    refine Serial.frame_cancel ⟨w, k, single, upto, phase⟩ rfl rfl rfl rfl rfl rfl rfl id
      fun i r' found' final => ?_
    have other : i ≠ item := by
      rintro rfl
      rw [found, Option.some.injEq] at found'
      exact final (found' ▸ pending)
    rw [records_eq records, List.getElem?_set_ne other.symm]
    exact found'

theorem Serial.run {s s' : Pool σ} (serial : Serial agents maxSteps agent inputs s)
    (sound : s.Sound inputs.length) (identified : Identified inputs s.records)
    (run : Relation.ReflTransGen (Step agents maxSteps) s s') :
    Serial agents maxSteps agent inputs s' := by
  induction run with
  | refl => exact serial
  | tail before step kept => exact kept.step (sound.run before) (identified.run sound before) step

theorem serial_launch (t : Tracker) (program : Program) :
    Serial agents maxSteps agent inputs (launch t agent program inputs 1) :=
  ⟨.idle, 0, rfl, ⟨rfl, fun _ _ early => by simp [loop, Program.serial] at early⟩, rfl, rfl,
    .inl rfl⟩

end Steps

/-- A job run by one worker, whatever the collaborators and whenever cancel calls come, is
the sequential loop stopped after some first `k` items: once it settles, those items ran in
order, each from the collaborators' state the one before left, their completions were sent
in order and their records are the loop's, and every later item is cancelled. With no cancel
call the loop ran to the end. Collaborators that keep what they were asked in their state show
it asked in item order, as the loop asks. -/
theorem sequential_of_one_worker (agents : Agents σ) (maxSteps : Nat) {t : Tracker} {agent : σ}
    {program : Program} {inputs : List ItemInput} {s : Pool σ} (sound : t.Sound)
    (run : Relation.ReflTransGen (Step agents maxSteps) (launch t agent program inputs 1) s)
    (settled : s.Settled) :
    ∃ k ≤ inputs.length,
      Sequential agents maxSteps agent inputs program (t.register inputs).1 s k ∧
      (s.cancelled = false → k = inputs.length) := by
  have launched := sound_launch sound agent program inputs 1
  have kept := launched.run run
  obtain ⟨w, k, single, upto, phase⟩ :=
    (serial_launch t program).run launched (identified_launch sound agent program inputs 1) run
  obtain ⟨job, same, -⟩ := frame_of_launch run
  rw [← job, ← same]
  have staffed : 0 < s.workers.length := by
    rw [single]
    exact Nat.one_pos
  -- settled, the one worker has left its loop
  obtain rfl : w = .exited := settled.1 w (single ▸ List.mem_singleton_self w)
  obtain ⟨handed, state⟩ := phase
  have within : k ≤ inputs.length := by
    cases k with
    | zero => exact Nat.zero_le _
    | succ k => exact kept.handedWithin k (handed ▸ List.mem_range.2 (Nat.lt_succ_self k))
  refine ⟨k, within, ⟨handed, state, upto.sent, upto.recorded, fun i r later found => ?_⟩,
    fun uncancelled => ?_⟩
  · -- a later item was never handed over, so it was let go cancelled
    rcases kept.settled settled staffed found with ⟨cancelled, -⟩ | ⟨c, -, once, -⟩
    · exact cancelled
    · rw [handed, List.count_eq_zero_of_not_mem (by simpa using later)] at once
      cases once
  · -- with no cancel call every item was reported, and the loop reports only its first `k`
    refine Nat.le_antisymm within (Nat.not_lt.1 fun short => ?_)
    have inside : k < s.records.length := by
      rw [kept.length]
      exact short
    obtain ⟨c, -, only⟩ := kept.reported settled staffed uncancelled
      (List.getElem?_eq_getElem inside)
    obtain ⟨mine, numbered⟩ := mem_sentFor.1 (only ▸ List.mem_singleton_self c)
    have early := itemId_lt_of_mem_completions (upto.sent ▸ mine)
    rw [numbered, loop_length s.program within] at early
    exact Nat.lt_irrefl k early

set_option maxRecDepth 4000 in
/-- Three items run by one worker that asks the provider once per item, with a cancel call after
the second item ran: the provider was asked for items 0 and 1 in that order, and the job is
the loop over those two items with the third cancelled. -/
theorem sequential_of_one_worker_cancelled_after_second :
    ∃ s : Pool Nat, Relation.ReflTransGen (Step Agents.counting 10)
      (launch {} 0 Program.askThenRow [.pass 0, .pass 1, .pass 2] 1) s ∧ s.Settled ∧
      s.sent.map (·.turnaroundMs) = [0, 1] ∧
      Sequential Agents.counting 10 0 [.pass 0, .pass 1, .pass 2] Program.askThenRow 1 s 2 := by
  have run : Relation.ReflTransGen (Step Agents.counting 10)
      (launch {} 0 Program.askThenRow [.pass 0, .pass 1, .pass 2] 1) _ :=
    .tail (.tail (.tail (.tail (.tail (.tail (.tail (.tail (.tail (.tail (.tail (.tail (.tail (.tail
      (.tail (.tail (.tail (.tail (.tail (.tail (.tail (.tail (.tail (.tail .refl
      (Step.look (k := 0) rfl)) (Step.take (k := 0) rfl rfl)) (Step.mark (k := 0) rfl rfl))
      (Step.hand (k := 0) rfl)) (Step.tick (k := 0) rfl rfl)) (Step.tick (k := 0) rfl rfl))
      (Step.finish (k := 0) rfl rfl)) (Step.record (k := 0) rfl rfl)) (Step.send (k := 0) rfl))
      (Step.look (k := 0) rfl)) (Step.take (k := 0) rfl rfl)) (Step.mark (k := 0) rfl rfl))
      (Step.hand (k := 0) rfl)) (Step.tick (k := 0) rfl rfl)) (Step.tick (k := 0) rfl rfl))
      (Step.finish (k := 0) rfl rfl)) (Step.record (k := 0) rfl rfl)) (Step.send (k := 0) rfl))
      (Step.cancel rfl)) (Step.cancelPass rfl rfl (by decide) rfl))
      (Step.cancelPass rfl rfl (by decide) rfl)) (Step.cancelOne rfl rfl))
      (Step.cancelDone rfl rfl (by decide))) (Step.look (k := 0) rfl)
  -- what the run shows, read off its last state
  obtain ⟨s, run, settled, handed, reported⟩ : ∃ s, Relation.ReflTransGen (Step Agents.counting 10)
      (launch {} 0 Program.askThenRow [.pass 0, .pass 1, .pass 2] 1) s ∧ s.Settled ∧
      s.handed = [0, 1] ∧ s.sent.map (·.turnaroundMs) = [0, 1] :=
    ⟨_, run, ⟨fun w member => List.mem_singleton.1 member, rfl⟩, rfl, rfl⟩
  obtain ⟨k, -, sequential, -⟩ := sequential_of_one_worker Agents.counting 10 Tracker.empty_sound
    run settled
  -- the items handed over are the first `k`, here the first two
  have two : k = 2 := by
    have counted := congrArg List.length (sequential.handed.symm.trans handed)
    rwa [List.length_range] at counted
  subst two
  exact ⟨s, run, settled, reported, sequential⟩

end Pool

end PromptPipeline
