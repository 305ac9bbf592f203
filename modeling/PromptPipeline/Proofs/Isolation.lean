import PromptPipeline.Proofs.Pool
import PromptPipeline.Proofs.Frames
/-!
Items run alone, whatever the interleaving.

When the collaborators answer from their arguments alone (`Agents.Stateless`), a run's outcome
does not depend on the collaborators' state it starts with (`Program.execute_agrees`), so the
steps other workers take in between change nothing of an item's run. Every state of a job then
stays on track (`Pool.OnTrack`): each worker's item goes on to the outcome it has run alone, and
each record and completion of an item that finished is the one that outcome gives. A job that
settles with no cancel call has exactly these records and completions, whatever the number of
workers and the interleaving (`Pool.records_of_stateless`).
-/
namespace PromptPipeline

variable {σ : Type}

/-- Collaborators whose answers depend only on what they are asked, not on their state. -/
structure Agents.Stateless (agents : Agents σ) : Prop where
  render : ∀ a b template bindings,
    (agents.render a template bindings).1 = (agents.render b template bindings).1
  answer : ∀ a b request, (agents.answer a request).1 = (agents.answer b request).1
  read : ∀ a b raw spec, (agents.read a raw spec).1 = (agents.read b raw spec).1

/-- Collaborators kept at one state: each answers as `agents` would from `a`, and what they are
asked changes nothing of what they answer next. -/
def Agents.frozen (agents : Agents σ) (a : σ) : Agents Unit where
  render _ template bindings := ((agents.render a template bindings).1, ())
  answer _ request := ((agents.answer a request).1, ())
  read _ raw spec := ((agents.read a raw spec).1, ())

theorem Agents.frozen_stateless (agents : Agents σ) (a : σ) : (agents.frozen a).Stateless :=
  ⟨fun _ _ _ _ => rfl, fun _ _ _ => rfl, fun _ _ _ _ => rfl⟩

/-- Two machines that differ at most in the collaborators' state. -/
def Machine.Agrees (m m' : Machine σ) : Prop := m.scope = m'.scope ∧ m.outcome = m'.outcome

namespace Program

variable {agents : Agents σ}

theorem prompt_agrees (stateless : agents.Stateless) (name : String) (spec : PromptSpec)
    {m m' : Machine σ} (agree : m.Agrees m') :
    (prompt agents name spec m).1 = (prompt agents name spec m').1 ∧
      (prompt agents name spec m).2.Agrees (prompt agents name spec m').2 := by
  obtain ⟨scope, a, outcome⟩ := m
  obtain ⟨scope', a', outcome'⟩ := m'
  obtain ⟨rfl, rfl⟩ : scope = scope' ∧ outcome = outcome' := agree
  unfold prompt
  have rendered := stateless.render a a' spec.template scope.snapshot
  rcases hr : agents.render a spec.template scope.snapshot with ⟨text, b⟩
  rcases hr' : agents.render a' spec.template scope.snapshot with ⟨text', b'⟩
  rw [hr, hr'] at rendered
  cases rendered
  dsimp only
  cases text with
  | error e => exact ⟨rfl, rfl, rfl⟩
  | ok text =>
    dsimp only
    rw [stateless.answer b b']
    -- the reply decides; reading it is the last call
    split
    next _ answered =>
      rw [answered]
      exact ⟨rfl, rfl, rfl⟩
    next _ answered =>
      rw [answered]
      dsimp only
      rw [stateless.read (agents.answer b _).2 (agents.answer b' _).2]
      split
      next _ read =>
        rw [read]
        exact ⟨rfl, rfl, rfl⟩
      next _ read =>
        rw [read]
        exact ⟨rfl, rfl, rfl⟩

theorem step_agrees (stateless : agents.Stateless) (p : Program) (pc : Nat) (ins : Instruction)
    {m m' : Machine σ} (agree : m.Agrees m') :
    (p.step agents pc m ins).1 = (p.step agents pc m' ins).1 ∧
      (p.step agents pc m ins).2.Agrees (p.step agents pc m' ins).2 := by
  obtain ⟨scope, a, outcome⟩ := m
  obtain ⟨scope', a', outcome'⟩ := m'
  obtain ⟨rfl, rfl⟩ : scope = scope' ∧ outcome = outcome' := agree
  cases ins with
  | prompt name spec =>
    -- the prompt's own result decides, and it agrees
    have agree : Machine.Agrees ⟨scope, a, outcome⟩ ⟨scope, a', outcome⟩ := ⟨rfl, rfl⟩
    obtain ⟨same, agrees⟩ := prompt_agrees stateless name spec agree
    simp only [step]
    rcases prompted : prompt agents name spec ⟨scope, a, outcome⟩ with ⟨result, n⟩
    rcases prompted' : prompt agents name spec ⟨scope, a', outcome⟩ with ⟨result', n'⟩
    rw [prompted, prompted'] at same agrees
    cases same
    cases result with
    | ok u => exact ⟨rfl, agrees⟩
    | error f => exact ⟨rfl, agrees⟩
  | set | openIf | openLoop | output =>
    -- the other steps read only the scope, which both machines share
    simp only [step, evalIn, row]
    split <;> exact ⟨rfl, rfl, rfl⟩
  | elseBranch | closeIf | closeLoop | goto | label => exact ⟨rfl, rfl, rfl⟩

/-- Two machines that differ only in the collaborators' state run alike. -/
theorem execute_agrees (stateless : agents.Stateless) (p : Program) (limit : Nat) :
    ∀ (remaining pc : Nat) {m m' : Machine σ}, m.Agrees m' →
      (p.execute agents limit remaining pc m).Agrees (p.execute agents limit remaining pc m')
  | remaining, pc, m, m', ⟨scope, outcome⟩ => by
    rw [execute, execute]
    cases p.instructions[pc]? with
    | none => exact ⟨scope, outcome⟩
    | some ins =>
      cases remaining with
      | zero => exact ⟨scope, by rw [outcome]⟩
      | succ rest =>
        have counted : m.counted.Agrees m'.counted := ⟨scope, by simp only [Machine.counted, outcome]⟩
        obtain ⟨same, agrees⟩ := step_agrees stateless p pc ins counted
        rcases stepped : p.step agents pc m.counted ins with ⟨result, n⟩
        rcases stepped' : p.step agents pc m'.counted ins with ⟨result', n'⟩
        rw [stepped, stepped'] at same agrees
        cases same
        simp only [Machine.counted] at stepped stepped'
        -- a step that goes on leaves agreeing machines to the rest of the run
        cases result with
        | ok next =>
          simp only [stepped, stepped']
          exact execute_agrees stateless p limit rest next agrees
        | error f =>
          simp only [stepped, stepped']
          obtain ⟨scope', outcome'⟩ := agrees
          exact ⟨scope', by rw [outcome']⟩

/-- A run's outcome does not depend on the collaborators' state it starts with. -/
theorem execute_outcome_agent (stateless : agents.Stateless) (p : Program)
    (limit remaining pc : Nat) (m : Machine σ) (a : σ) :
    (p.execute agents limit remaining pc { m with agent := a }).outcome =
      (p.execute agents limit remaining pc m).outcome := by
  have agree : Machine.Agrees { m with agent := a } m := ⟨rfl, rfl⟩
  exact (execute_agrees stateless p limit remaining pc agree).2

end Program

/-- The outcome of an item's run alone, from the collaborators' state `agent`. -/
def Program.alone (agents : Agents σ) (p : Program) (maxSteps : Nat) (agent : σ)
    (input : ItemInput) : ItemOutcome :=
  (p.run agents maxSteps agent input.bindings).1

/-- The records of a job's items, numbered from 0, each with its input. -/
def Identified (inputs : List ItemInput) (rs : List ItemRecord) : Prop :=
  ∀ (i : Nat) (r : ItemRecord), rs[i]? = some r → r.itemId = i ∧ inputs[i]? = some r.input

theorem identified_fresh (inputs : List ItemInput) : Identified inputs (Tracker.fresh inputs) := by
  intro i r found
  rw [Tracker.fresh, List.getElem?_map, List.getElem?_zipIdx] at found
  obtain ⟨input, given, rfl⟩ := Option.map_eq_some_iff.1 (by simpa using found)
  exact ⟨rfl, given⟩

theorem Identified.set {inputs : List ItemInput} {rs : List ItemRecord} {j : Nat}
    {r r' : ItemRecord} (identified : Identified inputs rs) (found : rs[j]? = some r)
    (item : r'.itemId = r.itemId) (input : r'.input = r.input) :
    Identified inputs (rs.set j r') := by
  intro i r'' found'
  by_cases same : i = j
  · subst same
    rw [List.getElem?_set_self (List.getElem?_eq_some_iff.1 found).1, Option.some.injEq] at found'
    subst found'
    rw [item, input]
    exact identified i r found
  · rw [List.getElem?_set_ne (Ne.symm same)] at found'
    exact identified i r'' found'

/-- No step changes an item's number or input in its record. -/
theorem Identified.step {agents : Agents σ} {maxSteps n : Nat} {inputs : List ItemInput}
    {s s' : Pool σ} (identified : Identified inputs s.records) (sound : s.Sound n)
    (step : Pool.Step agents maxSteps s s') : Identified inputs s'.records := by
  cases step with
  | mark _ marked =>
    obtain ⟨r, found, -, records⟩ := sound.transition marked
    rw [Pool.records_eq records]
    exact identified.set found rfl rfl
  | record at_ recorded =>
    obtain ⟨r, found, -, records⟩ := sound.recordOutcome_eq at_ recorded
    rw [Pool.records_eq records]
    exact identified.set found rfl rfl
  | cancelOne _ cancelled =>
    obtain ⟨r, found, -, records⟩ := sound.transition cancelled
    rw [Pool.records_eq records]
    exact identified.set found rfl rfl
  | look | drained | take | skip | hand | tick | finish | unrecorded | send | cancel | cancelPass
    | cancelDone => exact identified

theorem Identified.run {agents : Agents σ} {maxSteps n : Nat} {inputs : List ItemInput}
    {s s' : Pool σ} (identified : Identified inputs s.records) (sound : s.Sound n)
    (run : Relation.ReflTransGen (Pool.Step agents maxSteps) s s') : Identified inputs s'.records := by
  induction run with
  | refl => exact identified
  | tail before step kept => exact kept.step (sound.run before) step

theorem identified_launch {t : Tracker} (sound : t.Sound) (agent : σ) (program : Program)
    (inputs : List ItemInput) (workers : Nat) :
    Identified inputs (Pool.launch t agent program inputs workers).records := by
  obtain ⟨-, -, -, listed⟩ := Tracker.register_laws sound inputs
  rw [Pool.records_eq listed]
  exact identified_fresh inputs

namespace Pool

section OnTrack

variable (agents : Agents σ) (maxSteps : Nat) (agent : σ) (inputs : List ItemInput)

/-- A worker whose item goes on to the outcome it has run alone: it holds the item's own
bindings, the interpreter's run goes on to that outcome, and the outcome recorded and the
completion are that outcome's. -/
def Worker.OnTrack (job : Nat) (p : Program) : Worker σ → Prop
  | .took i bindings | .marked i bindings =>
    ∃ input, inputs[i]? = some input ∧ bindings = input.bindings
  | .running i remaining pc m => ∃ input, inputs[i]? = some input ∧
    (p.execute agents (p.maxSteps.getD maxSteps) remaining pc m).outcome =
      p.alone agents maxSteps agent input
  | .ran i o => ∃ input, inputs[i]? = some input ∧ o = p.alone agents maxSteps agent input
  | .sending c => ∃ input, inputs[c.itemId]? = some input ∧
    c = Completion.ofOutcome job c.itemId (p.alone agents maxSteps agent input)
  | .idle | .taking | .exited => True

/-- Each finished record is the one its item's outcome alone makes. -/
def Recorded (p : Program) (rs : List ItemRecord) : Prop :=
  ∀ (i : Nat) (r : ItemRecord), rs[i]? = some r → (r.status = .done ∨ r.status = .error) →
    r = ItemRecord.ofOutcome i r.input (p.alone agents maxSteps agent r.input)

/-- Every item of a job goes on to, or ended with, the outcome it has run alone. -/
structure OnTrack (s : Pool σ) : Prop where
  queued : ∀ e ∈ s.queue, ∃ input, inputs[e.1]? = some input ∧ e.2 = input.bindings
  workers : ∀ w ∈ s.workers, Worker.OnTrack agents maxSteps agent inputs s.job s.program w
  recorded : Recorded agents maxSteps agent s.program s.records
  sent : ∀ c ∈ s.sent, ∃ input, inputs[c.itemId]? = some input ∧
    c = Completion.ofOutcome s.job c.itemId (s.program.alone agents maxSteps agent input)

variable {agents maxSteps agent inputs}

theorem Recorded.set {p : Program} {rs : List ItemRecord} {j : Nat} {r' : ItemRecord}
    (recorded : Recorded agents maxSteps agent p rs)
    (new : r'.status = .done ∨ r'.status = .error →
      r' = ItemRecord.ofOutcome j r'.input (p.alone agents maxSteps agent r'.input)) :
    Recorded agents maxSteps agent p (rs.set j r') := by
  intro i r found final
  by_cases same : i = j
  · subst same
    rw [List.getElem?_set] at found
    split at found
    · split at found
      · cases found
        exact new final
      · cases found
    · exact absurd rfl ‹¬i = i›
  · rw [List.getElem?_set_ne (Ne.symm same)] at found
    exact recorded i r found final

end OnTrack

section Steps

variable {agents : Agents σ} {maxSteps : Nat} {agent : σ} {inputs : List ItemInput}
  {s : Pool σ} {n k j : Nat}

theorem OnTrack.setWorker (track : OnTrack agents maxSteps agent inputs s) {w : Worker σ}
    (new : Worker.OnTrack agents maxSteps agent inputs s.job s.program w) :
    OnTrack agents maxSteps agent inputs (s.setWorker k w) :=
  ⟨track.queued, fun v member => (List.mem_or_eq_of_mem_set member).elim (track.workers v) (· ▸ new),
    track.recorded, track.sent⟩

theorem OnTrack.worker (track : OnTrack agents maxSteps agent inputs s) {w : Worker σ}
    (at_ : s.workers[k]? = some w) : Worker.OnTrack agents maxSteps agent inputs s.job s.program w :=
  track.workers w (List.mem_of_getElem? at_)

theorem OnTrack.take (track : OnTrack agents maxSteps agent inputs s) {bindings : Map}
    {rest : List (Nat × Map)} (front : s.queue = (j, bindings) :: rest) :
    OnTrack agents maxSteps agent inputs { s.setWorker k (.took j bindings) with queue := rest } := by
  have taken := track.setWorker (k := k) (w := .took j bindings)
    (track.queued (j, bindings) (by rw [front]; exact List.mem_cons_self))
  exact ⟨fun e member => track.queued e (by rw [front]; exact List.mem_cons_of_mem _ member),
    taken.workers, taken.recorded, taken.sent⟩

theorem OnTrack.mark (track : OnTrack agents maxSteps agent inputs s) (sound : s.Sound n)
    {bindings : Map} {t : Tracker} (at_ : s.workers[k]? = some (.took j bindings))
    (marked : s.tracker.markRunning s.job j = .ok t) :
    OnTrack agents maxSteps agent inputs { s.setWorker k (.marked j bindings) with tracker := t } := by
  obtain ⟨r, found, pending, records⟩ := sound.transition marked
  have held := track.worker at_
  have moved := track.setWorker (k := k) (w := .marked j bindings) held
  have records' := records_eq (s := { s.setWorker k (.marked j bindings) with tracker := t }) records
  refine ⟨moved.queued, moved.workers, ?_, moved.sent⟩
  rw [records']
  exact track.recorded.set fun final => by simp at final

theorem OnTrack.hand (track : OnTrack agents maxSteps agent inputs s)
    (stateless : agents.Stateless) {bindings : Map}
    (at_ : s.workers[k]? = some (.marked j bindings)) :
    OnTrack agents maxSteps agent inputs { s.setWorker k (.running j (s.limit maxSteps) 0
      { scope := Scope.ofSeed bindings, agent := s.agent }) with handed := s.handed ++ [j] } := by
  obtain ⟨input, given, rfl⟩ := track.worker at_
  -- the run starts as the item's run alone does, but for the collaborators' state
  have started := track.setWorker (k := k) (w := .running j (s.limit maxSteps) 0
    { scope := Scope.ofSeed input.bindings, agent := s.agent })
    ⟨input, given, Program.execute_outcome_agent stateless s.program _ _ 0
      { scope := Scope.ofSeed input.bindings, agent } s.agent⟩
  exact ⟨started.queued, started.workers, started.recorded, started.sent⟩

theorem OnTrack.tick (track : OnTrack agents maxSteps agent inputs s) (stateless : agents.Stateless)
    {remaining pc rest next : Nat} {m m' : Machine σ}
    (at_ : s.workers[k]? = some (.running j remaining pc m))
    (ticked : s.program.tick agents (s.limit maxSteps) remaining pc { m with agent := s.agent } =
      .inl (rest, next, m')) :
    OnTrack agents maxSteps agent inputs
      { s.setWorker k (.running j rest next m') with agent := m'.agent } := by
  obtain ⟨input, given, alone⟩ := track.worker at_
  have same : s.program.execute agents (s.limit maxSteps) remaining pc { m with agent := s.agent } =
      s.program.execute agents (s.limit maxSteps) rest next m' := by
    rw [Program.execute_eq_tick, ticked]
  -- the other workers' steps changed only the collaborators' state the run goes on with
  have goes : (s.program.execute agents (s.limit maxSteps) rest next m').outcome =
      s.program.alone agents maxSteps agent input := by
    rw [← same, Program.execute_outcome_agent stateless]
    exact alone
  have moved := track.setWorker (k := k) (w := .running j rest next m') ⟨input, given, goes⟩
  exact ⟨moved.queued, moved.workers, moved.recorded, moved.sent⟩

theorem OnTrack.finish (track : OnTrack agents maxSteps agent inputs s)
    (stateless : agents.Stateless) {remaining pc : Nat} {m m' : Machine σ}
    (at_ : s.workers[k]? = some (.running j remaining pc m))
    (ticked : s.program.tick agents (s.limit maxSteps) remaining pc { m with agent := s.agent } =
      .inr m') :
    OnTrack agents maxSteps agent inputs
      { s.setWorker k (.ran j m'.outcome) with agent := m'.agent } := by
  obtain ⟨input, given, alone⟩ := track.worker at_
  have same : s.program.execute agents (s.limit maxSteps) remaining pc { m with agent := s.agent } =
      m' := by
    rw [Program.execute_eq_tick, ticked]
  have ended : m'.outcome = s.program.alone agents maxSteps agent input := by
    rw [← same, Program.execute_outcome_agent stateless]
    exact alone
  have moved := track.setWorker (k := k) (w := .ran j m'.outcome) ⟨input, given, ended⟩
  exact ⟨moved.queued, moved.workers, moved.recorded, moved.sent⟩

theorem OnTrack.record (track : OnTrack agents maxSteps agent inputs s) (sound : s.Sound n)
    (identified : Identified inputs s.records) {o : ItemOutcome} {status : ItemStatus} {t : Tracker} (at_ : s.workers[k]? = some (.ran j o))
    (recorded : s.tracker.recordOutcome s.job j o = (status, .ok t)) :
    OnTrack agents maxSteps agent inputs
      { s.setWorker k (.sending ⟨s.job, j, status, o.error, o.turnaroundMs⟩) with tracker := t } := by
  obtain ⟨r, found, rfl, records⟩ := sound.recordOutcome_eq at_ recorded
  obtain ⟨input, given, alone⟩ := track.worker at_
  obtain ⟨numbered, own⟩ := identified j r found
  have same : input = r.input := Option.some.inj (given.symm.trans own)
  subst same
  have sending := track.setWorker (k := k)
    (w := .sending ⟨s.job, j, o.recordedStatus, o.error, o.turnaroundMs⟩)
    ⟨r.input, given, by rw [alone]; rfl⟩
  have records' := records_eq (s := { s.setWorker k
    (.sending ⟨s.job, j, o.recordedStatus, o.error, o.turnaroundMs⟩) with tracker := t }) records
  refine ⟨sending.queued, sending.workers, ?_, sending.sent⟩
  rw [records', numbered]
  exact track.recorded.set fun _ => by
    rw [alone]
    rfl

theorem OnTrack.send (track : OnTrack agents maxSteps agent inputs s) {c : Completion}
    (at_ : s.workers[k]? = some (.sending c)) :
    OnTrack agents maxSteps agent inputs { s.setWorker k .idle with sent := s.sent ++ [c] } := by
  have reported := track.worker at_
  have freed := track.setWorker (k := k) (w := .idle) trivial
  refine ⟨freed.queued, freed.workers, freed.recorded, fun c' member => ?_⟩
  rcases List.mem_append.1 member with old | new
  · exact track.sent c' old
  · rw [List.mem_singleton.1 new]
    exact reported

theorem OnTrack.cancelOne (track : OnTrack agents maxSteps agent inputs s) (sound : s.Sound n)
    {item count : Nat} {t : Tracker} (cancelled : s.tracker.markCancelled s.job item = .ok t) :
    OnTrack agents maxSteps agent inputs
      { s with tracker := t, cancelling := some (item + 1, count + 1) } := by
  obtain ⟨r, found, -, records⟩ := sound.transition cancelled
  have records' := records_eq (s := { s with tracker := t, cancelling := some (item + 1, count + 1) })
    records
  refine ⟨track.queued, track.workers, ?_, track.sent⟩
  rw [records']
  exact track.recorded.set fun final => by simp at final

/-- Every step keeps a job's items on track, when the collaborators keep no state that matters. -/
theorem OnTrack.step (stateless : agents.Stateless) (track : OnTrack agents maxSteps agent inputs s)
    (sound : s.Sound n) (identified : Identified inputs s.records) {s' : Pool σ} (step : Step agents maxSteps s s') :
    OnTrack agents maxSteps agent inputs s' := by
  cases step with
  | look => exact track.setWorker (by split <;> trivial)
  | drained | skip | unrecorded => exact track.setWorker trivial
  | take _ front => exact track.take front
  | mark at_ marked => exact track.mark sound at_ marked
  | hand at_ => exact track.hand stateless at_
  | tick at_ ticked => exact track.tick stateless at_ ticked
  | finish at_ ticked => exact track.finish stateless at_ ticked
  | record at_ recorded => exact track.record sound identified at_ recorded
  | send at_ => exact track.send at_
  | cancelOne _ cancelled => exact track.cancelOne sound cancelled
  | cancel | cancelPass | cancelDone =>
    exact ⟨track.queued, track.workers, track.recorded, track.sent⟩

theorem OnTrack.run (stateless : agents.Stateless) (track : OnTrack agents maxSteps agent inputs s)
    (sound : s.Sound n) (identified : Identified inputs s.records) {s' : Pool σ}
    (run : Relation.ReflTransGen (Step agents maxSteps) s s') :
    OnTrack agents maxSteps agent inputs s' := by
  induction run with
  | refl => exact track
  | tail before step kept =>
    exact kept.step stateless (sound.run before) (identified.run sound before) step

end Steps


/-- A job starts on track: every item queued with its own bindings, every record pending. -/
theorem onTrack_launch {t : Tracker} (sound : t.Sound) (agents : Agents σ) (maxSteps : Nat)
    (agent : σ) (program : Program) (inputs : List ItemInput) (workers : Nat) :
    OnTrack agents maxSteps agent inputs (launch t agent program inputs workers) := by
  have records := records_launch sound agent program inputs workers
  refine ⟨?_, ?_, ?_, fun _ absent => (List.not_mem_nil absent).elim⟩
  · intro e member
    obtain ⟨⟨input, i⟩, inside, rfl⟩ := List.mem_map.1 member
    exact ⟨input, List.mem_zipIdx_iff_getElem?.1 inside, rfl⟩
  · intro w member
    rw [List.eq_of_mem_replicate member]
    trivial
  · rw [records]
    intro i r found final
    rw [Tracker.fresh, List.getElem?_map, List.getElem?_zipIdx] at found
    obtain ⟨input, -, rfl⟩ := Option.map_eq_some_iff.1 (by simpa using found)
    simp at final

theorem nodup_completions (job : Nat) (f : ItemInput → ItemOutcome) (inputs : List ItemInput) :
    (inputs.zipIdx.map fun (input, i) => Completion.ofOutcome job i (f input)).Nodup := by
  refine List.Nodup.of_map (·.itemId) ?_
  rw [List.map_map]
  rw [show ((·.itemId) ∘ fun (e : ItemInput × Nat) => Completion.ofOutcome job e.2 (f e.1)) =
    Prod.snd from rfl, List.zipIdx_map_snd]
  exact List.nodup_range'

/-- With collaborators that keep no state that matters, a job settled with no cancel call made
has, for every item, the record and the completion of the item's run alone: the same whatever
the number of workers and the interleaving of their steps. -/
theorem records_of_stateless {agents : Agents σ} (stateless : agents.Stateless) (maxSteps : Nat)
    {workers : Nat} {t : Tracker} {agent : σ} {program : Program} {inputs : List ItemInput}
    {s : Pool σ} (sound : t.Sound) (staffed : 0 < workers)
    (run : Relation.ReflTransGen (Step agents maxSteps) (launch t agent program inputs workers) s)
    (settled : s.Settled) (uncancelled : s.cancelled = false) :
    s.records = inputs.zipIdx.map (fun (input, i) =>
        ItemRecord.ofOutcome i input (program.alone agents maxSteps agent input)) ∧
      s.sent.Perm (inputs.zipIdx.map fun (input, i) =>
        Completion.ofOutcome (t.register inputs).1 i (program.alone agents maxSteps agent input)) := by
  have launched := sound_launch sound agent program inputs workers
  have kept := launched.run run
  have identified := (identified_launch sound agent program inputs workers).run launched run
  have track := (onTrack_launch sound agents maxSteps agent program inputs workers).run stateless
    launched (identified_launch sound agent program inputs workers) run
  obtain ⟨job, same, length⟩ := frame_of_launch run
  have staffed' : 0 < s.workers.length := length ▸ staffed
  -- every item ran and finished as it would alone
  have finished : ∀ i r, s.records[i]? = some r → inputs[i]? = some r.input ∧
      r = ItemRecord.ofOutcome i r.input (program.alone agents maxSteps agent r.input) ∧
      ∃ c, s.sentFor i = [c] := by
    intro i r found
    obtain ⟨c, reports, only⟩ := kept.reported settled staffed' uncancelled found
    refine ⟨(identified i r found).2, ?_, c, only⟩
    rw [← same]
    exact track.recorded i r found reports.final
  constructor
  · refine List.ext_getElem? fun i => ?_
    rw [List.getElem?_map, List.getElem?_zipIdx]
    cases found : s.records[i]? with
    | none =>
      rw [List.getElem?_eq_none_iff, kept.length] at found
      rw [List.getElem?_eq_none_iff.2 found]
      rfl
    | some r =>
      obtain ⟨given, record, -⟩ := finished i r found
      rw [given]
      simp only [Option.map_some, Nat.zero_add]
      exact congrArg some record
  · refine (List.perm_ext_iff_of_nodup (List.Nodup.of_map _ kept.sent_nodup)
      (nodup_completions _ _ inputs)).2 fun c => ⟨fun member => ?_, fun member => ?_⟩
    · obtain ⟨input, given, reported⟩ := track.sent c member
      refine List.mem_map.2 ⟨(input, c.itemId), List.mem_zipIdx_iff_getElem?.2 given, ?_⟩
      rw [job, same] at reported
      exact reported.symm
    · obtain ⟨⟨input, i⟩, inside, rfl⟩ := List.mem_map.1 member
      have given := List.mem_zipIdx_iff_getElem?.1 inside
      have within : i < s.records.length := by
        rw [kept.length]
        exact (List.getElem?_eq_some_iff.1 given).1
      obtain ⟨-, -, c, only⟩ := finished i _ (List.getElem?_eq_getElem within)
      obtain ⟨mine, numbered⟩ := mem_sentFor.1 (only ▸ List.mem_singleton_self c)
      obtain ⟨input', given', reported⟩ := track.sent c mine
      rw [numbered, given, Option.some.injEq] at given'
      subst given'
      rw [reported, numbered, job, same] at mine
      exact mine

set_option maxRecDepth 4000 in
/-- Two items run by two workers, interleaved so that item 1 is reported first: the records and
completions are those of each item run alone. -/
theorem records_of_stateless_interleaved :
    ∃ s : Pool Unit, Relation.ReflTransGen (Step (Agents.counting.frozen 0) 10)
      (launch {} () Program.askThenRow [.pass 0, .pass 1] 2) s ∧ s.Settled ∧
      s.cancelled = false ∧ s.sent.map (·.itemId) = [1, 0] ∧
      s.records = [ItemRecord.ofOutcome 0 (.pass 0)
          (Program.askThenRow.alone (Agents.counting.frozen 0) 10 () (.pass 0)),
        ItemRecord.ofOutcome 1 (.pass 1)
          (Program.askThenRow.alone (Agents.counting.frozen 0) 10 () (.pass 1))] ∧
      s.sent.Perm [Completion.ofOutcome 1 0
          (Program.askThenRow.alone (Agents.counting.frozen 0) 10 () (.pass 0)),
        Completion.ofOutcome 1 1
          (Program.askThenRow.alone (Agents.counting.frozen 0) 10 () (.pass 1))] := by
  have run : Relation.ReflTransGen (Step (Agents.counting.frozen 0) 10)
      (launch {} () Program.askThenRow [.pass 0, .pass 1] 2) _ :=
    .tail (.tail (.tail (.tail (.tail (.tail (.tail (.tail (.tail (.tail (.tail (.tail (.tail (.tail
      (.tail (.tail (.tail (.tail (.tail (.tail (.tail (.tail .refl
      (Step.look (k := 0) rfl)) (Step.take (k := 0) rfl rfl))
      (Step.look (k := 1) rfl)) (Step.take (k := 1) rfl rfl))
      (Step.mark (k := 1) rfl rfl)) (Step.mark (k := 0) rfl rfl))
      (Step.hand (k := 1) rfl)) (Step.hand (k := 0) rfl))
      (Step.tick (k := 1) rfl rfl)) (Step.tick (k := 0) rfl rfl))
      (Step.tick (k := 1) rfl rfl)) (Step.finish (k := 1) rfl rfl))
      (Step.record (k := 1) rfl rfl)) (Step.send (k := 1) rfl))
      (Step.tick (k := 0) rfl rfl)) (Step.finish (k := 0) rfl rfl))
      (Step.record (k := 0) rfl rfl)) (Step.send (k := 0) rfl))
      (Step.look (k := 0) rfl)) (Step.drained (k := 0) rfl rfl))
      (Step.look (k := 1) rfl)) (Step.drained (k := 1) rfl rfl)
  refine ⟨_, run, ?settled, rfl, rfl, records_of_stateless (Agents.counting.frozen_stateless 0) 10
    Tracker.empty_sound (by decide) run ?settled rfl⟩
  refine ⟨fun w member => ?_, rfl⟩
  have listed : w ∈ [Worker.exited, Worker.exited] := member
  simp only [List.mem_cons, List.not_mem_nil, or_false, or_self] at listed
  exact listed

end Pool

end PromptPipeline
