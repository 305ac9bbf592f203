import PromptPipeline.Proofs.Budget
import PromptPipeline.Proofs.Pool
/-!
The time and raw text of a run.

A prompt adds the time of each answer it gets to the outcome's counter, a 64-bit word that wraps,
and keeps the answer's raw text before reading it. Collaborators that also keep the answers given
(`Agents.answered`) run the program as the plain ones do, and along such a run the outcome's time
is the sum of the answers' times modulo `2 ^ 64` and its raw text the last answer's; the tracker
keeps both in the item's record (`Program.run_answered`).
-/
namespace PromptPipeline

variable {σ τ : Type}

/-- The same collaborators, also keeping the answers the provider gave, in order. -/
def Agents.answered (agents : Agents σ) : Agents (σ × List Response) where
  render s template bindings :=
    let (rendered, agent) := agents.render s.1 template bindings
    (rendered, (agent, s.2))
  answer s request :=
    let (reply, agent) := agents.answer s.1 request
    (reply, (agent, s.2 ++ reply.toOption.toList))
  read s raw spec :=
    let (fields, agent) := agents.read s.1 raw spec
    (fields, (agent, s.2))

/-- The time and raw text of an outcome, against the answers of a run so far: the time is their
sum on a 64-bit counter, the raw text the last one's. -/
def ItemOutcome.Tallies (o : ItemOutcome) (answers : List Response) : Prop :=
  o.turnaroundMs.toNat = (answers.map (·.turnaroundMs.toNat)).sum % 2 ^ 64 ∧
    o.rawText = answers.getLast?.map (·.rawText)

namespace ItemOutcome

theorem tallies_empty : ({} : ItemOutcome).Tallies [] := ⟨rfl, rfl⟩

/-- Tallies read only the time and the raw text. -/
theorem Tallies.of_eq {o o' : ItemOutcome} {answers : List Response} (tallied : o.Tallies answers)
    (time : o'.turnaroundMs = o.turnaroundMs) (raw : o'.rawText = o.rawText) :
    o'.Tallies answers := by
  rw [Tallies, time, raw]
  exact tallied

/-- An answer adds its time to the counter, which wraps, and becomes the last raw text. -/
theorem Tallies.answer {o : ItemOutcome} {answers : List Response} (tallied : o.Tallies answers)
    (r : Response) :
    { o with turnaroundMs := o.turnaroundMs + r.turnaroundMs, rawText := some r.rawText }.Tallies
      (answers ++ [r]) := by
  obtain ⟨time, raw⟩ := tallied
  refine ⟨?_, by simp⟩
  rw [UInt64.toNat_add, time, List.map_append, List.sum_append, Nat.mod_add_mod]
  simp

end ItemOutcome

/-- A machine with the second part of the collaborators' state left out. -/
def Machine.fst (m : Machine (σ × τ)) : Machine σ := ⟨m.scope, m.agent.1, m.outcome⟩

/-- A machine whose outcome tallies the answers it keeps. -/
def Machine.Tallied (m : Machine (σ × List Response)) : Prop := m.outcome.Tallies m.agent.2

namespace Program

/-- What every step keeps, and what neither the failure nor the count of steps bears on, a whole
run keeps. -/
theorem execute_keeps {agents : Agents σ} {p : Program} {limit : Nat} (P : Machine σ → Prop)
    (blind : ∀ (m : Machine σ) error aborted steps, P m → P { m with outcome :=
      { m.outcome with error, aborted, stepsExecuted := steps } })
    (stepped : ∀ pc (m : Machine σ) ins, P m → P (p.step agents pc m ins).2) :
    ∀ (r pc : Nat) (m : Machine σ), P m → P (p.execute agents limit r pc m)
  | r, pc, m, kept => by
    cases fetched : p.instructions[pc]? with
    | none => rwa [execute_of_past fetched]
    | some ins =>
      cases r with
      | zero =>
        rw [execute_zero fetched]
        exact blind _ _ _ _ kept
      | succ r =>
        rw [execute_succ fetched]
        have first := stepped pc m.counted ins (blind _ _ _ _ kept)
        rcases step : p.step agents pc m.counted ins with ⟨f | next, m'⟩ <;> rw [step] at first
        · exact blind _ _ _ _ first
        · exact execute_keeps P blind stepped r next m' first

variable (agents : Agents σ)

theorem prompt_answered (name : String) (spec : PromptSpec) (m : Machine (σ × List Response)) :
    (prompt agents.answered name spec m).1 = (prompt agents name spec m.fst).1 ∧
      (prompt agents.answered name spec m).2.fst = (prompt agents name spec m.fst).2 := by
  obtain ⟨scope, ⟨a, answers⟩, outcome⟩ := m
  unfold prompt
  simp only [Agents.answered, Machine.fst]
  -- the three calls answer alike on both sides; the answers kept ride along
  split
  · exact ⟨rfl, rfl⟩
  split
  · exact ⟨rfl, rfl⟩
  split <;> exact ⟨rfl, rfl⟩

theorem step_answered (p : Program) (pc : Nat) (m : Machine (σ × List Response))
    (ins : Instruction) :
    (p.step agents.answered pc m ins).1 = (p.step agents pc m.fst ins).1 ∧
      (p.step agents.answered pc m ins).2.fst = (p.step agents pc m.fst ins).2 := by
  cases ins with
  | prompt name spec =>
    obtain ⟨same, projected⟩ := prompt_answered agents name spec m
    simp only [step]
    rcases prompted : prompt agents.answered name spec m with ⟨result, n⟩
    rcases prompted' : prompt agents name spec m.fst with ⟨result', n'⟩
    rw [prompted, prompted'] at same projected
    cases same
    cases result with
    | ok u => exact ⟨rfl, projected⟩
    | error f => exact ⟨rfl, projected⟩
  | set | openIf | openLoop | output =>
    simp only [step, evalIn, row, Machine.fst]
    split <;> exact ⟨rfl, rfl⟩
  | elseBranch | closeIf | closeLoop | goto | label => exact ⟨rfl, rfl⟩

/-- Keeping the answers changes nothing of the run. -/
theorem execute_answered (p : Program) (limit : Nat) :
    ∀ (r pc : Nat) (m : Machine (σ × List Response)),
      (p.execute agents.answered limit r pc m).fst = p.execute agents limit r pc m.fst
  | r, pc, m => by
    cases fetched : p.instructions[pc]? with
    | none => rw [execute_of_past fetched, execute_of_past fetched]
    | some ins =>
      cases r with
      | zero =>
        rw [execute_zero fetched, execute_zero fetched]
        rfl
      | succ r =>
        rw [execute_succ fetched, execute_succ fetched]
        have counted : m.fst.counted = m.counted.fst := rfl
        obtain ⟨same, projected⟩ := step_answered agents p pc m.counted ins
        rw [counted]
        rcases stepped : p.step agents.answered pc m.counted ins with ⟨result, n⟩
        rcases stepped' : p.step agents pc m.counted.fst ins with ⟨result', n'⟩
        rw [stepped, stepped'] at same projected
        cases same
        subst projected
        -- a step that goes on leaves the same machines to the rest of the run
        cases result with
        | ok next => exact execute_answered p limit r next n
        | error f => rfl

theorem prompt_tallies (name : String) (spec : PromptSpec) (m : Machine (σ × List Response))
    (tallied : m.Tallied) : (prompt agents.answered name spec m).2.Tallied := by
  obtain ⟨scope, ⟨a, answers⟩, outcome⟩ := m
  unfold prompt
  simp only [Agents.answered]
  split
  · exact tallied
  split <;> rename_i answered <;> rw [answered]
  · -- a failed call adds no answer
    rw [Except.toOption, Option.toList, List.append_nil]
    exact tallied
  · -- the answer counts whatever reading it gives
    split <;> exact tallied.answer _

theorem step_tallies (p : Program) (pc : Nat) (m : Machine (σ × List Response))
    (ins : Instruction) (tallied : m.Tallied) : (p.step agents.answered pc m ins).2.Tallied := by
  cases ins with
  | prompt name spec =>
    have kept := prompt_tallies agents name spec m tallied
    simp only [step]
    split <;> rename_i prompted <;> rw [prompted] at kept <;> exact kept
  | set | openIf | openLoop =>
    simp only [step]
    split <;> exact tallied
  | output =>
    simp only [step]
    split
    · exact ItemOutcome.Tallies.of_eq tallied rfl rfl
    · exact tallied
  | elseBranch | closeIf | closeLoop | goto | label => exact tallied

/-- Along a run that keeps the answers, the outcome tallies them. -/
theorem execute_tallies (p : Program) (limit r pc : Nat) (m : Machine (σ × List Response))
    (tallied : m.Tallied) : (p.execute agents.answered limit r pc m).Tallied :=
  execute_keeps Machine.Tallied (fun _ _ _ _ kept => ItemOutcome.Tallies.of_eq kept rfl rfl)
    (step_tallies agents p) r pc m tallied

end Program

/-- The record the tracker writes for an item that ran, done or failed, keeps the time and raw
text of its outcome. -/
theorem Tracker.recordOutcome_keeps {t t' : Tracker} {job item : Nat} {o : ItemOutcome}
    {status : ItemStatus} (recorded : t.recordOutcome job item o = (status, .ok t')) :
    ∃ rs r, t'.records job = .ok rs ∧ rs[item]? = some r ∧ r.turnaroundMs = o.turnaroundMs ∧
      r.rawText = o.rawText := by
  unfold Tracker.recordOutcome at recorded
  split at recorded <;> obtain ⟨-, moved⟩ := Prod.mk.inj recorded <;>
    obtain ⟨rs, r, listed, found, -, rfl⟩ := Tracker.transition_eq_ok.1 moved <;>
    exact ⟨_, _, Tracker.records_setRecords_self listed,
      List.getElem?_set_self (List.getElem?_eq_some_iff.1 found).1, rfl, rfl⟩

/-- A run of an item with collaborators that also keep the answers the provider gave is the plain
run; its outcome's time is the sum of those answers' times on a 64-bit counter, which wraps, and
its raw text the last answer's, also when reading that answer failed; and the tracker's record of
the item, done or failed, keeps both. -/
theorem Program.run_answered (agents : Agents σ) (p : Program) (maxSteps : Nat) (agent : σ)
    (bindings : Map) :
    let run := p.run agents.answered maxSteps (agent, []) bindings
    (run.1, run.2.1) = p.run agents maxSteps agent bindings ∧
    run.1.turnaroundMs.toNat = (run.2.2.map (·.turnaroundMs.toNat)).sum % 2 ^ 64 ∧
    run.1.rawText = run.2.2.getLast?.map (·.rawText) ∧
    ∀ (t t' : Tracker) (job item : Nat) (status : ItemStatus),
      t.recordOutcome job item run.1 = (status, .ok t') →
      ∃ rs r, t'.records job = .ok rs ∧ rs[item]? = some r ∧
        r.turnaroundMs = run.1.turnaroundMs ∧ r.rawText = run.1.rawText := by
  intro run
  have projected : (p.execute agents.answered (p.maxSteps.getD maxSteps) (p.maxSteps.getD maxSteps) 0
      ⟨Scope.ofSeed bindings, (agent, []), {}⟩).fst =
      p.execute agents (p.maxSteps.getD maxSteps) (p.maxSteps.getD maxSteps) 0
        ⟨Scope.ofSeed bindings, agent, {}⟩ :=
    Program.execute_answered agents p _ _ 0 _
  have tallied := Program.execute_tallies agents p (p.maxSteps.getD maxSteps)
    (p.maxSteps.getD maxSteps) 0 ⟨Scope.ofSeed bindings, (agent, []), {}⟩ ItemOutcome.tallies_empty
  exact ⟨congrArg (fun m => (m.outcome, m.agent)) projected, tallied.1, tallied.2,
    fun t t' job item status => Tracker.recordOutcome_keeps⟩

/-- The item of two prompts whose answers take `2 ^ 64 - 1` and `1` milliseconds: the counter
wraps to `0`, where the sum is `2 ^ 64`; the raw text is the second answer's. -/
theorem Program.run_turnaround_wraps :
    let p : Program := ⟨"w", [.prompt "p" { template := "q" }, .prompt "p" { template := "q" }],
      [none, none], [0, 0], none⟩
    let run := p.run Agents.standard 10
      (.script [.ok ⟨"first", 18446744073709551615⟩, .ok ⟨"second", 1⟩]) [("iteration", .ofNat 0)]
    run.1.turnaroundMs = 0 ∧ run.1.rawText = some "second" ∧ run.1.error = none := by
  decide +kernel

end PromptPipeline
