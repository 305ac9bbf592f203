import PromptPipeline.Proofs.Structured
import PromptPipeline.Proofs.Termination
/-!
Runs under two step budgets.

The budget is checked before each step, so a run with budget `L` executes exactly the steps that
the run without a budget executes, up to the first `L` of them, and stops at the next one if
there is one. `Program.walk` is the run without a budget, `k` steps on: where it stands then and
its machine, or nothing when it ended before. A budgeted run that the walk outlasts goes on as
the walk from where the walk stands (`Program.execute_walk`), and one that ends within its budget
gives the same with every larger budget (`Program.execute_of_walk_none`).

So a run with budget `L` executes at most `L` steps; it reports the budget exhausted exactly
when the unbounded run executes more than `L` steps, and then it has executed `L` steps and stops
at the step the unbounded run takes next; otherwise a larger budget changes nothing; and in every
case the rows it writes and the calls it makes to the collaborators are the first ones of a run
with a larger budget (`Program.run_budgets`).
-/
namespace PromptPipeline

variable {σ : Type}

/-! Recording the calls made to the collaborators. -/

/-- A call to a collaborator, with what it was given. -/
inductive Call where
  | render (template : String) (bindings : Map)
  | answer (request : PromptRequest)
  | read (raw : String) (spec : ResponseSpec)

/-- The same collaborators, keeping the list of the calls made to them. -/
def Agents.recording (agents : Agents σ) : Agents (σ × List Call) where
  render s template bindings :=
    let (rendered, agent) := agents.render s.1 template bindings
    (rendered, (agent, s.2 ++ [.render template bindings]))
  answer s request :=
    let (reply, agent) := agents.answer s.1 request
    (reply, (agent, s.2 ++ [.answer request]))
  read s raw spec :=
    let (fields, agent) := agents.read s.1 raw spec
    (fields, (agent, s.2 ++ [.read raw spec]))

namespace Program

variable (agents : Agents σ) (p : Program)

/-- The run without a budget, `k` steps on from step `pc`: the step it stands at then, with its
machine, or none when it left the program or failed before. -/
def walk : Nat → Nat → Machine σ → Option (Nat × Machine σ)
  | 0, pc, m => some (pc, m)
  | k + 1, pc, m =>
    match p.instructions[pc]? with
    | none => none
    | some ins =>
      match p.step agents pc m.counted ins with
      | (.ok next, m') => walk k next m'
      | (.error _, _) => none

variable {agents p}

theorem walk_succ {ins : Instruction} {pc : Nat} (fetched : p.instructions[pc]? = some ins) (k : Nat)
    (m : Machine σ) :
    p.walk agents (k + 1) pc m =
      match p.step agents pc m.counted ins with
      | (.ok next, m') => p.walk agents k next m'
      | (.error _, _) => none := by
  rw [walk, fetched]

theorem walk_succ_of_none {pc : Nat} (past : p.instructions[pc]? = none) (k : Nat) (m : Machine σ) :
    p.walk agents (k + 1) pc m = none := by
  rw [walk, past]

/-- A walk one step longer that stands somewhere took that step from an instruction, and the
step let the run go on. -/
theorem walk_succ_eq_some {k pc pc' : Nat} {m m' : Machine σ}
    (walked : p.walk agents (k + 1) pc m = some (pc', m')) :
    ∃ ins next m'', p.instructions[pc]? = some ins ∧
      p.step agents pc m.counted ins = (.ok next, m'') ∧ p.walk agents k next m'' = some (pc', m') := by
  cases fetched : p.instructions[pc]? with
  | none => rw [walk_succ_of_none fetched] at walked; cases walked
  | some ins =>
    rw [walk_succ fetched] at walked
    rcases stepped : p.step agents pc m.counted ins with ⟨f | next, m''⟩
    · rw [stepped] at walked
      cases walked
    · rw [stepped] at walked
      exact ⟨ins, next, m'', rfl, stepped, walked⟩

/-- Each step of the walk is counted. -/
theorem walk_steps : ∀ {k pc pc' : Nat} {m m' : Machine σ}, p.walk agents k pc m = some (pc', m') →
    m'.steps = m.steps + k
  | 0, pc, pc', m, m', walked => by
    cases walked
    rfl
  | k + 1, pc, pc', m, m', walked => by
    obtain ⟨ins, next, m'', -, stepped, walked⟩ := walk_succ_eq_some walked
    have counted : m''.steps = m.steps + 1 := by
      rw [← Machine.counted_steps, ← step_steps agents p pc m.counted ins, stepped]
    rw [walk_steps walked, counted]
    omega

/-- The walk keeps the failure of the machine it starts from: a step that fails ends it. -/
theorem walk_error : ∀ {k pc pc' : Nat} {m m' : Machine σ}, p.walk agents k pc m = some (pc', m') →
    m'.outcome.error = m.outcome.error
  | 0, pc, pc', m, m', walked => by
    cases walked
    rfl
  | k + 1, pc, pc', m, m', walked => by
    obtain ⟨ins, next, m'', -, stepped, walked⟩ := walk_succ_eq_some walked
    rw [walk_error walked, step_error stepped]
    rfl

/-! The budgeted run against the walk. -/

variable {limit : Nat}

theorem execute_of_past {pc : Nat} (past : p.instructions[pc]? = none) (r : Nat) (m : Machine σ) :
    p.execute agents limit r pc m = m := by
  rw [execute, past]

/-- With no budget left at an instruction, the run stops there, the budget exhausted. -/
theorem execute_zero {pc : Nat} {ins : Instruction} (fetched : p.instructions[pc]? = some ins)
    (m : Machine σ) :
    p.execute agents limit 0 pc m =
      { m with outcome := { m.outcome with
        error := some ((Fault.runtime (.stepLimitExceeded limit)).at_ pc) } } := by
  rw [execute, fetched]

/-- A run that the walk outlasts goes on from where the walk stands, with the budget it has
left. -/
theorem execute_walk (r : Nat) : ∀ {k pc pc' : Nat} {m m' : Machine σ},
    p.walk agents k pc m = some (pc', m') →
    p.execute agents limit (k + r) pc m = p.execute agents limit r pc' m'
  | 0, pc, pc', m, m', walked => by
    cases walked
    rw [Nat.zero_add]
  | k + 1, pc, pc', m, m', walked => by
    obtain ⟨ins, next, m'', fetched, stepped, walked⟩ := walk_succ_eq_some walked
    rw [Nat.add_right_comm, execute_succ fetched, stepped]
    exact execute_walk r walked

variable (limit) in
/-- A run whose budget the walk uses up stands where the walk stands. -/
theorem execute_of_walk {k pc pc' : Nat} {m m' : Machine σ} (walked : p.walk agents k pc m = some (pc', m')) :
    p.execute agents limit k pc m = p.execute agents limit 0 pc' m' :=
  execute_walk 0 walked

/-- A run that ends within `k` steps ends the same with any budget of at least `k` steps. -/
theorem execute_of_walk_none (limit' r : Nat) : ∀ {k pc : Nat} {m : Machine σ},
    p.walk agents k pc m = none →
    p.execute agents limit (k + r) pc m = p.execute agents limit' k pc m
  | 0, pc, m, walked => by cases walked
  | k + 1, pc, m, walked => by
    cases fetched : p.instructions[pc]? with
    | none => rw [execute_of_past fetched, execute_of_past fetched]
    | some ins =>
      rw [walk_succ fetched] at walked
      rw [Nat.add_right_comm, execute_succ fetched, execute_succ fetched]
      rcases stepped : p.step agents pc m.counted ins with ⟨f | next, m''⟩
      · rfl
      · rw [stepped] at walked
        exact execute_of_walk_none limit' r walked

/-- A run that ends within `k` steps does not report the budget, unless it started out so. -/
theorem not_outOfBudget_of_walk_none : ∀ {k pc : Nat} {m : Machine σ},
    p.walk agents k pc m = none → ¬ m.outcome.OutOfBudget →
    ¬ (p.execute agents limit k pc m).outcome.OutOfBudget
  | 0, pc, m, walked, _ => by cases walked
  | k + 1, pc, m, walked, clean => by
    cases fetched : p.instructions[pc]? with
    | none => rwa [execute_of_past fetched]
    | some ins =>
      rw [walk_succ fetched] at walked
      rw [execute_succ fetched]
      rcases stepped : p.step agents pc m.counted ins with ⟨f | next, m''⟩
      · -- the step failed with a cause of its own
        rintro ⟨limit', pc', reported⟩
        simp only [Machine.failed, Option.some.injEq] at reported
        exact Fault.at_ne_budget (step_fault stepped) pc limit' pc' reported
      · rw [stepped] at walked
        have kept : m''.outcome.error = m.outcome.error := (step_error stepped).trans rfl
        exact not_outOfBudget_of_walk_none walked (by rwa [ItemOutcome.OutOfBudget, kept])

/-- A run executes at most the steps of its budget. -/
theorem execute_steps_le : ∀ (r pc : Nat) (m : Machine σ),
    (p.execute agents limit r pc m).steps ≤ m.steps + r
  | r, pc, m => by
    cases fetched : p.instructions[pc]? with
    | none => rw [execute_of_past fetched]; omega
    | some ins =>
      cases r with
      | zero =>
        rw [execute_zero fetched]
        exact Nat.le_refl _
      | succ r =>
        rw [execute_succ fetched]
        have counted := step_steps agents p pc m.counted ins
        rcases stepped : p.step agents pc m.counted ins with ⟨f | next, m''⟩
        · simp only [stepped, Machine.counted_steps] at counted
          show m''.steps ≤ _
          omega
        · simp only [stepped, Machine.counted_steps] at counted
          have := execute_steps_le r next m''
          dsimp only
          omega

/-- What a run writes, seen through a view that ignores the failure and the count of steps, only
grows: each step extends it, so the run extends it. -/
theorem execute_extends {α : Type} (view : Machine σ → List α)
    (blind : ∀ (m : Machine σ) error aborted steps, view { m with outcome :=
      { m.outcome with error, aborted, stepsExecuted := steps } } = view m)
    (stepped : ∀ pc (m : Machine σ) ins, view m <+: view (p.step agents pc m ins).2) :
    ∀ (r pc : Nat) (m : Machine σ), view m <+: view (p.execute agents limit r pc m)
  | r, pc, m => by
    cases fetched : p.instructions[pc]? with
    | none => rw [execute_of_past fetched]
    | some ins =>
      cases r with
      | zero =>
        have same : view { m with outcome := { m.outcome with
            error := some ((Fault.runtime (.stepLimitExceeded limit)).at_ pc) } } = view m :=
          blind _ _ _ _
        rw [execute_zero fetched, same]
      | succ r =>
        rw [execute_succ fetched]
        have first : view m <+: view (p.step agents pc m.counted ins).2 := by
          have same : view m.counted = view m := blind _ _ _ _
          rw [← same]
          exact stepped pc m.counted ins
        rcases step : p.step agents pc m.counted ins with ⟨f | next, m''⟩
        · rw [step] at first
          have same : view (m''.failed f pc) = view m'' := blind _ _ _ _
          show view m <+: view (m''.failed f pc)
          rw [same]
          exact first
        · rw [step] at first
          exact first.trans (execute_extends view blind stepped r next m'')

/-- A step adds at most one row, at the end. -/
theorem step_rows (pc : Nat) (m : Machine σ) (ins : Instruction) :
    m.outcome.outputRows <+: (p.step agents pc m ins).2.outcome.outputRows := by
  cases ins with
  | prompt name spec =>
    -- a prompt touches the raw text and the time of the outcome, never its rows
    have kept : (prompt agents name spec m).2.outcome.outputRows = m.outcome.outputRows := by
      unfold prompt
      dsimp only
      split
      · rfl
      · split
        · rfl
        · split <;> rfl
    simp only [step]
    split <;> rename_i prompted <;> rw [prompted] at kept <;> rw [kept]
  | output fields =>
    simp only [step]
    split
    · exact List.prefix_append _ _
    · exact List.prefix_refl _
  | set | openIf | openLoop =>
    simp only [step]
    split <;> exact List.prefix_refl _
  | elseBranch | closeIf | label | closeLoop | goto => exact List.prefix_refl _

/-- A prompt with recording collaborators adds its calls to the end of the record. -/
theorem prompt_calls (name : String) (spec : PromptSpec) (m : Machine (σ × List Call)) :
    m.agent.2 <+: (prompt agents.recording name spec m).2.agent.2 := by
  unfold prompt
  simp only [Agents.recording]
  split
  · exact List.prefix_append _ _
  · split
    · exact (List.prefix_append _ _).trans (List.prefix_append _ _)
    · split <;> exact ((List.prefix_append _ _).trans (List.prefix_append _ _)).trans
        (List.prefix_append _ _)

/-- A step with recording collaborators only adds calls to the end of the record. -/
theorem step_calls (pc : Nat) (m : Machine (σ × List Call)) (ins : Instruction) :
    m.agent.2 <+: (p.step agents.recording pc m ins).2.agent.2 := by
  cases ins with
  | prompt name spec =>
    have grown : m.agent.2 <+: (prompt agents.recording name spec m).2.agent.2 :=
      prompt_calls name spec m
    simp only [step]
    split <;> rename_i prompted <;> rw [prompted] at grown <;> exact grown
  | set | openIf | openLoop | output =>
    simp only [step]
    split <;> exact List.prefix_refl _
  | elseBranch | closeIf | label | closeLoop | goto => exact List.prefix_refl _

end Program

/-- Runs of one item under budgets `L` and `L'` with `L ≤ L'`, where the budget is the
program's own or else the caller's: the run with `L` executes at most `L` steps; it reports the
budget exhausted exactly when the run without a budget (`Program.walk`) executes more than `L`
steps, and then it has executed `L` steps and names the step the unbounded run takes next; when it
does not, the run with `L'` gives the same outcome and leaves the collaborators in the same state;
and in every case its rows, and the calls it makes to the collaborators, are the first ones of
the run with `L'`. -/
theorem Program.run_budgets (agents : Agents σ) (p : Program) (maxSteps maxSteps' : Nat)
    (agent : σ) (bindings : Map) (larger : p.maxSteps.getD maxSteps ≤ p.maxSteps.getD maxSteps') :
    let L := p.maxSteps.getD maxSteps
    let run := p.run agents maxSteps agent bindings
    let run' := p.run agents maxSteps' agent bindings
    let walked := p.walk agents L 0 { scope := Scope.ofSeed bindings, agent }
    run.1.stepsExecuted ≤ L ∧
    (run.1.OutOfBudget ↔ ∃ pc m ins, walked = some (pc, m) ∧ p.instructions[pc]? = some ins) ∧
    (∀ pc m ins, walked = some (pc, m) → p.instructions[pc]? = some ins →
      run.1.error = some ((Fault.runtime (.stepLimitExceeded L)).at_ pc) ∧ run.1.stepsExecuted = L) ∧
    (¬ run.1.OutOfBudget → run' = run) ∧
    run.1.outputRows <+: run'.1.outputRows ∧
    (p.run agents.recording maxSteps (agent, []) bindings).2.2 <+:
      (p.run agents.recording maxSteps' (agent, []) bindings).2.2 := by
  intro L run run' walked
  obtain ⟨d, hd⟩ : ∃ d, p.maxSteps.getD maxSteps' = L + d := Nat.exists_eq_add_of_le larger
  -- the runs as `execute` from the first step, with the budgets `L` and `L + d`
  have runs : ∀ {τ : Type} (agents : Agents τ) (a : τ),
      p.run agents maxSteps a bindings =
        ((p.execute agents L L 0 { scope := Scope.ofSeed bindings, agent := a }).outcome,
          (p.execute agents L L 0 { scope := Scope.ofSeed bindings, agent := a }).agent) ∧
      p.run agents maxSteps' a bindings =
        ((p.execute agents (L + d) (L + d) 0 { scope := Scope.ofSeed bindings, agent := a }).outcome,
          (p.execute agents (L + d) (L + d) 0 { scope := Scope.ofSeed bindings, agent := a }).agent) := by
    intro τ agents a
    refine ⟨rfl, ?_⟩
    show ((p.execute agents (p.maxSteps.getD maxSteps') (p.maxSteps.getD maxSteps') 0 _).outcome,
      (p.execute agents (p.maxSteps.getD maxSteps') (p.maxSteps.getD maxSteps') 0 _).agent) = _
    rw [hd]
  have hrun : run = _ := (runs agents agent).1
  have hrun' : run' = _ := (runs agents agent).2
  -- a larger budget goes on from where the smaller one stopped, or ends as it ended
  have extends_ : ∀ {τ : Type} (agents : Agents τ) (a : τ) {α : Type} (view : Machine τ → List α),
      (∀ (m : Machine τ) error aborted steps, view { m with outcome :=
        { m.outcome with error, aborted, stepsExecuted := steps } } = view m) →
      (∀ pc (m : Machine τ) ins, view m <+: view (p.step agents pc m ins).2) →
      view (p.execute agents L L 0 { scope := Scope.ofSeed bindings, agent := a }) <+:
        view (p.execute agents (L + d) (L + d) 0 { scope := Scope.ofSeed bindings, agent := a }) := by
    intro τ agents a α view blind stepped
    cases walked' : p.walk agents L 0 { scope := Scope.ofSeed bindings, agent := a } with
    | none => rw [Program.execute_of_walk_none L d walked']
    | some stop =>
      obtain ⟨pc, m⟩ := stop
      have first := Program.execute_of_walk L walked'
      rw [first, Program.execute_walk d walked']
      cases fetched : p.instructions[pc]? with
      | none => rw [Program.execute_of_past fetched, Program.execute_of_past fetched]
      | some ins =>
        have same : view { m with outcome := { m.outcome with
            error := some ((Fault.runtime (.stepLimitExceeded L)).at_ pc) } } = view m :=
          blind _ _ _ _
        rw [Program.execute_zero fetched, same]
        exact Program.execute_extends view blind stepped d pc m
  refine ⟨?_, ?_, ?_, ?_, ?_, ?_⟩
  · have bound : (p.execute agents L L 0 { scope := Scope.ofSeed bindings, agent }).steps ≤ _ :=
      Program.execute_steps_le L 0 _
    rw [hrun]
    simpa [Machine.steps] using bound
  · rw [hrun]
    constructor
    · intro exhausted
      cases walked' : walked with
      | none =>
        have start : ¬ ({} : ItemOutcome).OutOfBudget := by
          rintro ⟨_, _, reported⟩
          cases reported
        exact absurd exhausted (Program.not_outOfBudget_of_walk_none walked' start)
      | some stop =>
        obtain ⟨pc, m⟩ := stop
        refine ⟨pc, m, ?_⟩
        cases fetched : p.instructions[pc]? with
        | some ins => exact ⟨ins, rfl, rfl⟩
        | none =>
          -- the run left the program within its budget, with no failure
          have first := Program.execute_of_walk L walked'
          rw [first, Program.execute_of_past fetched] at exhausted
          obtain ⟨_, _, reported⟩ := exhausted
          rw [Program.walk_error walked'] at reported
          cases reported
    · rintro ⟨pc, m, ins, walked', fetched⟩
      have first := Program.execute_of_walk L walked'
      exact ⟨L, pc, by rw [first, Program.execute_zero fetched]⟩
  · intro pc m ins walked' fetched
    have first := Program.execute_of_walk L walked'
    have steps := Program.walk_steps walked'
    rw [Program.execute_zero fetched] at first
    rw [hrun, first]
    exact ⟨rfl, by simpa [Machine.steps] using steps⟩
  · intro clean
    rw [hrun, hrun']
    cases walked' : walked with
    | none => rw [Program.execute_of_walk_none L d walked']
    | some stop =>
      obtain ⟨pc, m⟩ := stop
      have first := Program.execute_of_walk L walked'
      cases fetched : p.instructions[pc]? with
      | none =>
        rw [first, Program.execute_walk d walked', Program.execute_of_past fetched,
          Program.execute_of_past fetched]
      | some ins => exact absurd ⟨L, pc, by rw [hrun, first, Program.execute_zero fetched]⟩ clean
  · rw [hrun, hrun']
    exact extends_ agents agent (fun m => m.outcome.outputRows) (fun _ _ _ _ => rfl)
      Program.step_rows
  · rw [(runs agents.recording (agent, [])).1, (runs agents.recording (agent, [])).2]
    exact extends_ agents.recording (agent, []) (fun m => m.agent.2) (fun _ _ _ _ => rfl)
      Program.step_calls

/-- A program whose `goto` jumps back to its label forever, run with the budgets 3 and 5. -/
theorem Program.run_budgets_spin :
    let p : Program := ⟨"spin", [.label, .goto "top"], [none, some 0], [0, 0], none⟩
    p.maxSteps.getD 3 ≤ p.maxSteps.getD 5 ∧
      let L := p.maxSteps.getD 3
      let run := p.run Agents.standard 3 Provider.echo []
      let run' := p.run Agents.standard 5 Provider.echo []
      let walked := p.walk Agents.standard L 0 { scope := Scope.ofSeed [], agent := Provider.echo }
      run.1.stepsExecuted ≤ L ∧
      (run.1.OutOfBudget ↔ ∃ pc m ins, walked = some (pc, m) ∧ p.instructions[pc]? = some ins) ∧
      (∀ pc m ins, walked = some (pc, m) → p.instructions[pc]? = some ins →
        run.1.error = some ((Fault.runtime (.stepLimitExceeded L)).at_ pc) ∧
          run.1.stepsExecuted = L) ∧
      (¬ run.1.OutOfBudget → run' = run) ∧
      run.1.outputRows <+: run'.1.outputRows ∧
      (p.run Agents.standard.recording 3 (Provider.echo, []) []).2.2 <+:
        (p.run Agents.standard.recording 5 (Provider.echo, []) []).2.2 :=
  ⟨by decide, Program.run_budgets Agents.standard _ 3 5 Provider.echo [] (by decide)⟩

end PromptPipeline
