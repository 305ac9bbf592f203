import PromptPipeline.Proofs.JumpTable
import PromptPipeline.Proofs.Grammar
/-!
The loop frames of a run.

A run of a checked program holds, at each step it reaches, one loop frame for each loop around
that step, the innermost loop's on top, each with the variable of its loop and an item left
(`Program.framed_of_visits`). What the check gives a run is said once at the position of an
instruction (`Program.loopsAround_succ_of_compile` and the lemmas after it), and what an
instruction does to the counter and the frames once for all instructions (`Program.step_moves`);
one step keeps the frames as they should be (`Program.framed_step`), and so does a whole run.
So an `end_for_each` moves the frame of its own loop, a `goto` leaves exactly the frames of the
loops around it that are not around its label, and a run that leaves the program holds no frame.
-/
namespace PromptPipeline

open Stmt Brackets

variable {σ : Type}

/-- Where a loop frame stands: its variable, its items and its position, all but the current
value. -/
def Frame.cursor (f : Frame) : String × List Value × Nat := (f.var, f.items, f.index)

namespace Scope

theorem assignFrame_cursors {name : String} {v : Value} :
    ∀ {frames frames' : List Frame}, assignFrame name v frames = some frames' →
      frames'.map Frame.cursor = frames.map Frame.cursor
  | [], _, assigned => by simp [assignFrame] at assigned
  | f :: rest, frames', assigned => by
    simp only [assignFrame] at assigned
    split at assigned
    · cases assigned
      simp [Frame.cursor]
    · obtain ⟨inner, assignedRest, rfl⟩ := Option.map_eq_some_iff.1 assigned
      simp [assignFrame_cursors assignedRest]

/-- An assignment moves no loop. -/
theorem set_cursors (s : Scope) (name : String) (v : Value) :
    (s.set name v).frames.map Frame.cursor = s.frames.map Frame.cursor := by
  unfold set
  split
  · rename_i frames assigned
    exact assignFrame_cursors assigned
  · rfl

end Scope

namespace Machine

/-- The machine as `execute` hands it to a step: one more step executed. -/
def counted (m : Machine σ) : Machine σ :=
  { m with outcome := { m.outcome with stepsExecuted := m.outcome.stepsExecuted + 1 } }

@[simp] theorem counted_scope (m : Machine σ) : m.counted.scope = m.scope := rfl

end Machine

/-- An instruction stands where its step stands among the blocks: it changes the open loops and
jumps as the step does, and a `for_each`, an `end_for_each` or a `goto` is the step's own. -/
theorem Step.instruction?_shape {prompts : List (String × PromptSpec)} {st : Step} {ins : Instruction}
    (built : st.instruction? prompts = some ins) :
    (∀ k loops, loopStep k loops ins = loopStep k loops st) ∧ leads ins = leads st ∧
      (∀ var c, ins = .openLoop var c → ∃ source, st = .openLoop var source) ∧
      (ins = .closeLoop → st = .closeLoop) ∧ (∀ name, ins = .goto name → st = .goto name) := by
  cases st with
  | set _ _ | prompt _ | openIf _ =>
    obtain ⟨_, -, rfl⟩ := Option.map_eq_some_iff.1 built
    exact ⟨fun _ _ => rfl, rfl, by simp, by simp, by simp⟩
  | openLoop var source =>
    obtain ⟨e, -, rfl⟩ := Option.map_eq_some_iff.1 built
    refine ⟨fun _ _ => rfl, rfl, fun v c same => ⟨source, ?_⟩, by simp, by simp⟩
    cases same
    rfl
  | goto name =>
    cases built
    refine ⟨fun _ _ => rfl, rfl, by simp, by simp, fun n same => ?_⟩
    cases same
    rfl
  | output _ | elseBranch | closeIf | closeLoop | label _ =>
    cases built
    exact ⟨fun _ _ => rfl, rfl, by simp, by simp, by simp⟩

/-- The loop frame `f` belongs to the loop whose `for_each` is step `s`: the loop binds the
frame's variable, and an item is left. -/
def Workflow.FrameOf (w : Workflow) (f : Frame) (s : Nat) : Prop :=
  (∃ c, w.steps[s]? = some (.openLoop f.var c)) ∧ f.index < f.items.length

/-- The loop frames of a run at step `pc`, innermost first: one for each loop around `pc`, the
innermost loop's on top. -/
def Workflow.Framed (w : Workflow) (pc : Nat) (frames : List Frame) : Prop :=
  List.Forall₂ w.FrameOf frames (loopsAround w.steps pc).reverse

/-- Whether frames belong to the loops reads only where the frames stand. -/
theorem Workflow.Framed.of_cursors {w : Workflow} {pc : Nat} {frames frames' : List Frame}
    (framed : w.Framed pc frames) (same : frames'.map Frame.cursor = frames.map Frame.cursor) :
    w.Framed pc frames' := by
  have viewed : List.Forall₂ (fun (c : String × List Value × Nat) s =>
      (∃ source, w.steps[s]? = some (.openLoop c.1 source)) ∧ c.2.2 < c.2.1.length)
      (frames.map Frame.cursor) (loopsAround w.steps pc).reverse :=
    List.forall₂_map_left_iff.2 framed
  rw [← same] at viewed
  exact (List.forall₂_map_left_iff (f := Frame.cursor)).1 viewed

/-- What an instruction at `pc` that lets the run go on does to the counter and the loop frames,
innermost first: it takes `frames` to the step `next` and the frames `frames'`. -/
def Instruction.Moves (p : Program) (pc : Nat) (frames : List Frame) (next : Nat)
    (frames' : List Frame) : Instruction → Prop
  | .set .. => next = pc + 1 ∧ frames'.map Frame.cursor = frames.map Frame.cursor
  | .openIf _ => (next = pc + 1 ∨ next = p.jumpFrom pc) ∧ frames' = frames
  | .elseBranch => next = p.jumpFrom pc ∧ frames' = frames
  | .closeIf | .label | .prompt .. | .output _ => next = pc + 1 ∧ frames' = frames
  | .openLoop var _ =>
    (∃ first rest, next = pc + 1 ∧ frames' = ⟨var, first :: rest, 0, first⟩ :: frames) ∨
      (next = p.jumpFrom pc ∧ frames' = frames)
  | .closeLoop =>
    (∃ f rest v, frames = f :: rest ∧ f.items[f.index + 1]? = some v ∧ next = p.jumpFrom pc ∧
      frames' = { f with index := f.index + 1, current := v } :: rest) ∨
      (next = pc + 1 ∧ frames' = frames.tail)
  | .goto _ => next = p.jumpFrom pc ∧ frames' = frames.drop (frames.length - p.depthAt next)

namespace Program

/-- The states at which the loop of `execute` looks for an instruction, in a run from step 0
with budget `n` and machine `m₀`: the budget left, the step and the machine. -/
inductive Visits (agents : Agents σ) (p : Program) (n : Nat) (m₀ : Machine σ) :
    Nat → Nat → Machine σ → Prop
  | start : Visits agents p n m₀ n 0 m₀
  | step {rest pc next : Nat} {m m' : Machine σ} {ins : Instruction}
      (visited : Visits agents p n m₀ (rest + 1) pc m) (fetched : p.instructions[pc]? = some ins)
      (stepped : p.step agents pc m.counted ins = (.ok next, m')) :
      Visits agents p n m₀ rest next m'

/-- A run goes on from each state it visits as it went on from the start. -/
theorem Visits.execute_eq {agents : Agents σ} {p : Program} {n : Nat} {m₀ : Machine σ}
    {remaining pc : Nat} {m : Machine σ} (limit : Nat) (visited : p.Visits agents n m₀ remaining pc m) :
    p.execute agents limit n 0 m₀ = p.execute agents limit remaining pc m := by
  induction visited with
  | start => rfl
  | step visited fetched stepped ih =>
    rw [ih]
    conv_lhs => rw [execute]
    simp only [Machine.counted] at stepped
    simp only [fetched, stepped]

/-- A prompt moves no loop. -/
theorem prompt_frames (agents : Agents σ) (name : String) (spec : PromptSpec) (m : Machine σ) :
    (prompt agents name spec m).2.scope.frames = m.scope.frames := by
  unfold prompt
  dsimp only
  -- each of the three calls may fail; only reading the answer touches the scope
  split
  · rfl
  · split
    · rfl
    · split <;> rfl

/-- What each instruction that lets the run go on does to the counter and the loop frames. -/
theorem step_moves {agents : Agents σ} {p : Program} {pc next : Nat} {m m' : Machine σ}
    {ins : Instruction} (stepped : p.step agents pc m ins = (.ok next, m')) :
    ins.Moves p pc m.scope.frames next m'.scope.frames := by
  cases ins with
  | set name e =>
    simp only [step] at stepped
    split at stepped
    · simp only [Prod.mk.injEq, Except.ok.injEq] at stepped
      obtain ⟨rfl, rfl⟩ := stepped
      exact ⟨rfl, Scope.set_cursors _ _ _⟩
    · simp at stepped
  | openIf c =>
    simp only [step] at stepped
    split at stepped
    · simp only [Prod.mk.injEq, Except.ok.injEq] at stepped
      obtain ⟨rfl, rfl⟩ := stepped
      exact ⟨by split <;> simp, rfl⟩
    · simp at stepped
  | elseBranch | closeIf | label | goto _ =>
    simp only [step, Prod.mk.injEq, Except.ok.injEq] at stepped
    obtain ⟨rfl, rfl⟩ := stepped
    exact ⟨rfl, rfl⟩
  | openLoop var c =>
    simp only [step] at stepped
    split at stepped
    · rename_i items _
      -- no items skip the loop; otherwise its frame comes on top
      cases items with
      | nil =>
        simp only [Scope.push, Prod.mk.injEq, Except.ok.injEq] at stepped
        obtain ⟨rfl, rfl⟩ := stepped
        exact .inr ⟨rfl, rfl⟩
      | cons first rest =>
        simp only [Scope.push, Prod.mk.injEq, Except.ok.injEq] at stepped
        obtain ⟨rfl, rfl⟩ := stepped
        exact .inl ⟨first, rest, rfl, rfl⟩
    · simp at stepped
  | closeLoop =>
    simp only [step] at stepped
    cases frames : m.scope.frames with
    | nil =>
      simp only [Scope.advance, frames, Prod.mk.injEq, Except.ok.injEq] at stepped
      obtain ⟨rfl, rfl⟩ := stepped
      exact .inr ⟨rfl, by simp [frames]⟩
    | cons f rest =>
      cases item : f.items[f.index + 1]? with
      | some v =>
        simp only [Scope.advance, frames, item, Prod.mk.injEq, Except.ok.injEq] at stepped
        obtain ⟨rfl, rfl⟩ := stepped
        exact .inl ⟨f, rest, v, rfl, item, rfl, rfl⟩
      | none =>
        simp only [Scope.advance, frames, item, Prod.mk.injEq, Except.ok.injEq] at stepped
        obtain ⟨rfl, rfl⟩ := stepped
        exact .inr ⟨rfl, rfl⟩
  | prompt name spec =>
    simp only [step] at stepped
    split at stepped
    · rename_i m'' prompted
      simp only [Prod.mk.injEq, Except.ok.injEq] at stepped
      obtain ⟨rfl, rfl⟩ := stepped
      have frames := prompt_frames agents name spec m
      rw [prompted] at frames
      exact ⟨rfl, frames⟩
    · simp at stepped
  | output fields =>
    simp only [step] at stepped
    split at stepped
    · simp only [Prod.mk.injEq, Except.ok.injEq] at stepped
      obtain ⟨rfl, rfl⟩ := stepped
      exact ⟨rfl, rfl⟩
    · simp at stepped

/-! What the check gives a run at the position of an instruction. -/

variable {promptFaults : PromptSpec → List String} {w : Workflow} {p : Program}

/-- The program of a checked workflow holds the instruction of each of its steps. -/
theorem instructions_of_compile (accepted : compile promptFaults w = .ok p) :
    p.instructions = w.steps.map fun st => (st.instruction? w.prompts).getD .label := by
  obtain ⟨-, instructions, -, -⟩ := compile_ok promptFaults accepted
  rw [instructions, Workflow.scan, Scan.visitAll_instructions]

/-- Each step of a checked workflow has an instruction: it has no problem of its own. -/
theorem instruction?_isSome_of_compile (accepted : compile promptFaults w = .ok p) {st : Step}
    (member : st ∈ w.steps) : (st.instruction? w.prompts).isSome := by
  obtain ⟨clean, -, -, -⟩ := compile_ok promptFaults accepted
  have noErrors : w.scan.1.errors = [] := by
    simp only [Workflow.problems, List.append_eq_nil_iff] at clean
    exact clean.1.1.1
  obtain ⟨k, at_⟩ := List.mem_iff_getElem?.1 member
  exact Step.instruction?_isSome (Workflow.faults_eq_nil noErrors at_)

/-- Each instruction of a checked program is the instruction of its step. -/
theorem instruction_of_compile (accepted : compile promptFaults w = .ok p) {k : Nat}
    {ins : Instruction} (fetched : p.instructions[k]? = some ins) :
    ∃ st, w.steps[k]? = some st ∧ st.instruction? w.prompts = some ins := by
  rw [instructions_of_compile accepted, List.getElem?_map] at fetched
  obtain ⟨st, at_, built⟩ := Option.map_eq_some_iff.1 fetched
  refine ⟨st, at_, ?_⟩
  obtain ⟨made, found⟩ :=
    Option.isSome_iff_exists.1 (instruction?_isSome_of_compile accepted (List.mem_of_getElem? at_))
  rw [found] at built ⊢
  simpa using built

theorem length_instructions (accepted : compile promptFaults w = .ok p) :
    p.instructions.length = w.steps.length := by
  rw [instructions_of_compile accepted, List.length_map]

theorem depthAt_of_compile (accepted : compile promptFaults w = .ok p) (k : Nat) :
    p.depthAt k = (loopsAround w.steps k).length := by
  obtain ⟨t, checked⟩ := compile_accepted promptFaults accepted
  rw [checked.depth, loopsAround_eq checked.parsed]

variable {pc : Nat} {ins : Instruction}

/-- The loops around the step after an instruction are those around it, as the instruction
changes them. -/
theorem loopsAround_succ_of_compile (accepted : compile promptFaults w = .ok p)
    (fetched : p.instructions[pc]? = some ins) :
    loopsAround w.steps (pc + 1) = loopStep pc (loopsAround w.steps pc) ins := by
  obtain ⟨t, checked⟩ := compile_accepted promptFaults accepted
  obtain ⟨st, at_, built⟩ := instruction_of_compile accepted fetched
  rw [(Step.instruction?_shape built).1, loopsAround_succ checked.parsed at_]

/-- A jump keeps the loops around. -/
theorem loopsAround_jumpFrom (accepted : compile promptFaults w = .ok p)
    (fetched : p.instructions[pc]? = some ins) (jumps : leads ins = true) :
    loopsAround w.steps (p.jumpFrom pc) = loopsAround w.steps pc := by
  obtain ⟨t, checked⟩ := compile_accepted promptFaults accepted
  obtain ⟨st, at_, built⟩ := instruction_of_compile accepted fetched
  rw [(Step.instruction?_shape built).2.1] at jumps
  have isSome := checked.jumpAll_isSome_eq at_
  rw [jumps] at isSome
  obtain ⟨x, jumped⟩ := Option.isSome_iff_exists.1 isSome
  rw [jumpFrom, checked.target_of_jumpAll jumped, Option.getD_some]
  exact loopsAround_jump checked.parsed jumped

/-- A `goto` jumps to the step with its label, around which are the outer loops of those around
the `goto`. -/
theorem goto_of_compile (accepted : compile promptFaults w = .ok p) {name : String}
    (fetched : p.instructions[pc]? = some (.goto name)) :
    ∃ k, w.steps[k]? = some (.label name) ∧ p.jumpFrom pc = k ∧
      loopsAround w.steps k <+: loopsAround w.steps pc := by
  obtain ⟨t, checked⟩ := compile_accepted promptFaults accepted
  obtain ⟨st, at_, built⟩ := instruction_of_compile accepted fetched
  rw [(Step.instruction?_shape built).2.2.2.2 name rfl] at at_
  obtain ⟨k, labelled, target, nested⟩ := checked.gotos pc name at_
  refine ⟨k, labelled, by rw [jumpFrom, target, Option.getD_some], ?_⟩
  rwa [loopsAround_eq checked.parsed, loopsAround_eq checked.parsed]

/-! One step and a whole run. -/

variable {frames : List Frame}

theorem framed_succ (accepted : compile promptFaults w = .ok p)
    (fetched : p.instructions[pc]? = some ins) (stays : ∀ loops, loopStep pc loops ins = loops)
    (framed : w.Framed pc frames) : w.Framed (pc + 1) frames := by
  rw [Workflow.Framed, loopsAround_succ_of_compile accepted fetched, stays]
  exact framed

theorem framed_jumpFrom (accepted : compile promptFaults w = .ok p)
    (fetched : p.instructions[pc]? = some ins) (jumps : leads ins = true)
    (framed : w.Framed pc frames) : w.Framed (p.jumpFrom pc) frames := by
  rw [Workflow.Framed, loopsAround_jumpFrom accepted fetched jumps]
  exact framed

/-- One step keeps the loop frames those of the loops around the step. -/
theorem framed_step (accepted : compile promptFaults w = .ok p) {next : Nat} {frames' : List Frame}
    (fetched : p.instructions[pc]? = some ins) (framed : w.Framed pc frames)
    (moved : ins.Moves p pc frames next frames') : w.Framed next frames' := by
  cases ins with
  | set name e =>
    obtain ⟨rfl, same⟩ := moved
    exact (framed_succ accepted fetched (fun _ => rfl) framed).of_cursors same
  | openIf c =>
    obtain ⟨rfl | rfl, rfl⟩ := moved
    · exact framed_succ accepted fetched (fun _ => rfl) framed
    · exact framed_jumpFrom accepted fetched rfl framed
  | elseBranch =>
    obtain ⟨rfl, rfl⟩ := moved
    exact framed_jumpFrom accepted fetched rfl framed
  | closeIf | label | prompt _ _ | output _ =>
    obtain ⟨rfl, rfl⟩ := moved
    exact framed_succ accepted fetched (fun _ => rfl) framed
  | openLoop var c =>
    rcases moved with ⟨first, rest, rfl, rfl⟩ | ⟨rfl, rfl⟩
    · -- the new frame, on top, is that of the loop opened here
      obtain ⟨st, at_, built⟩ := instruction_of_compile accepted fetched
      obtain ⟨source, rfl⟩ := (Step.instruction?_shape built).2.2.1 var c rfl
      rw [Workflow.Framed, loopsAround_succ_of_compile accepted fetched]
      show List.Forall₂ _ _ (loopsAround w.steps pc ++ [pc]).reverse
      rw [List.reverse_append, List.reverse_singleton, List.singleton_append]
      exact .cons ⟨⟨source, at_⟩, by simp⟩ framed
    · exact framed_jumpFrom accepted fetched rfl framed
  | closeLoop =>
    rcases moved with ⟨f, rest, v, rfl, item, rfl, rfl⟩ | ⟨rfl, rfl⟩
    · -- back to the body: the innermost frame moves to an item that is there
      have back := framed_jumpFrom accepted fetched rfl framed
      rw [Workflow.Framed] at back ⊢
      obtain ⟨s, loops, ⟨opened, -⟩, outer, around⟩ := List.forall₂_cons_left_iff.1 back
      rw [around]
      exact .cons ⟨opened, (List.getElem?_eq_some_iff.1 item).1⟩ outer
    · -- out of the loop: its frame goes with it
      rw [Workflow.Framed, loopsAround_succ_of_compile accepted fetched]
      show List.Forall₂ _ _ (loopsAround w.steps pc).dropLast.reverse
      rw [← List.tail_reverse]
      simpa only [List.drop_one] using List.forall₂_drop 1 framed
  | goto name =>
    obtain ⟨rfl, rfl⟩ := moved
    obtain ⟨k, -, target, nested⟩ := goto_of_compile accepted fetched
    -- the frames kept are those of the outer loops that are also around the label
    have count : frames.length = (loopsAround w.steps pc).length := by
      rw [List.Forall₂.length_eq framed, List.length_reverse]
    have kept : (loopsAround w.steps pc).length -
        ((loopsAround w.steps pc).length - (loopsAround w.steps k).length) =
          (loopsAround w.steps k).length := by
      have shorter := nested.length_le
      omega
    have dropped := List.forall₂_drop ((loopsAround w.steps pc).length - (loopsAround w.steps k).length)
      framed
    rw [List.drop_reverse, kept, ← List.prefix_iff_eq_take.1 nested] at dropped
    rw [Workflow.Framed, target, depthAt_of_compile accepted k, count]
    exact dropped

/-- Along every run of a checked program that starts with no loop frame, the frames at each step
the run reaches are those of the loops around it. -/
theorem framed_of_visits (accepted : compile promptFaults w = .ok p) {agents : Agents σ} {n : Nat}
    {m₀ : Machine σ} (fresh : m₀.scope.frames = []) {remaining : Nat} {m : Machine σ}
    (visited : p.Visits agents n m₀ remaining pc m) : w.Framed pc m.scope.frames := by
  induction visited with
  | start =>
    rw [fresh, Workflow.Framed, loopsAround_zero]
    exact .nil
  | step visited fetched stepped framed =>
    have moved := step_moves stepped
    rw [Machine.counted_scope] at moved
    exact framed_step accepted fetched framed moved

end Program

/-- The loop frames along every run of a checked program: at each step the run reaches, as many
frames as the program's depth there, one for each loop around the step, the innermost on top,
each with its loop's variable and an item left. So an `end_for_each` moves the frame of its own
loop, a `goto` leaves exactly the frames of the loops around it that are not around its label,
and a run that leaves the program holds no frame. -/
theorem Program.frames_of_compile {promptFaults : PromptSpec → List String} {w : Workflow}
    {p : Program} (accepted : Program.compile promptFaults w = .ok p) (agents : Agents σ) (n : Nat)
    (agent : σ) (bindings : Map) {remaining pc : Nat} {m : Machine σ}
    (visited : p.Visits agents n { scope := Scope.ofSeed bindings, agent } remaining pc m) :
    m.scope.depth = p.depthAt pc ∧ w.Framed pc m.scope.frames ∧
    (p.instructions[pc]? = some .closeLoop → ∃ s c f rest, Span.loop s pc ∈ matching w.steps ∧
        w.steps[s]? = some (.openLoop f.var c) ∧ m.scope.frames = f :: rest) ∧
    (∀ name, p.instructions[pc]? = some (.goto name) → ∃ k, w.steps[k]? = some (.label name) ∧
        p.jumpFrom pc = k ∧ loopsAround w.steps k <+: loopsAround w.steps pc ∧
        (p.step agents pc m.counted (.goto name)).2.scope.frames =
          m.scope.frames.drop ((loopsAround w.steps pc).length - (loopsAround w.steps k).length)) ∧
    (p.instructions[pc]? = none → m.scope.frames = []) := by
  have framed := Program.framed_of_visits accepted rfl visited
  have count : m.scope.frames.length = (loopsAround w.steps pc).length := by
    rw [List.Forall₂.length_eq framed, List.length_reverse]
  refine ⟨by rw [Scope.depth, count, Program.depthAt_of_compile accepted], framed,
    fun fetched => ?_, fun name fetched => ?_, fun ended => ?_⟩
  · -- the innermost loop around an `end_for_each` is its own
    obtain ⟨t, checked⟩ := Program.compile_accepted promptFaults accepted
    obtain ⟨st, at_, built⟩ := Program.instruction_of_compile accepted fetched
    rw [(Step.instruction?_shape built).2.2.2.1 rfl] at at_
    obtain ⟨s, member, around⟩ := loopsAround_closeLoop checked.parsed at_
    rw [Workflow.Framed, around, List.reverse_append, List.reverse_singleton,
      List.singleton_append] at framed
    obtain ⟨f, rest, ⟨⟨c, opened⟩, -⟩, -, top⟩ := List.forall₂_cons_right_iff.1 framed
    exact ⟨s, c, f, rest, member, opened, top⟩
  · obtain ⟨k, labelled, target, nested⟩ := Program.goto_of_compile accepted fetched
    refine ⟨k, labelled, target, nested, ?_⟩
    simp only [Program.step, Machine.counted_scope, Scope.truncate, target,
      Program.depthAt_of_compile accepted, count]
  · -- past the last step no loop is around
    have past : w.steps.length ≤ pc := by
      rw [← Program.length_instructions accepted]
      exact List.getElem?_eq_none_iff.1 ended
    rw [Workflow.Framed, loopsAround_of_length_le past] at framed
    exact List.forall₂_nil_right_iff.1 framed

/-- A loop closed by its `end_for_each`, then a loop left by a `goto`. -/
def loopThenGoto : Workflow :=
  { name := "w", steps := [.openLoop "v" "xs", .closeLoop, .openLoop "u" "xs", .goto "out",
      .closeLoop, .label "out"] }

/-- Over one item, the run of `loopThenGoto` meets the `end_for_each` of the first loop with that
loop's frame on top, and the `goto` out of the second loop drops its frame: the check put the
label at step 5, outside every loop. -/
theorem Program.frames_of_compile_loop_then_goto : ∃ p,
    Program.compile PromptSpec.faults loopThenGoto = .ok p ∧
    (∃ s c, Span.loop s 1 ∈ matching loopThenGoto.steps ∧
      loopThenGoto.steps[s]? = some (.openLoop "v" c)) ∧
    p.depthAt 3 = 1 ∧ p.jumpFrom 3 = 5 ∧
    ∃ m, p.Visits Agents.standard 10 ⟨Scope.ofSeed [("xs", .list [.ofNat 1])], Provider.echo, {}⟩
      7 3 m ∧ (p.step Agents.standard 3 m.counted (.goto "out")).2.scope.frames = [] := by
  obtain ⟨p, accepted⟩ := (Program.exists_compile_eq_ok PromptSpec.faults loopThenGoto).2
    (List.isEmpty_iff.1 (by decide +kernel))
  have lexed : Lexer.tokenize "xs".toList 0 = .ok [(.ident "xs", 0)] := by
    have computed : (Lexer.tokenize "xs".toList 0).toOption = some [(.ident "xs", 0)] := by
      decide +kernel
    revert computed
    cases Lexer.tokenize "xs".toList 0 <;> simp [Except.toOption]
  have parsed : Expr.parse "xs" = .ok (.var "xs") := Expr.parse_eq_ok_of_derives lexed
    ((Grammar.Level.unary (.accessed (.var (by decide)) .stop)).of_tighter (by decide) (by decide))
  have listed := Program.instructions_of_compile accepted
  simp only [loopThenGoto, List.map, Step.instruction?, parsed, Except.toOption, Option.map,
    Option.getD] at listed
  -- into the first loop, out of it at its `end_for_each`, into the second loop
  have entered : p.Visits Agents.standard 10
      ⟨Scope.ofSeed [("xs", .list [.ofNat 1])], Provider.echo, {}⟩ 9 1 _ :=
    .step .start (by rw [listed]; rfl) rfl
  have left : p.Visits Agents.standard 10 _ 8 2 _ := .step entered (by rw [listed]; rfl) rfl
  have reentered : p.Visits Agents.standard 10 _ 7 3 _ := .step left (by rw [listed]; rfl) rfl
  obtain ⟨-, -, closing, -, -⟩ := Program.frames_of_compile accepted Agents.standard 10
    Provider.echo _ entered
  obtain ⟨s, c, f, rest, member, opened, top⟩ := closing (by rw [listed]; rfl)
  obtain ⟨depth, -, -, leaving, -⟩ := Program.frames_of_compile accepted Agents.standard 10
    Provider.echo _ reentered
  obtain ⟨k, labelled, target, -, dropped⟩ := leaving "out" (by rw [listed]; rfl)
  obtain rfl : k = 5 := by
    rcases k with _ | _ | _ | _ | _ | _ | k <;> simp [loopThenGoto] at labelled ⊢
  obtain ⟨rfl, -⟩ := List.cons.inj top
  refine ⟨p, accepted, ⟨s, c, member, opened⟩, by rw [← depth]; rfl, target, _, reentered, ?_⟩
  have around : loopsAround loopThenGoto.steps 3 = [2] := by decide +kernel
  have outside : loopsAround loopThenGoto.steps 5 = [] := by decide +kernel
  rw [dropped, around, outside]
  rfl

end PromptPipeline
