import PromptPipeline.Proofs.Frames
/-!
The structured run of a block tree.

A program runs flat: a counter moves over its instructions, and `if`, `else`, `for_each` and
`end_for_each` jump. `Stmt.exec` runs the block tree instead: an `if` runs exactly one of its two
branches as its condition says, and a `for_each` evaluates its collection once, skips its body for
no items, and otherwise enters a frame and runs the body once per item, advancing the frame after
each pass. Both count every step they visit.

For a checked workflow without `goto` steps, the flat run of its program is the structured run of
its block tree, whenever the flat run does not run out of its step budget
(`Program.run_eq_structured`). The proof follows the tree: `Agrees` says that the flat run from a
block's first step, with any budget, goes on as a finished part of the structured run says, or runs
out of budget, and it composes along the parts of each block.
-/
namespace PromptPipeline

open Brackets

variable {σ : Type}

/-! The block tree of a program. -/

namespace Stmt

theorem unmarked_of_instruction? {prompts : List (String × PromptSpec)} {st : Step} {ins : Instruction}
    (built : st.instruction? prompts = some ins) (unmarked : markOf? st = none) : markOf? ins = none := by
  cases st with
  | openIf | elseBranch | closeIf | openLoop | closeLoop => cases unmarked
  | set name source =>
    obtain ⟨e, -, rfl⟩ := Option.map_eq_some_iff.1 built
    rfl
  | prompt name =>
    obtain ⟨spec, -, rfl⟩ := Option.map_eq_some_iff.1 built
    rfl
  | goto | label | output =>
    cases built
    rfl

mutual
/-- The block tree of a program from the block tree of its workflow: each step's instruction, each
condition and collection parsed; none when a step has no instruction. -/
def compile (prompts : List (String × PromptSpec)) : Stmt String Step → Option (Stmt Expr Instruction)
  | .plain st unmarked =>
    match built : st.instruction? prompts with
    | some ins => some (.plain ins (unmarked_of_instruction? built unmarked))
    | none => none
  | .cond source yes none => do
    let c ← (Expr.parse source).toOption
    let yes ← compileAll prompts yes
    pure (.cond c yes none)
  | .cond source yes (some no) => do
    let c ← (Expr.parse source).toOption
    let yes ← compileAll prompts yes
    let no ← compileAll prompts no
    pure (.cond c yes (some no))
  | .loop var source body => do
    let c ← (Expr.parse source).toOption
    let body ← compileAll prompts body
    pure (.loop var c body)
def compileAll (prompts : List (String × PromptSpec)) :
    List (Stmt String Step) → Option (List (Stmt Expr Instruction))
  | [] => some []
  | b :: bs => do
    let b ← compile prompts b
    let bs ← compileAll prompts bs
    pure (b :: bs)
end

variable {prompts : List (String × PromptSpec)}

mutual
/-- The program of a workflow has the instruction of each step of its tree. -/
theorem items_compile : ∀ {b : Stmt String Step} {b' : Stmt Expr Instruction},
    compile prompts b = some b' →
      items b' = (items b).map fun st => (st.instruction? prompts).getD .label
  | .plain st unmarked, b', compiled => by
    simp only [compile] at compiled
    split at compiled
    · rename_i ins built
      cases compiled
      simp [items, built]
    · cases compiled
  | .cond source yes none, b', compiled => by
    simp only [compile, Option.bind_eq_bind, Option.bind_eq_some_iff, Option.pure_def,
      Option.some.injEq] at compiled
    obtain ⟨c, parsed, yes', compiledYes, rfl⟩ := compiled
    simp [items, itemsAll_compile compiledYes, mark, Step.instruction?, parsed]
  | .cond source yes (some no), b', compiled => by
    simp only [compile, Option.bind_eq_bind, Option.bind_eq_some_iff, Option.pure_def,
      Option.some.injEq] at compiled
    obtain ⟨c, parsed, yes', compiledYes, no', compiledNo, rfl⟩ := compiled
    simp [items, itemsAll_compile compiledYes, itemsAll_compile compiledNo, mark, Step.instruction?,
      parsed]
  | .loop var source body, b', compiled => by
    simp only [compile, Option.bind_eq_bind, Option.bind_eq_some_iff, Option.pure_def,
      Option.some.injEq] at compiled
    obtain ⟨c, parsed, body', compiledBody, rfl⟩ := compiled
    simp [items, itemsAll_compile compiledBody, mark, Step.instruction?, parsed]
theorem itemsAll_compile : ∀ {bs : List (Stmt String Step)} {bs' : List (Stmt Expr Instruction)},
    compileAll prompts bs = some bs' →
      itemsAll bs' = (itemsAll bs).map fun st => (st.instruction? prompts).getD .label
  | [], bs', compiled => by
    simp only [compileAll, Option.some.injEq] at compiled
    subst compiled
    rfl
  | b :: bs, bs', compiled => by
    simp only [compileAll, Option.bind_eq_bind, Option.bind_eq_some_iff, Option.pure_def,
      Option.some.injEq] at compiled
    obtain ⟨b', compiledFirst, rest, compiledRest, rfl⟩ := compiled
    simp [items_compile compiledFirst, itemsAll_compile compiledRest]
end

theorem sizeAll_compile {bs : List (Stmt String Step)} {bs' : List (Stmt Expr Instruction)}
    (compiled : compileAll prompts bs = some bs') : sizeAll bs' = sizeAll bs := by
  rw [← length_itemsAll, itemsAll_compile compiled, List.length_map, length_itemsAll]

mutual
/-- The program's tree jumps where the workflow's tree does. -/
theorem jump_compile : ∀ {b : Stmt String Step} {b' : Stmt Expr Instruction},
    compile prompts b = some b' → ∀ pc k, jump pc b' k = jump pc b k
  | .plain st unmarked, b', compiled, pc, k => by
    simp only [compile] at compiled
    split at compiled
    · cases compiled
      rfl
    · cases compiled
  | .cond source yes none, b', compiled, pc, k => by
    simp only [compile, Option.bind_eq_bind, Option.bind_eq_some_iff, Option.pure_def,
      Option.some.injEq] at compiled
    obtain ⟨c, -, yes', compiledYes, rfl⟩ := compiled
    simp only [jump, sizeAll_compile compiledYes, jumpAll_compile compiledYes]
  | .cond source yes (some no), b', compiled, pc, k => by
    simp only [compile, Option.bind_eq_bind, Option.bind_eq_some_iff, Option.pure_def,
      Option.some.injEq] at compiled
    obtain ⟨c, -, yes', compiledYes, no', compiledNo, rfl⟩ := compiled
    simp only [jump, sizeAll_compile compiledYes, sizeAll_compile compiledNo,
      jumpAll_compile compiledYes, jumpAll_compile compiledNo]
  | .loop var source body, b', compiled, pc, k => by
    simp only [compile, Option.bind_eq_bind, Option.bind_eq_some_iff, Option.pure_def,
      Option.some.injEq] at compiled
    obtain ⟨c, -, body', compiledBody, rfl⟩ := compiled
    simp only [jump, sizeAll_compile compiledBody, jumpAll_compile compiledBody]
theorem jumpAll_compile : ∀ {bs : List (Stmt String Step)} {bs' : List (Stmt Expr Instruction)},
    compileAll prompts bs = some bs' → ∀ pc k, jumpAll pc bs' k = jumpAll pc bs k
  | [], bs', compiled, pc, k => by
    simp only [compileAll, Option.some.injEq] at compiled
    subst compiled
    rfl
  | b :: bs, bs', compiled, pc, k => by
    simp only [compileAll, Option.bind_eq_bind, Option.bind_eq_some_iff, Option.pure_def,
      Option.some.injEq] at compiled
    obtain ⟨b', compiledFirst, rest, compiledRest, rfl⟩ := compiled
    have sized : size b' = size b := by
      rw [← length_items, items_compile compiledFirst, List.length_map, length_items]
    simp only [jumpAll, jump_compile compiledFirst, jumpAll_compile compiledRest, sized]
end

mutual
/-- A tree whose steps all have instructions is the tree of a program. -/
theorem compile_isSome : ∀ (b : Stmt String Step),
    (∀ st ∈ items b, (st.instruction? prompts).isSome) → (compile prompts b).isSome
  | .plain st unmarked, built => by
    obtain ⟨ins, found⟩ := Option.isSome_iff_exists.1 (built st (by simp [items]))
    simp only [compile]
    split
    · rfl
    · simp_all
  | .cond source yes none, built => by
    have parsed := built (mark (.openIf source)) (by simp [items])
    have inner := itemsAll_compile_isSome yes fun st member => built st (by simp [items, member])
    simp only [mark, Step.instruction?, Option.isSome_map] at parsed
    obtain ⟨c, found⟩ := Option.isSome_iff_exists.1 parsed
    obtain ⟨yes', compiledYes⟩ := Option.isSome_iff_exists.1 inner
    simp [compile, found, compiledYes]
  | .cond source yes (some no), built => by
    have parsed := built (mark (.openIf source)) (by simp [items])
    have first := itemsAll_compile_isSome yes fun st member => built st (by simp [items, member])
    have second := itemsAll_compile_isSome no fun st member => built st (by simp [items, member])
    simp only [mark, Step.instruction?, Option.isSome_map] at parsed
    obtain ⟨c, found⟩ := Option.isSome_iff_exists.1 parsed
    obtain ⟨yes', compiledYes⟩ := Option.isSome_iff_exists.1 first
    obtain ⟨no', compiledNo⟩ := Option.isSome_iff_exists.1 second
    simp [compile, found, compiledYes, compiledNo]
  | .loop var source body, built => by
    have parsed := built (mark (.openLoop var source)) (by simp [items])
    have inner := itemsAll_compile_isSome body fun st member => built st (by simp [items, member])
    simp only [mark, Step.instruction?, Option.isSome_map] at parsed
    obtain ⟨c, found⟩ := Option.isSome_iff_exists.1 parsed
    obtain ⟨body', compiledBody⟩ := Option.isSome_iff_exists.1 inner
    simp [compile, found, compiledBody]
theorem itemsAll_compile_isSome : ∀ (bs : List (Stmt String Step)),
    (∀ st ∈ itemsAll bs, (st.instruction? prompts).isSome) → (compileAll prompts bs).isSome
  | [], _ => rfl
  | b :: bs, built => by
    have first := compile_isSome b fun st member => built st (by simp [member])
    have rest := itemsAll_compile_isSome bs fun st member => built st (by simp [member])
    obtain ⟨b', compiledFirst⟩ := Option.isSome_iff_exists.1 first
    obtain ⟨bs', compiledRest⟩ := Option.isSome_iff_exists.1 rest
    simp [compileAll, compiledFirst, compiledRest]
end

end Stmt

/-! The structured run. -/

namespace Machine

/-- The machine of a step that fails with cause `f` at step `pc`. -/
def failed (m : Machine σ) (f : Fault) (pc : Nat) : Machine σ :=
  { m with outcome := { m.outcome with error := some (f.at_ pc), aborted := f.isAbort } }

end Machine

namespace Stmt

variable (agents : Agents σ)

/-- What a simple step does in the structured run: an assignment, a prompt or an output; anything
else does nothing. -/
def perform (m : Machine σ) : Instruction → Except Fault Unit × Machine σ
  | .set name e =>
    match Program.evalIn m e with
    | .ok v => (.ok (), { m with scope := m.scope.set name v })
    | .error f => (.error f, m)
  | .prompt name spec => Program.prompt agents name spec m
  | .output fields =>
    match Program.row m fields with
    | .ok r => (.ok (), { m with outcome := { m.outcome with outputRows := m.outcome.outputRows ++ [r] } })
    | .error f => (.error f, m)
  | _ => (.ok (), m)

/-- Goes on with `k` from the machine that a part of a run ended with, unless the part stopped. -/
def andThen (ran : Except (Fault × Nat) Unit × Machine σ)
    (k : Machine σ → Except (Fault × Nat) Unit × Machine σ) : Except (Fault × Nat) Unit × Machine σ :=
  match ran with
  | (.ok (), m) => k m
  | stopped => stopped

@[simp] theorem ok_andThen (m : Machine σ) (k : Machine σ → Except (Fault × Nat) Unit × Machine σ) :
    andThen (.ok (), m) k = k m := rfl

@[simp] theorem error_andThen (e : Fault × Nat) (m : Machine σ)
    (k : Machine σ → Except (Fault × Nat) Unit × Machine σ) : andThen (.error e, m) k = (.error e, m) :=
  rfl

theorem andThen_eq_ok {ran : Except (Fault × Nat) Unit × Machine σ}
    {k : Machine σ → Except (Fault × Nat) Unit × Machine σ} {m' : Machine σ} :
    andThen ran k = (.ok (), m') ↔ ∃ m, ran = (.ok (), m) ∧ k m = (.ok (), m') := by
  rcases ran with ⟨e | ⟨⟨⟩⟩, m⟩ <;> simp

/-- One pass of a loop: the body, then its `end_for_each`, which moves the loop's frame on, or
leaves it after the last item. A run that stopped stays stopped. -/
def pass (body : Machine σ → Except (Fault × Nat) Unit × Machine σ)
    (ran : Except (Fault × Nat) Unit × Machine σ) : Except (Fault × Nat) Unit × Machine σ :=
  andThen ran fun m => andThen (body m) fun m => (.ok (), { m.counted with scope := m.counted.scope.advance.2 })

mutual
/-- Runs a block written from step `pc`, counting each step it visits, and stops at the first step
that fails with its cause and position. An `if` visits its `else`, if any, after the first branch,
and its `end_if` after either. -/
def exec (pc : Nat) : Stmt Expr Instruction → Machine σ → Except (Fault × Nat) Unit × Machine σ
  | .plain ins _, m =>
    match perform agents m.counted ins with
    | (.ok (), m) => (.ok (), m)
    | (.error f, m) => (.error (f, pc), m)
  | .cond c yes none, m =>
    let m := m.counted
    match Program.evalIn m c with
    | .error f => (.error (f, pc), m)
    | .ok v =>
      if v.truthy then andThen (execAll (pc + 1) yes m) fun m => (.ok (), m.counted)
      else (.ok (), m.counted)
  | .cond c yes (some no), m =>
    let m := m.counted
    match Program.evalIn m c with
    | .error f => (.error (f, pc), m)
    | .ok v =>
      if v.truthy then andThen (execAll (pc + 1) yes m) fun m => (.ok (), m.counted.counted)
      else andThen (execAll (pc + 2 + sizeAll yes) no m) fun m => (.ok (), m.counted)
  | .loop var c body, m =>
    let m := m.counted
    match Program.evalIn m c >>= fun v => (loopItems v).mapError .runtime with
    | .error f => (.error (f, pc), m)
    | .ok items =>
      items.foldl (fun ran _ => pass (execAll (pc + 1) body) ran)
        (.ok (), { m with scope := (m.scope.push var items).2 })
def execAll (pc : Nat) : List (Stmt Expr Instruction) → Machine σ →
    Except (Fault × Nat) Unit × Machine σ
  | [], m => (.ok (), m)
  | b :: bs, m => andThen (exec pc b m) (execAll (pc + size b) bs)
end

/-- The machine a run ends with: as it is, or failed at the step that stopped it. -/
def finish : Except (Fault × Nat) Unit × Machine σ → Machine σ
  | (.ok (), m) => m
  | (.error (f, i), m) => m.failed f i

/-- The structured run of a program's block tree for one item with these bindings: its outcome
and the provider's state afterwards. -/
def runItem (t : List (Stmt Expr Instruction)) (agent : σ) (bindings : Map) : ItemOutcome × σ :=
  let m := finish (execAll agents 0 t { scope := Scope.ofSeed bindings, agent })
  (m.outcome, m.agent)

end Stmt

/-! Flat runs that follow structured runs. -/

namespace Machine

/-- The number of steps a machine has executed. -/
def steps (m : Machine σ) : Nat := m.outcome.stepsExecuted

@[simp] theorem counted_steps (m : Machine σ) : m.counted.steps = m.steps + 1 := rfl

end Machine

namespace Scope

/-- The end of a loop moves the innermost frame to the next item while one is left, and leaves the
loop after the last. -/
theorem advance_cursors {s : Scope} {var : String} {items : List Value} {j : Nat}
    {rest : List (String × List Value × Nat)}
    (top : s.frames.map Frame.cursor = (var, items, j) :: rest) :
    s.advance.1 = decide (j + 1 < items.length) ∧
      s.advance.2.frames.map Frame.cursor =
        if j + 1 < items.length then (var, items, j + 1) :: rest else rest := by
  obtain ⟨f, inner, framed, cursor, below⟩ := List.map_eq_cons_iff.1 top
  simp only [Frame.cursor, Prod.mk.injEq] at cursor
  obtain ⟨rfl, rfl, rfl⟩ := cursor
  unfold advance
  rw [framed]
  cases next : f.items[f.index + 1]? with
  | none =>
    have past : ¬ f.index + 1 < f.items.length := by simpa using next
    simp [past, below]
  | some v =>
    have within : f.index + 1 < f.items.length := by
      by_contra past
      simp [List.getElem?_eq_none (Nat.le_of_not_lt past)] at next
    simp [within, below, Frame.cursor]

end Scope

namespace Program

variable (agents : Agents σ) (p : Program)

theorem prompt_steps (name : String) (spec : PromptSpec) (m : Machine σ) :
    (prompt agents name spec m).2.steps = m.steps := by
  unfold prompt
  dsimp only
  split
  · rfl
  · split
    · rfl
    · split <;> rfl

/-- A step leaves the count of steps as it finds it: `execute` counts. -/
theorem step_steps (pc : Nat) (m : Machine σ) (ins : Instruction) :
    (p.step agents pc m ins).2.steps = m.steps := by
  cases ins with
  | prompt name spec =>
    have kept := prompt_steps agents name spec m
    rcases prompted : prompt agents name spec m with ⟨f | ⟨⟨⟩⟩, m'⟩ <;>
      simpa [step, prompted] using kept
  | set | openIf | openLoop | output =>
    simp only [step]
    split <;> rfl
  | elseBranch | closeIf | closeLoop | goto | label => rfl

variable (limit : Nat)

/-- A run that ran out of its budget `limit`, at some step. -/
def Limited (m : Machine σ) : Prop :=
  ∃ q, m.outcome.error = some ((Fault.runtime (.stepLimitExceeded limit)).at_ q)

/-- How a flat run goes on after a finished part of a structured run: from step `next` with `r`
steps of budget left, or stopped where the part stopped. -/
def resume (r next : Nat) : Except (Fault × Nat) Unit × Machine σ → Machine σ
  | (.ok (), m) => p.execute agents limit r next m
  | (.error (f, i), m) => m.failed f i

/-- The flat run from step `pc` with machine `m` follows `ran`, a part of the structured run from
`m` whose steps lie before `next`: given budget for the steps the part visits, it goes on as
`resume` says, and given less it runs out of budget. -/
structure Agrees (pc next : Nat) (m : Machine σ) (ran : Except (Fault × Nat) Unit × Machine σ) :
    Prop where
  counts : m.steps ≤ ran.2.steps
  resumes : ∀ r, p.execute agents limit (ran.2.steps - m.steps + r) pc m = p.resume agents limit r next ran
  short : ∀ r < ran.2.steps - m.steps, Limited limit (p.execute agents limit r pc m)

variable {agents p limit} {pc : Nat} {ins : Instruction}

theorem execute_succ (fetched : p.instructions[pc]? = some ins) (r : Nat) (m : Machine σ) :
    p.execute agents limit (r + 1) pc m =
      match p.step agents pc m.counted ins with
      | (.ok next, m') => p.execute agents limit r next m'
      | (.error f, m') => m'.failed f pc := by
  conv_lhs => rw [execute]
  simp only [fetched]
  rfl

theorem limited_execute_zero (fetched : p.instructions[pc]? = some ins) (m : Machine σ) :
    Limited limit (p.execute agents limit 0 pc m) :=
  ⟨pc, by simp [execute, fetched]⟩

theorem step_closeLoop (m : Machine σ) :
    p.step agents pc m .closeLoop =
      (.ok (if m.scope.advance.1 then p.jumpFrom pc else pc + 1), { m with scope := m.scope.advance.2 }) :=
  rfl

/-- A part made of the one step at `pc`: the run with budget for that step goes on as the part
says, and with none it runs out of budget. -/
theorem agrees_single {next : Nat} {m : Machine σ} {ran : Except (Fault × Nat) Unit × Machine σ}
    (fetched : p.instructions[pc]? = some ins) (counted : ran.2.steps = m.steps + 1)
    (resumed : ∀ r, p.execute agents limit (r + 1) pc m = p.resume agents limit r next ran) :
    p.Agrees agents limit pc next m ran := by
  refine ⟨by omega, fun r => ?_, fun r short => ?_⟩
  · rw [counted, Nat.add_sub_cancel_left, Nat.add_comm]
    exact resumed r
  · obtain rfl : r = 0 := by omega
    exact limited_execute_zero fetched m

/-- One step that goes on. -/
theorem agrees_step {next : Nat} {m m' : Machine σ} (fetched : p.instructions[pc]? = some ins)
    (stepped : p.step agents pc m.counted ins = (.ok next, m')) :
    p.Agrees agents limit pc next m (.ok (), m') :=
  agrees_single fetched (by simpa [stepped] using step_steps agents p pc m.counted ins) fun r => by
    rw [execute_succ fetched, stepped]
    rfl

/-- One step that stops the run. -/
theorem agrees_fail {f : Fault} {m m' : Machine σ} (fetched : p.instructions[pc]? = some ins)
    (stepped : p.step agents pc m.counted ins = (.error f, m')) (next : Nat) :
    p.Agrees agents limit pc next m (.error (f, pc), m') :=
  agrees_single fetched (by simpa [stepped] using step_steps agents p pc m.counted ins) fun r => by
    rw [execute_succ fetched, stepped]
    rfl

/-- A part that goes on, then the part after it. -/
theorem Agrees.trans {mid next : Nat} {m m₁ : Machine σ} {ran : Except (Fault × Nat) Unit × Machine σ}
    (first : p.Agrees agents limit pc mid m (.ok (), m₁)) (second : p.Agrees agents limit mid next m₁ ran) :
    p.Agrees agents limit pc next m ran := by
  have before := first.counts
  have after := second.counts
  dsimp only at before
  refine ⟨by omega, fun r => ?_, fun r short => ?_⟩
  · have split : ran.2.steps - m.steps + r = m₁.steps - m.steps + (ran.2.steps - m₁.steps + r) := by
      omega
    rw [split, first.resumes]
    exact second.resumes r
  · by_cases early : r < m₁.steps - m.steps
    · exact first.short r early
    · obtain ⟨r', rfl⟩ : ∃ r', r = m₁.steps - m.steps + r' := ⟨r - (m₁.steps - m.steps), by omega⟩
      rw [first.resumes]
      exact second.short r' (by omega)

/-- A part that stopped the run ends it, wherever the block would have gone on. -/
theorem Agrees.stopped {next next' : Nat} {m m₁ : Machine σ} {e : Fault × Nat}
    (stopped : p.Agrees agents limit pc next m (.error e, m₁)) :
    p.Agrees agents limit pc next' m (.error e, m₁) := by
  obtain ⟨f, i⟩ := e
  exact ⟨stopped.counts, stopped.resumes, stopped.short⟩

/-- A part that visits no step. -/
theorem Agrees.refl (m : Machine σ) : p.Agrees agents limit pc pc m (.ok (), m) :=
  ⟨Nat.le_refl _, fun r => by simp [resume], fun r short => by simp at short⟩

/-- A part, then what follows it unless it stopped. -/
theorem Agrees.andThen {mid next : Nat} {m : Machine σ} {ran : Except (Fault × Nat) Unit × Machine σ}
    {k : Machine σ → Except (Fault × Nat) Unit × Machine σ} (first : p.Agrees agents limit pc mid m ran)
    (rest : ∀ m₁, ran = (.ok (), m₁) → p.Agrees agents limit mid next m₁ (k m₁)) :
    p.Agrees agents limit pc next m (Stmt.andThen ran k) := by
  rcases ran with ⟨e | ⟨⟨⟩⟩, m₁⟩
  · exact first.stopped
  · exact first.trans (rest m₁ rfl)

/-- The instructions `l` stand in a program from step `pc` with the jumps that `J` gives their
steps, and none of them is a `goto`. -/
structure Placed (p : Program) (pc : Nat) (l : List Instruction) (J : Nat → Option Nat) : Prop where
  fetch : ∀ k < l.length, p.instructions[pc + k]? = l[k]?
  jumps : ∀ k < l.length, p.jumps.getD (pc + k) none = J (pc + k)
  noGoto : ∀ name, Instruction.goto name ∉ l

variable {l pre mid post : List Instruction} {J : Nat → Option Nat}

/-- A part of placed instructions is placed, with any jumps that agree on it. -/
theorem Placed.window {pc' : Nat} {J' : Nat → Option Nat} (placed : p.Placed pc l J)
    (split : l = pre ++ mid ++ post) (offset : pc' = pc + pre.length)
    (agree : ∀ k < mid.length, J (pc' + k) = J' (pc' + k)) : p.Placed pc' mid J' where
  fetch k inside := by
    have fetched := placed.fetch (pre.length + k) (by simp [split]; omega)
    rw [offset, Nat.add_assoc, fetched, split, List.append_assoc,
      List.getElem?_append_right (by omega), Nat.add_sub_cancel_left,
      List.getElem?_append_left inside]
  jumps k inside := by
    rw [← agree k inside, offset, Nat.add_assoc]
    exact placed.jumps (pre.length + k) (by simp [split]; omega)
  noGoto name member := placed.noGoto name (by simp [split, member])

/-- The instruction at a step of placed instructions, and where it jumps. -/
theorem Placed.at_ {a : Instruction} (placed : p.Placed pc l J) (k : Nat) (split : l = pre ++ a :: post)
    (offset : k = pc + pre.length) :
    p.instructions[k]? = some a ∧ p.jumpFrom k = (J k).getD (k + 1) := by
  have inside : pre.length < l.length := by simp [split]
  constructor
  · rw [offset, placed.fetch pre.length inside, split, List.getElem?_append_right (by omega)]
    simp
  · rw [jumpFrom, offset, placed.jumps pre.length inside]

end Program

namespace Stmt

variable {agents : Agents σ}

/-- A simple instruction steps as the structured run performs it, and goes to the next step. -/
theorem step_of_perform (agents : Agents σ) (p : Program) (pc : Nat) (m : Machine σ) {ins : Instruction}
    (unmarked : markOf? ins = none) (notGoto : ∀ name, ins ≠ .goto name) :
    p.step agents pc m ins =
      match perform agents m ins with
      | (.ok (), m') => (.ok (pc + 1), m')
      | (.error f, m') => (.error f, m') := by
  cases ins with
  | openIf | elseBranch | closeIf | openLoop | closeLoop => cases unmarked
  | goto name => exact absurd rfl (notGoto name)
  | set name e =>
    simp only [Program.step, perform]
    cases Program.evalIn m e <;> rfl
  | output fields =>
    simp only [Program.step, perform]
    cases Program.row m fields <;> rfl
  | prompt name spec =>
    rcases prompted : Program.prompt agents name spec m with ⟨f | ⟨⟨⟩⟩, m'⟩ <;>
      simp only [Program.step, perform, prompted]
  | label => rfl

/-- A simple step moves no loop. -/
theorem perform_cursors (agents : Agents σ) (m : Machine σ) (ins : Instruction) :
    (perform agents m ins).2.scope.frames.map Frame.cursor = m.scope.frames.map Frame.cursor := by
  cases ins with
  | set name e =>
    simp only [perform]
    split
    · exact Scope.set_cursors m.scope name _
    · rfl
  | prompt name spec => simp only [perform, Program.prompt_frames]
  | output fields =>
    simp only [perform]
    split <;> rfl
  | openIf | elseBranch | closeIf | openLoop | closeLoop | goto | label => rfl

@[simp] theorem foldl_pass_stopped (body : Machine σ → Except (Fault × Nat) Unit × Machine σ)
    (e : Fault × Nat) (m : Machine σ) (items : List Value) :
    items.foldl (fun ran _ => pass body ran) (.error e, m) = (.error e, m) := by
  induction items with
  | nil => rfl
  | cons _ items ih => exact ih

variable {body : Machine σ → Except (Fault × Nat) Unit × Machine σ} {var : String}
  {values : List Value} {rest : List (String × List Value × Nat)}

/-- The passes of a loop from its frame at item `j` to the last item leave the loop, with the
frames below as they were, when a pass of the body that finishes moves no loop. -/
theorem passes_cursors
    (keeps : ∀ m m', body m = (.ok (), m') →
      m'.scope.frames.map Frame.cursor = m.scope.frames.map Frame.cursor) (more : List Value) :
    ∀ (x : Value) (j : Nat) (m m' : Machine σ),
      m.scope.frames.map Frame.cursor = (var, values, j) :: rest → j + more.length + 1 = values.length →
      (x :: more).foldl (fun ran _ => pass body ran) (.ok (), m) = (.ok (), m') →
      m'.scope.frames.map Frame.cursor = rest := by
  induction more with
  | nil =>
    intro x j m m' top counted ran
    obtain ⟨m₁, passed, advanced⟩ := andThen_eq_ok.1 ran
    have moved := (Scope.advance_cursors ((keeps m m₁ passed).trans top)).2
    simp only [Prod.mk.injEq, true_and] at advanced
    subst advanced
    simpa [show ¬ j + 1 < values.length by simp at counted; omega] using moved
  | cons y more ih =>
    intro x j m m' top counted ran
    rcases passed : body m with ⟨e | ⟨⟨⟩⟩, m₁⟩
    · rw [List.foldl_cons, show pass body (.ok (), m) = (.error e, m₁) by simp [pass, passed],
        foldl_pass_stopped] at ran
      cases ran
    · have moved := (Scope.advance_cursors ((keeps m m₁ passed).trans top)).2
      simp only [List.foldl_cons, pass, ok_andThen, passed] at ran
      refine ih y (j + 1) _ m' ?_ (by simp at counted; omega) ran
      simpa [show j + 1 < values.length by simp at counted; omega] using moved

mutual
/-- A block that finishes moves no loop: it leaves each loop it enters. -/
theorem exec_cursors : ∀ (pc : Nat) (b : Stmt Expr Instruction) (m m' : Machine σ),
    exec agents pc b m = (.ok (), m') →
      m'.scope.frames.map Frame.cursor = m.scope.frames.map Frame.cursor
  | pc, .plain ins _, m, m', ran => by
    simp only [exec] at ran
    rcases performed : perform agents m.counted ins with ⟨f | ⟨⟨⟩⟩, m₁⟩ <;>
      simp only [performed, Prod.mk.injEq, reduceCtorEq, false_and, true_and] at ran
    subst ran
    simpa [performed] using perform_cursors agents m.counted ins
  | pc, .cond c yes none, m, m', ran => by
    simp only [exec] at ran
    rcases evaluated : Program.evalIn m.counted c with f | v <;> simp only [evaluated] at ran
    · cases ran
    · split at ran
      · obtain ⟨m₁, ranYes, closed⟩ := andThen_eq_ok.1 ran
        cases closed
        simpa using execAll_cursors (pc + 1) yes m.counted m₁ ranYes
      · cases ran
        rfl
  | pc, .cond c yes (some no), m, m', ran => by
    simp only [exec] at ran
    rcases evaluated : Program.evalIn m.counted c with f | v <;> simp only [evaluated] at ran
    · cases ran
    · split at ran
      · obtain ⟨m₁, ranYes, closed⟩ := andThen_eq_ok.1 ran
        cases closed
        simpa using execAll_cursors (pc + 1) yes m.counted m₁ ranYes
      · obtain ⟨m₁, ranNo, closed⟩ := andThen_eq_ok.1 ran
        cases closed
        simpa using execAll_cursors (pc + 2 + sizeAll yes) no m.counted m₁ ranNo
  | pc, .loop var c body, m, m', ran => by
    simp only [exec] at ran
    rcases listed : (Program.evalIn m.counted c >>= fun v => (loopItems v).mapError .runtime)
      with f | items <;> simp only [listed] at ran
    · cases ran
    · cases items with
      | nil =>
        cases ran
        rfl
      | cons x more =>
        -- the loop's frame goes on top of the frames it finds, and the last pass removes it
        have top : ({ m.counted with scope := (m.counted.scope.push var (x :: more)).2 } : Machine σ).scope.frames.map
            Frame.cursor = (var, x :: more, 0) :: m.scope.frames.map Frame.cursor := by
          simp [Scope.push, Frame.cursor]
        exact passes_cursors (fun m m' => execAll_cursors (pc + 1) body m m') more x 0 _ m' top
          (by simp) ran
theorem execAll_cursors : ∀ (pc : Nat) (bs : List (Stmt Expr Instruction)) (m m' : Machine σ),
    execAll agents pc bs m = (.ok (), m') →
      m'.scope.frames.map Frame.cursor = m.scope.frames.map Frame.cursor
  | pc, [], m, m', ran => by
    cases ran
    rfl
  | pc, b :: bs, m, m', ran => by
    obtain ⟨m₁, first, rest⟩ := andThen_eq_ok.1 ran
    rw [execAll_cursors (pc + size b) bs m₁ m' rest, exec_cursors pc b m m₁ first]
end

/-! Where the blocks of a program stand. -/

variable {p : Program} {pc : Nat}

/-- The first of placed blocks is placed, and so are the blocks after it. -/
theorem placed_cons {b : Stmt Expr Instruction} {bs : List (Stmt Expr Instruction)}
    (placed : p.Placed pc (itemsAll (b :: bs)) (jumpAll pc (b :: bs))) :
    p.Placed pc (items b) (jump pc b) ∧ p.Placed (pc + size b) (itemsAll bs) (jumpAll (pc + size b) bs) := by
  constructor
  · refine placed.window (show itemsAll (b :: bs) = [] ++ items b ++ itemsAll bs by simp) (by simp)
      fun k inside => ?_
    rw [length_items] at inside
    simp [jumpAll, jumpAll_outside bs (pc + size b) (pc + k) (by omega)]
  · refine placed.window (show itemsAll (b :: bs) = items b ++ itemsAll bs ++ [] by simp)
      (by simp [length_items]) fun k _ => ?_
    simp [jumpAll, jump_outside b pc (pc + size b + k) (by omega)]

/-- An `if` without `else`: its branch follows it, and it jumps to its `end_if`. -/
theorem placed_cond_none {c : Expr} {yes : List (Stmt Expr Instruction)}
    (placed : p.Placed pc (items (.cond c yes none)) (jump pc (.cond c yes none))) :
    p.instructions[pc]? = some (.openIf c) ∧ p.jumpFrom pc = pc + 1 + sizeAll yes ∧
      p.Placed (pc + 1) (itemsAll yes) (jumpAll (pc + 1) yes) ∧
      p.instructions[pc + 1 + sizeAll yes]? = some .closeIf := by
  have opened := placed.at_ pc
    (show items (Stmt.cond c yes none) = [] ++ .openIf c :: (itemsAll yes ++ [.closeIf]) by
      simp [items, mark]) (by simp)
  have closed := placed.at_ (pc + 1 + sizeAll yes)
    (show items (Stmt.cond c yes none) = (.openIf c :: itemsAll yes) ++ .closeIf :: [] by
      simp [items, mark]) (by simp [length_itemsAll]; omega)
  refine ⟨opened.1, by simp [opened.2, jump], placed.window
    (show items (Stmt.cond c yes none) = [.openIf c] ++ itemsAll yes ++ [.closeIf] by
      simp [items, mark]) (by simp) fun k _ => ?_, closed.1⟩
  simp [jump, show pc + 1 + k ≠ pc by omega]

/-- An `if` with `else`: the first branch follows the `if`, which jumps to the second; the `else`
jumps to the `end_if`. -/
theorem placed_cond_some {c : Expr} {yes no : List (Stmt Expr Instruction)}
    (placed : p.Placed pc (items (.cond c yes (some no))) (jump pc (.cond c yes (some no)))) :
    p.instructions[pc]? = some (.openIf c) ∧ p.jumpFrom pc = pc + 2 + sizeAll yes ∧
      p.Placed (pc + 1) (itemsAll yes) (jumpAll (pc + 1) yes) ∧
      p.instructions[pc + 1 + sizeAll yes]? = some .elseBranch ∧
      p.jumpFrom (pc + 1 + sizeAll yes) = pc + 2 + sizeAll yes + sizeAll no ∧
      p.Placed (pc + 2 + sizeAll yes) (itemsAll no) (jumpAll (pc + 2 + sizeAll yes) no) ∧
      p.instructions[pc + 2 + sizeAll yes + sizeAll no]? = some .closeIf := by
  have opened := placed.at_ pc
    (show items (Stmt.cond c yes (some no)) =
      [] ++ .openIf c :: (itemsAll yes ++ .elseBranch :: itemsAll no ++ [.closeIf]) by
      simp [items, mark]) (by simp)
  have atElse := placed.at_ (pc + 1 + sizeAll yes)
    (show items (Stmt.cond c yes (some no)) =
      (.openIf c :: itemsAll yes) ++ .elseBranch :: (itemsAll no ++ [.closeIf]) by
      simp [items, mark]) (by simp [length_itemsAll]; omega)
  have closed := placed.at_ (pc + 2 + sizeAll yes + sizeAll no)
    (show items (Stmt.cond c yes (some no)) =
      (.openIf c :: itemsAll yes ++ .elseBranch :: itemsAll no) ++ .closeIf :: [] by
      simp [items, mark]) (by simp [length_itemsAll]; omega)
  refine ⟨opened.1, by simp [opened.2, jump], placed.window
    (show items (Stmt.cond c yes (some no)) =
      [.openIf c] ++ itemsAll yes ++ (.elseBranch :: itemsAll no ++ [.closeIf]) by
      simp [items, mark]) (by simp) fun k inside => ?_, atElse.1,
    by simp [atElse.2, jump, show pc + 1 + sizeAll yes ≠ pc by omega], placed.window
    (show items (Stmt.cond c yes (some no)) =
      (.openIf c :: itemsAll yes ++ [.elseBranch]) ++ itemsAll no ++ [.closeIf] by
      simp [items, mark]) (by simp [length_itemsAll]; omega) fun k _ => ?_, closed.1⟩
  · rw [length_itemsAll] at inside
    simp [jump, show pc + 1 + k ≠ pc by omega, show k ≠ sizeAll yes by omega,
      jumpAll_outside no (pc + 2 + sizeAll yes) (pc + 1 + k) (by omega)]
  · simp [jump, show pc + 2 + sizeAll yes + k ≠ pc by omega,
      show pc + 2 + sizeAll yes + k ≠ pc + 1 + sizeAll yes by omega,
      jumpAll_outside yes (pc + 1) (pc + 2 + sizeAll yes + k) (by omega)]

/-- A loop: its body follows the `for_each`, which jumps past the `end_for_each`; the
`end_for_each` jumps back to the body. -/
theorem placed_loop {var : String} {c : Expr} {body : List (Stmt Expr Instruction)}
    (placed : p.Placed pc (items (.loop var c body)) (jump pc (.loop var c body))) :
    p.instructions[pc]? = some (.openLoop var c) ∧ p.jumpFrom pc = pc + 1 + sizeAll body + 1 ∧
      p.Placed (pc + 1) (itemsAll body) (jumpAll (pc + 1) body) ∧
      p.instructions[pc + 1 + sizeAll body]? = some .closeLoop ∧
      p.jumpFrom (pc + 1 + sizeAll body) = pc + 1 := by
  have opened := placed.at_ pc
    (show items (Stmt.loop var c body) = [] ++ .openLoop var c :: (itemsAll body ++ [.closeLoop]) by
      simp [items, mark]) (by simp)
  have closed := placed.at_ (pc + 1 + sizeAll body)
    (show items (Stmt.loop var c body) = (.openLoop var c :: itemsAll body) ++ .closeLoop :: [] by
      simp [items, mark]) (by simp [length_itemsAll]; omega)
  refine ⟨opened.1, by simp [opened.2, jump]; omega, placed.window
    (show items (Stmt.loop var c body) = [.openLoop var c] ++ itemsAll body ++ [.closeLoop] by
      simp [items, mark]) (by simp) fun k inside => ?_, closed.1,
    by simp [closed.2, jump, show pc + 1 + sizeAll body ≠ pc by omega]⟩
  rw [length_itemsAll] at inside
  simp [jump, show pc + 1 + k ≠ pc by omega, show k ≠ sizeAll body by omega]

/-! The flat run follows the structured run. -/

variable {limit : Nat}

/-- The passes of a loop from its frame at item `j` on, as the flat run makes them: the body from
`start`, then the loop's end at `close`, which jumps back to `start` while items remain and goes
on past itself after the last. -/
theorem agrees_passes {start close : Nat}
    (follows : ∀ m, p.Agrees agents limit start close m (body m))
    (keeps : ∀ m m', body m = (.ok (), m') →
      m'.scope.frames.map Frame.cursor = m.scope.frames.map Frame.cursor)
    (closed : p.instructions[close]? = some .closeLoop) (back : p.jumpFrom close = start)
    (more : List Value) :
    ∀ (x : Value) (j : Nat) (m : Machine σ),
      m.scope.frames.map Frame.cursor = (var, values, j) :: rest → j + more.length + 1 = values.length →
      p.Agrees agents limit start (close + 1) m
        ((x :: more).foldl (fun ran _ => pass body ran) (.ok (), m)) := by
  -- on the items after the current one; the loop's frame at item `j` carries the induction
  induction more with
  | nil =>
    -- the last pass: the loop's end finds no item left and goes on past itself
    intro x j m top counted
    have last : ¬ j + 1 < values.length := by simp at counted; omega
    simp only [List.foldl_cons, List.foldl_nil, pass, ok_andThen]
    refine (follows m).andThen fun m₁ passed => Program.agrees_step closed ?_
    have moved := (Scope.advance_cursors ((keeps m m₁ passed).trans top)).1
    rw [Program.step_closeLoop]
    simp [moved, last]
  | cons y more ih =>
    intro x j m top counted
    have inside : j + 1 < values.length := by simp at counted; omega
    have first := follows m
    rcases passed : body m with ⟨e | ⟨⟨⟩⟩, m₁⟩ <;> rw [passed] at first
    · -- the body stopped the run: so do the passes
      rw [List.foldl_cons, show pass body (.ok (), m) = (.error e, m₁) by simp [pass, passed],
        foldl_pass_stopped]
      exact first.stopped
    · -- the loop's end finds an item left and jumps back for the next pass
      have moved := Scope.advance_cursors ((keeps m m₁ passed).trans top)
      have again : p.Agrees agents limit close start m₁
          (.ok (), { m₁.counted with scope := m₁.counted.scope.advance.2 }) := by
        refine Program.agrees_step closed ?_
        rw [Program.step_closeLoop]
        simp [moved.1, inside, back]
      rw [List.foldl_cons, show pass body (.ok (), m) =
        (.ok (), { m₁.counted with scope := m₁.counted.scope.advance.2 }) by simp [pass, passed]]
      refine first.trans (again.trans (ih y (j + 1) _ ?_ (by simp at counted; omega)))
      simpa [inside] using moved.2

mutual
/-- The flat run over a placed block follows the block's structured run. -/
theorem exec_agrees : ∀ (b : Stmt Expr Instruction) (pc : Nat) (m : Machine σ),
    p.Placed pc (items b) (jump pc b) → p.Agrees agents limit pc (pc + size b) m (exec agents pc b m)
  | .plain ins unmarked, pc, m, placed => by
    have fetched := (placed.at_ pc (show items (Stmt.plain ins unmarked) = [] ++ ins :: [] from rfl)
      (by simp)).1
    have notGoto : ∀ name, ins ≠ .goto name := fun name same =>
      placed.noGoto name (by simp [items, same])
    have stepped := step_of_perform agents p pc m.counted unmarked notGoto
    simp only [exec, size]
    rcases performed : perform agents m.counted ins with ⟨f | ⟨⟨⟩⟩, m₁⟩ <;> rw [performed] at stepped
    · exact Program.agrees_fail fetched stepped _
    · exact Program.agrees_step fetched stepped
  | .cond c yes none, pc, m, placed => by
    obtain ⟨opened, skip, inner, closed⟩ := placed_cond_none placed
    have ends : pc + size (Stmt.cond c yes none) = pc + 1 + sizeAll yes + 1 := by simp [size]; omega
    rw [ends]
    simp only [exec]
    rcases evaluated : Program.evalIn m.counted c with f | v
    · exact Program.agrees_fail opened (by simp [Program.step, evaluated]) _
    · by_cases truthy : v.truthy
      · -- the branch runs, then the `end_if`
        have entered : p.Agrees agents limit pc (pc + 1) m (.ok (), m.counted) :=
          Program.agrees_step opened (by simp [Program.step, evaluated, truthy])
        simp only [truthy, if_true]
        exact entered.trans ((execAll_agrees yes (pc + 1) m.counted inner).andThen fun m₁ _ =>
          Program.agrees_step closed rfl)
      · -- the `if` jumps to its `end_if`
        have skipped : p.Agrees agents limit pc (pc + 1 + sizeAll yes) m (.ok (), m.counted) :=
          Program.agrees_step opened (by simp [Program.step, evaluated, truthy, skip])
        simp only [truthy, Bool.false_eq_true, if_false]
        exact skipped.trans (Program.agrees_step closed rfl)
  | .cond c yes (some no), pc, m, placed => by
    obtain ⟨opened, skip, inner, atElse, skipNo, innerNo, closed⟩ := placed_cond_some placed
    have ends : pc + size (Stmt.cond c yes (some no)) = pc + 2 + sizeAll yes + sizeAll no + 1 := by
      simp [size]; omega
    rw [ends]
    simp only [exec]
    rcases evaluated : Program.evalIn m.counted c with f | v
    · exact Program.agrees_fail opened (by simp [Program.step, evaluated]) _
    · by_cases truthy : v.truthy
      · -- the first branch runs; its `else` jumps to the `end_if`
        have entered : p.Agrees agents limit pc (pc + 1) m (.ok (), m.counted) :=
          Program.agrees_step opened (by simp [Program.step, evaluated, truthy])
        have closing : ∀ m₁ : Machine σ, p.Agrees agents limit (pc + 1 + sizeAll yes)
            (pc + 2 + sizeAll yes + sizeAll no + 1) m₁ (.ok (), m₁.counted.counted) := fun m₁ =>
          (Program.agrees_step atElse (by simp [Program.step, skipNo])).trans
            (Program.agrees_step closed rfl)
        simp only [truthy, if_true]
        exact entered.trans ((execAll_agrees yes (pc + 1) m.counted inner).andThen fun m₁ _ =>
          closing m₁)
      · -- the `if` jumps to the second branch, which runs to the `end_if`
        have skipped : p.Agrees agents limit pc (pc + 2 + sizeAll yes) m (.ok (), m.counted) :=
          Program.agrees_step opened (by simp [Program.step, evaluated, truthy, skip])
        simp only [truthy, Bool.false_eq_true, if_false]
        exact skipped.trans ((execAll_agrees no (pc + 2 + sizeAll yes) m.counted innerNo).andThen
          fun m₁ _ => Program.agrees_step closed rfl)
  | .loop var c body, pc, m, placed => by
    obtain ⟨opened, skip, inner, closed, back⟩ := placed_loop placed
    have ends : pc + size (Stmt.loop var c body) = pc + 1 + sizeAll body + 1 := by simp [size]; omega
    rw [ends]
    simp only [exec]
    rcases listed : (Program.evalIn m.counted c >>= fun v => (loopItems v).mapError .runtime)
      with f | items
    · exact Program.agrees_fail opened (by simp [Program.step, listed]) _
    · cases items with
      | nil =>
        -- no items: the `for_each` jumps past its `end_for_each`
        exact Program.agrees_step opened (by simp [Program.step, listed, Scope.push, skip])
      | cons x more =>
        -- the loop's frame goes on top, and each pass runs the body and the `end_for_each`
        have entered : p.Agrees agents limit pc (pc + 1) m
            (.ok (), { m.counted with scope := (m.counted.scope.push var (x :: more)).2 }) :=
          Program.agrees_step opened (by simp [Program.step, listed, Scope.push])
        have top : ({ m.counted with scope := (m.counted.scope.push var (x :: more)).2 } :
            Machine σ).scope.frames.map Frame.cursor =
              (var, x :: more, 0) :: m.scope.frames.map Frame.cursor := by
          simp [Scope.push, Frame.cursor]
        exact entered.trans (agrees_passes (fun m => execAll_agrees body (pc + 1) m inner)
          (fun m m' => execAll_cursors (pc + 1) body m m') closed back more x 0 _ top (by simp))
theorem execAll_agrees : ∀ (bs : List (Stmt Expr Instruction)) (pc : Nat) (m : Machine σ),
    p.Placed pc (itemsAll bs) (jumpAll pc bs) →
      p.Agrees agents limit pc (pc + sizeAll bs) m (execAll agents pc bs m)
  | [], pc, m, _ => by simpa [execAll] using Program.Agrees.refl m
  | b :: bs, pc, m, placed => by
    obtain ⟨first, rest⟩ := placed_cons placed
    rw [sizeAll_cons, ← Nat.add_assoc]
    exact (exec_agrees b pc m first).andThen fun m₁ _ => execAll_agrees bs (pc + size b) m₁ rest
end

/-- The machine a run ends with keeps the count of the steps it visited. -/
@[simp] theorem finish_steps (ran : Except (Fault × Nat) Unit × Machine σ) :
    (finish ran).steps = ran.2.steps := by
  rcases ran with ⟨⟨f, i⟩ | ⟨⟨⟩⟩, m⟩ <;> rfl

end Stmt

namespace Program

variable {agents : Agents σ} {p : Program} {limit pc : Nat}

theorem execute_end (past : p.instructions[pc]? = none) (r : Nat) (m : Machine σ) :
    p.execute agents limit r pc m = m := by
  cases r <;> simp [execute, past]

/-- A flat run that follows a whole structured run, from a machine that has executed no step, ends
as the structured run ends when the budget covers the steps it visits, and runs out of budget
otherwise. -/
theorem Agrees.execute_eq {n : Nat} {m : Machine σ} {ran : Except (Fault × Nat) Unit × Machine σ}
    (follows : p.Agrees agents limit pc n m ran) (past : p.instructions[n]? = none)
    (fresh : m.steps = 0) :
    (ran.2.steps ≤ limit → p.execute agents limit limit pc m = Stmt.finish ran) ∧
      (limit < ran.2.steps → Limited limit (p.execute agents limit limit pc m)) := by
  refine ⟨fun enough => ?_, fun exceeded => follows.short limit (by omega)⟩
  have resumed := follows.resumes (limit - ran.2.steps)
  rw [fresh, Nat.sub_zero, Nat.add_sub_cancel' enough] at resumed
  rw [resumed]
  rcases ran with ⟨⟨f, i⟩ | ⟨⟨⟩⟩, m'⟩
  · rfl
  · exact execute_end past _ m'

variable {promptFaults : PromptSpec → List String} {w : Workflow}

/-- The block tree of a checked workflow without `goto` steps is placed in its program from the
first step, with the tree's jumps. -/
theorem placed_of_compile (accepted : compile promptFaults w = .ok p)
    (noGoto : ∀ name, Step.goto name ∉ w.steps) {ts : List (Stmt String Step)}
    (checked : Accepted w ts p) {t : List (Stmt Expr Instruction)}
    (built : Stmt.compileAll w.prompts ts = some t) : p.Placed 0 (Stmt.itemsAll t) (Stmt.jumpAll 0 t) := by
  have written : p.instructions = Stmt.itemsAll t := by
    rw [instructions_of_compile accepted, Stmt.itemsAll_compile built, checked.written]
  refine ⟨fun k _ => by rw [Nat.zero_add, written], fun k _ => ?_, fun name member => ?_⟩
  · have notGoto : ∀ name, w.steps[k]? ≠ some (.goto name) := fun name found =>
      noGoto name (List.mem_of_getElem? found)
    rw [Nat.zero_add, checked.marks k notGoto, Stmt.jumpAll_compile built]
  · -- only a `goto` step has a `goto` instruction
    rw [← written, instructions_of_compile accepted] at member
    obtain ⟨st, inSteps, made⟩ := List.mem_map.1 member
    cases found : st.instruction? w.prompts with
    | none => simp [found] at made
    | some ins =>
      rw [found, Option.getD_some] at made
      subst made
      exact noGoto name ((Step.instruction?_shape found).2.2.2.2 name rfl ▸ inSteps)

end Program

/-- A checked workflow without `goto` steps runs as its block tree: an `if` runs exactly one of
its branches as its condition says, and a `for_each` evaluates its collection once, skips its
body for no items, and otherwise enters a frame and runs the body once per item, moving the frame
on after each pass. For every renderer, provider and reader, each answering as the calls before
it have left its state, the flat run of the program ends with the outcome and the state of the
structured run of the tree (the rows, the failure with its step, the raw text, the time and the
count of steps visited), whenever it does not run out of its step budget; and it runs out of
budget when the structured run visits more steps than the budget. -/
theorem Program.run_eq_structured {promptFaults : PromptSpec → List String} {w : Workflow}
    {p : Program} (accepted : Program.compile promptFaults w = .ok p)
    (noGoto : ∀ name, Step.goto name ∉ w.steps) :
    ∃ ts t, Stmt.parse w.steps = some ts ∧ Stmt.compileAll w.prompts ts = some t ∧
      ∀ {σ : Type} (agents : Agents σ) (maxSteps : Nat) (agent : σ) (bindings : Map),
        ((∀ q, (p.run agents maxSteps agent bindings).1.error ≠
            some ((Fault.runtime (.stepLimitExceeded (p.maxSteps.getD maxSteps))).at_ q)) →
          p.run agents maxSteps agent bindings = Stmt.runItem agents t agent bindings) ∧
        (p.maxSteps.getD maxSteps < (Stmt.runItem agents t agent bindings).1.stepsExecuted →
          ∃ q, (p.run agents maxSteps agent bindings).1.error =
            some ((Fault.runtime (.stepLimitExceeded (p.maxSteps.getD maxSteps))).at_ q)) := by
  obtain ⟨ts, checked⟩ := Program.compile_accepted promptFaults accepted
  obtain ⟨t, built⟩ := Option.isSome_iff_exists.1 (Stmt.itemsAll_compile_isSome ts fun st member =>
    Program.instruction?_isSome_of_compile accepted (checked.written ▸ member))
  have placed := Program.placed_of_compile accepted noGoto checked built
  have past : p.instructions[0 + Stmt.sizeAll t]? = none := by
    rw [Program.instructions_of_compile accepted, ← checked.written, ← Stmt.itemsAll_compile built]
    simp [Stmt.length_itemsAll]
  refine ⟨ts, t, checked.parsed, built, fun agents maxSteps agent bindings => ?_⟩
  -- the flat run from the first step follows the structured run of the whole tree
  have follows : p.Agrees agents (p.maxSteps.getD maxSteps) 0 (0 + Stmt.sizeAll t)
      { scope := Scope.ofSeed bindings, agent }
      (Stmt.execAll agents 0 t { scope := Scope.ofSeed bindings, agent }) :=
    Stmt.execAll_agrees t 0 _ placed
  have ends := follows.execute_eq past rfl
  constructor
  · intro notLimited
    by_cases enough : (Stmt.execAll agents 0 t { scope := Scope.ofSeed bindings, agent }).2.steps ≤
        p.maxSteps.getD maxSteps
    · simp only [Program.run, Stmt.runItem, ends.1 enough]
    · obtain ⟨q, limited⟩ := ends.2 (by omega)
      exact absurd limited (notLimited q)
  · intro exceeded
    -- the structured run's outcome keeps the count of the steps it visited
    exact ends.2 (by rw [← Stmt.finish_steps]; exact exceeded)

/-- A loop over four numbers that counts the big and the small ones in the two branches of an `if`:
the check accepts it, and its program runs as its block tree. -/
theorem Program.run_eq_structured_one_branch_per_pass :
    ∃ p, Program.compile PromptSpec.faults
        { name := "w", steps := [.set "big" "0", .set "small" "0", .openLoop "n" "[1, 5, 2, 7]",
          .openIf "n > 3", .set "big" "big + 1", .elseBranch, .set "small" "small + 1", .closeIf,
          .closeLoop, .output ["big", "small"]] } = .ok p ∧
      ∃ ts t, Stmt.parse (ε := String) [.set "big" "0", .set "small" "0",
          .openLoop "n" "[1, 5, 2, 7]", .openIf "n > 3", .set "big" "big + 1", .elseBranch,
          .set "small" "small + 1", .closeIf, .closeLoop, .output ["big", "small"]] = some ts ∧
        Stmt.compileAll [] ts = some t := by
  obtain ⟨p, accepted⟩ := (Program.exists_compile_eq_ok PromptSpec.faults
    { name := "w", steps := [.set "big" "0", .set "small" "0", .openLoop "n" "[1, 5, 2, 7]",
      .openIf "n > 3", .set "big" "big + 1", .elseBranch, .set "small" "small + 1", .closeIf,
      .closeLoop, .output ["big", "small"]] }).2 (List.isEmpty_iff.1 (by decide +kernel))
  obtain ⟨ts, t, parsed, built, -⟩ := Program.run_eq_structured accepted (by simp)
  exact ⟨p, accepted, ts, t, parsed, built⟩

end PromptPipeline
