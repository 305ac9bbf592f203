import PromptPipeline.Proofs.Scan
import PromptPipeline.Workflow.Run
/-!
Programs that pass the check.

`Program.compile` adds to the problems of the scan those of the blocks left open, of the `goto`
steps and of the prompts (`compile_eq`). A program comes out only when there are none.
-/
namespace PromptPipeline

namespace Scan

/-- The problem of a `goto` step: a label that no step carries, or one inside a loop that does not
enclose the `goto`. -/
def gotoFaults (labels : List (String × Nat)) (nesting : List (List Nat)) :
    Nat × String → List ValidationError
  | (step, label) =>
    match labels.lookup label with
    | none => [.danglingGoto step label]
    | some target =>
      if (nesting.getD target []).isPrefixOf (nesting.getD step []) then [] else [.gotoIntoLoop step label]

variable (nesting : List (List Nat))

theorem gotoFaults_eq_nil {labels : List (String × Nat)} {g : Nat} {n : String} :
    gotoFaults labels nesting (g, n) = [] ↔
      ∃ target, labels.lookup n = some target ∧ (nesting.getD target []).isPrefixOf (nesting.getD g []) := by
  simp only [gotoFaults]
  cases labels.lookup n with
  | none => simp
  | some target =>
    simp only [Option.some.injEq, exists_eq_left']
    split <;> simp_all

theorem resolve_errors (s : Scan) :
    (resolve nesting s).errors = s.errors ++ s.gotos.flatMap (gotoFaults s.labels nesting) := by
  unfold resolve
  generalize s.gotos = gs
  induction gs generalizing s with
  | nil => simp
  | cons entry gs ih =>
    obtain ⟨g, n⟩ := entry
    rw [List.foldl_cons, ih]
    cases found : s.labels.lookup n with
    | none => simp [found, note, gotoFaults]
    | some k =>
      by_cases fits : (nesting.getD k []).isPrefixOf (nesting.getD g []) <;>
        simp only [List.flatMap_cons, found, fits, gotoFaults, if_true, if_false, Bool.false_eq_true] <;>
        simp [note, jump]

private theorem mem_of_lookup {l : List (Nat × String)} {k : Nat} {v : String}
    (found : l.lookup k = some v) : (k, v) ∈ l := by
  obtain ⟨before, after, split, -⟩ := List.lookup_eq_some_iff.mp found
  simp [split]

/-- When no `goto` step has a problem, `resolve` writes the target of each `goto` step. -/
theorem resolve_jumps (s : Scan) (clean : s.gotos.flatMap (gotoFaults s.labels nesting) = [])
    (functional : ∀ g n n', (g, n) ∈ s.gotos → (g, n') ∈ s.gotos → n = n')
    (room : ∀ g n, (g, n) ∈ s.gotos → g < s.jumps.length) (k : Nat) :
    (resolve nesting s).jumps.getD k none =
      ((List.lookup k s.gotos).bind fun n => List.lookup n s.labels).or (s.jumps.getD k none) := by
  unfold resolve
  revert clean functional room
  generalize s.gotos = gs
  intro clean functional room
  induction gs generalizing s with
  | nil => simp
  | cons entry gs ih =>
    obtain ⟨g, n⟩ := entry
    simp only [List.flatMap_cons, List.append_eq_nil_iff] at clean
    obtain ⟨first, rest⟩ := clean
    -- the first `goto` has its label, outside no loop it is not in
    obtain ⟨target, found, fits⟩ := (gotoFaults_eq_nil nesting).1 first
    have wide : g < s.jumps.length := room g n (by simp)
    rw [List.foldl_cons]
    simp only [found, fits, if_true]
    rw [ih (s.jump g target) (by simpa [jump] using rest)
      (fun g n n' here here' => functional g n n' (by simp [here]) (by simp [here']))
      (fun g' n' member => by simpa [jump] using room g' n' (by simp [member]))]
    rw [jumps_getD_jump s g target k wide, show (s.jump g target).labels = s.labels from rfl]
    by_cases here : k = g
    · subst here
      cases later : gs.lookup k with
      | none => simp [found]
      | some n' =>
        have same := functional k n' n (by simp [mem_of_lookup later]) (by simp)
        simp [found, same]
    · have other : (k == g) = false := by simp [here]
      simp [List.lookup_cons, other, here]

theorem note_foldl {β : Type} (f : β → ValidationError) (xs : List β) (s : Scan) :
    xs.foldl (fun s x => s.note (f x)) s = { s with errors := s.errors ++ xs.map f } := by
  induction xs generalizing s with
  | nil => simp
  | cons x xs ih =>
    rw [List.foldl_cons, ih]
    simp [note]

end Scan

/-- The problems of the prompts of a library: each fault of each prompt, in order. -/
def promptProblems (promptFaults : PromptSpec → List String) (prompts : List (String × PromptSpec)) :
    List ValidationError :=
  prompts.flatMap fun entry => (promptFaults entry.2).map (.invalidPrompt entry.1)

/-- The scan of a workflow's steps, from the start. -/
def Workflow.scan (w : Workflow) : Scan × List Instruction × List (List Nat) :=
  Scan.visitAll w.prompts { jumps := List.replicate w.steps.length none } 0 w.steps

/-- All problems of a workflow in the order the check reports them: those of the steps, the blocks
left open, outermost first, the `goto` steps, and the prompts. -/
def Workflow.problems (promptFaults : PromptSpec → List String) (w : Workflow) : List ValidationError :=
  w.scan.1.errors ++ w.scan.1.blocks.reverse.map (fun b => .unclosed b.start b.kind) ++
    w.scan.1.gotos.flatMap (Scan.gotoFaults w.scan.1.labels w.scan.2.2) ++
    promptProblems promptFaults w.prompts

namespace Program

variable (promptFaults : PromptSpec → List String)

private theorem foldl_errors {β : Type} (step : Scan → β → Scan) (faults : β → List ValidationError)
    (each : ∀ s x, step s x = { s with errors := s.errors ++ faults x }) (xs : List β) (s : Scan) :
    xs.foldl step s = { s with errors := s.errors ++ xs.flatMap faults } := by
  induction xs generalizing s with
  | nil => simp
  | cons x xs ih =>
    rw [List.foldl_cons, ih, each]
    simp

/-- The check fails exactly when the workflow has a problem, and then reports all of them. -/
theorem compile_eq_error (w : Workflow) (f : ValidationFailure) :
    compile promptFaults w = .error f ↔
      w.problems promptFaults ≠ [] ∧ f = { workflow := w.name, errors := w.problems promptFaults } := by
  unfold compile Workflow.problems Workflow.scan
  simp only [Scan.note_foldl]
  rw [foldl_errors _ (fun (entry : String × PromptSpec) => (promptFaults entry.2).map (.invalidPrompt entry.1))
    (fun s entry => rfl), Scan.resolve_errors]
  split
  · rename_i clean
    simp only [reduceCtorEq, false_iff, not_and, ne_eq]
    intro problem
    exact absurd (List.isEmpty_iff.mp clean) (by simpa [promptProblems, List.append_assoc] using problem)
  · rename_i problem
    simp only [Except.error.injEq]
    constructor
    · rintro rfl
      exact ⟨by simpa [promptProblems, List.append_assoc] using problem, by simp [promptProblems]⟩
    · rintro ⟨-, rfl⟩
      simp [promptProblems]

theorem exists_compile_eq_ok (w : Workflow) :
    (∃ p, compile promptFaults w = .ok p) ↔ w.problems promptFaults = [] := by
  cases checked : compile promptFaults w with
  | error f =>
    obtain ⟨problem, -⟩ := (compile_eq_error promptFaults w f).1 checked
    simp [problem]
  | ok p =>
    simp only [Except.ok.injEq, exists_eq', true_iff]
    by_contra problem
    have failed := (compile_eq_error promptFaults w _).2 ⟨problem, rfl⟩
    rw [checked] at failed
    cases failed

/-- Each `goto` step of the scan is a `goto` step of the workflow. -/
theorem mem_scan_gotos {w : Workflow} {g : Nat} {name : String} :
    (g, name) ∈ w.scan.1.gotos ↔ w.steps[g]? = some (.goto name) := by
  simp [Workflow.scan, Scan.mem_visitAll_gotos]

/-- What a passed check gives: no problem, the scan's instructions and loop depths, and the scan's
jump table with the target of each `goto` written in. -/
theorem compile_ok {w : Workflow} {p : Program} (accepted : compile promptFaults w = .ok p) :
    w.problems promptFaults = [] ∧ p.instructions = w.scan.2.1 ∧
      p.loopDepth = w.scan.2.2.map List.length ∧
      ∀ k, p.jumps.getD k none =
        ((List.lookup k w.scan.1.gotos).bind fun n => List.lookup n w.scan.1.labels).or
          (w.scan.1.jumps.getD k none) := by
  have clean := (exists_compile_eq_ok promptFaults w).1 ⟨p, accepted⟩
  have gotosClean : w.scan.1.gotos.flatMap (Scan.gotoFaults w.scan.1.labels w.scan.2.2) = [] := by
    simp only [Workflow.problems, List.append_eq_nil_iff] at clean
    exact clean.1.2
  unfold compile at accepted
  simp only [Scan.note_foldl] at accepted
  rw [foldl_errors _ (fun (entry : String × PromptSpec) => (promptFaults entry.2).map (.invalidPrompt entry.1))
    (fun s entry => rfl)] at accepted
  split at accepted
  · cases accepted
    refine ⟨clean, rfl, rfl, fun k => ?_⟩
    -- the `goto` steps are the workflow's, each at a step of its own
    dsimp only
    refine Scan.resolve_jumps w.scan.2.2
      { w.scan.1 with errors := w.scan.1.errors ++ w.scan.1.blocks.reverse.map fun b => .unclosed b.start b.kind }
      gotosClean (fun g n n' first second => ?_) (fun g n member => ?_) k
    · have atFirst := mem_scan_gotos.1 first
      rw [mem_scan_gotos.1 second] at atFirst
      simpa using atFirst.symm
    · have step := mem_scan_gotos.1 member
      have bound := (List.getElem?_eq_some_iff.1 step).1
      simpa [Workflow.scan, Scan.visitAll_jumps_length] using bound
  · cases accepted

end Program

/-! Facts of the scan of a workflow's steps. -/

namespace Workflow

open Stmt

variable {w : Workflow}

/-- The steps of a well nested workflow are scanned as the tree they write. -/
theorem scan_wrote {t : List (Stmt String Step)} (written : itemsAll t = w.steps) :
    Scan.Wrote { jumps := List.replicate w.steps.length none } 0 (sizeAll t) (jumpAll 0 t)
      (stackAtAll 0 [] t) w.scan := by
  have room : 0 + sizeAll t ≤ (List.replicate w.steps.length (none : Option Nat)).length := by
    rw [List.length_replicate, ← written, length_itemsAll]
    omega
  have wrote := Scan.visitAll_itemsAll w.prompts t { jumps := List.replicate w.steps.length none } 0 room
  rw [written] at wrote
  exact wrote

/-- The label the scan keeps for a name is a step with that label. -/
theorem label_of_lookup {name : String} {k : Nat} (found : w.scan.1.labels.lookup name = some k) :
    w.steps[k]? = some (.label name) := by
  rw [Workflow.scan, Scan.visitAll_labels] at found
  simp only [List.lookup_nil, Option.none_or, Option.map_eq_some_iff, Nat.add_zero, exists_eq_right] at found
  obtain ⟨bound, labelled, -⟩ := List.findIdx?_eq_some_iff_getElem.mp found
  rw [List.getElem?_eq_getElem bound]
  revert labelled
  cases w.steps[k] <;> simp [Step.isLabel]

/-- With no problem among the steps, each step has no problem of its own. -/
theorem faults_eq_nil (clean : w.scan.1.errors = []) {st : Step} {k : Nat} (at_ : w.steps[k]? = some st) :
    st.faults w.prompts (Scan.visitAll w.prompts { jumps := List.replicate w.steps.length none } 0
      (w.steps.take k)).1.labels k = [] := by
  rw [Workflow.scan, Scan.visitAll_errors_eq, List.nil_append, List.flatMap_eq_nil_iff] at clean
  have none := clean (st, k) (List.mk_mem_zipIdx_iff_getElem?.2 at_)
  rw [List.append_eq_nil_iff] at none
  exact none.2

private theorem no_earlier_label (clean : w.scan.1.errors = []) {name : String} {k k' : Nat}
    (earlier : k < k') (first : w.steps[k]? = some (.label name))
    (second : w.steps[k']? = some (.label name)) : False := by
  have none := faults_eq_nil clean second
  -- the label at `k` is among the steps before `k'`, so the scan reports a duplicate
  have before : Step.label name ∈ w.steps.take k' := by
    apply List.mem_of_getElem?
    rw [List.getElem?_take, if_pos earlier]
    exact first
  have found : ((w.steps.take k').findIdx? (Step.isLabel name)).isSome := by
    rw [Option.isSome_iff_ne_none, Ne, List.findIdx?_eq_none_iff]
    intro never
    simpa [Step.isLabel] using never _ before
  simp only [Step.faults, Scan.visitAll_labels, List.lookup_nil, Option.none_or] at none
  revert none
  obtain ⟨first, equal⟩ := Option.isSome_iff_exists.mp found
  simp [equal]

/-- A scan with no problem of its steps meets each label name once. -/
theorem labels_distinct (clean : w.scan.1.errors = []) {name : String} {k k' : Nat}
    (first : w.steps[k]? = some (.label name)) (second : w.steps[k']? = some (.label name)) : k = k' := by
  rcases Nat.lt_trichotomy k k' with earlier | same | later
  · exact (no_earlier_label clean earlier first second).elim
  · exact same
  · exact (no_earlier_label clean later second first).elim

end Workflow

open Stmt

/-- What a passed check establishes about a workflow `w`, the block tree `t` that its steps write,
and its program `p`: each mark jumps as the tree says, each `goto` to the one step with its label,
outside no loop that the `goto` is not in, and each step has the tree's loops around it. -/
structure Accepted (w : Workflow) (t : List (Stmt String Step)) (p : Program) : Prop where
  written : itemsAll t = w.steps
  instructions : p.instructions = w.scan.2.1
  marks : ∀ k, (∀ name, w.steps[k]? ≠ some (.goto name)) → p.jumps.getD k none = jumpAll 0 t k
  gotos : ∀ g name, w.steps[g]? = some (.goto name) → ∃ k, w.steps[k]? = some (.label name) ∧
    p.jumps.getD g none = some k ∧ stackAtAll 0 [] t k <+: stackAtAll 0 [] t g
  labels : ∀ (k k' : Nat) name, w.steps[k]? = some (Step.label name) →
    w.steps[k']? = some (Step.label name) → k = k'
  depth : ∀ k, p.depthAt k = (stackAtAll 0 [] t k).length

namespace Program

variable (promptFaults : PromptSpec → List String)

/-- The loops seen at a step of a well nested workflow. -/
theorem nesting_getD {w : Workflow} {t : List (Stmt String Step)} (written : itemsAll t = w.steps)
    (k : Nat) : w.scan.2.2.getD k [] = stackAtAll 0 [] t k := by
  rw [(Workflow.scan_wrote written).nesting]
  rcases Nat.lt_or_ge k (sizeAll t) with inside | outside
  · simp [List.getD_eq_getElem?_getD, List.getElem?_range' inside]
  · rw [stackAtAll_outside t 0 [] k (by omega)]
    simp [List.getD_eq_getElem?_getD, outside]

theorem compile_accepted {w : Workflow} {p : Program} (accepted : compile promptFaults w = .ok p) :
    ∃ t, Accepted w t p := by
  obtain ⟨clean, instructions, depths, jumps⟩ := compile_ok promptFaults accepted
  simp only [Workflow.problems, List.append_eq_nil_iff, List.map_eq_nil_iff, List.reverse_eq_nil_iff] at clean
  obtain ⟨⟨⟨noErrors, noBlocks⟩, gotosClean⟩, -⟩ := clean
  -- no problem about blocks and no open block: the steps are well nested
  have nested := (Scan.nested_iff w.prompts (s := { jumps := List.replicate w.steps.length none })
    0 w.steps rfl rfl).2 ⟨by rw [← Workflow.scan, noErrors]; rfl, noBlocks⟩
  obtain ⟨t, parsed⟩ := Option.isSome_iff_exists.mp nested
  have written := itemsAll_of_parse parsed
  have wrote := Workflow.scan_wrote written
  refine ⟨t, written, instructions, fun k notGoto => ?_, fun g name atGoto => ?_,
    fun k k' name => Workflow.labels_distinct noErrors, fun k => ?_⟩
  · -- a step that is not a `goto` keeps the jump the scan wrote for the tree
    have noGoto : List.lookup k w.scan.1.gotos = none := by
      cases found : List.lookup k w.scan.1.gotos with
      | none => rfl
      | some name => exact absurd (mem_scan_gotos.1 (Scan.mem_of_lookup found)) (notGoto name)
    have fresh : ((List.replicate w.steps.length (none : Option Nat))[k]?).getD none = none := by
      rw [List.getElem?_replicate]
      split <;> rfl
    rw [jumps, noGoto, wrote.jumps]
    simp [List.getD_eq_getElem?_getD, fresh]
  · have member := mem_scan_gotos.2 atGoto
    have listed : List.lookup g w.scan.1.gotos = some name := by
      cases found : List.lookup g w.scan.1.gotos with
      | none =>
        have apart := List.lookup_eq_none_iff.1 found (g, name) member
        simp at apart
      | some n =>
        have same := mem_scan_gotos.1 (Scan.mem_of_lookup found)
        rw [atGoto] at same
        simpa using same.symm
    obtain ⟨target, found, fits⟩ :=
      (Scan.gotoFaults_eq_nil _).1 (List.flatMap_eq_nil_iff.1 gotosClean (g, name) member)
    refine ⟨target, Workflow.label_of_lookup found, by rw [jumps, listed]; simp [found], ?_⟩
    rw [← nesting_getD written target, ← nesting_getD written g]
    exact List.isPrefixOf_iff_prefix.1 fits
  · rw [depthAt, depths, List.getD_eq_getElem?_getD, List.getElem?_map, ← nesting_getD written k,
      List.getD_eq_getElem?_getD]
    cases w.scan.2.2[k]? <;> rfl

end Program

end PromptPipeline
