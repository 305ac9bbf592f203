import PromptPipeline.Proofs.Compile
import PromptPipeline.Workflow.Check
/-!
What the check of a workflow accepts, and what it reports.

`Workflow.Valid` says, of the steps and prompts alone, what the check asks of a workflow: blocks
that nest, distinct labels, `goto` steps that reach a label without entering a loop, no assignment
to a reserved name, expressions that parse, known prompts, usable prompts and outputs with fields.
The check builds a program exactly for the valid workflows, and when it fails, the problems it
reports of single steps and prompts are exactly those of each step by itself (`Step.faults`), in
step order, then those of each prompt (`Workflow.check_ok_iff_valid`).
-/
namespace PromptPipeline

open Stmt

/-- The expression texts of a step: a `set`'s value, an `if`'s condition, a `for_each`'s collection
and an `output`'s fields. -/
def Step.expressions : Step → List String
  | .set _ source | .openIf source | .openLoop _ source => [source]
  | .output fields => fields
  | _ => []

/-- The name of a label step, with the step's position. -/
def Step.labelEntry : Step × Nat → Option (String × Nat)
  | (.label name, k) => some (name, k)
  | _ => none

/-- The label steps of a list with their positions; looking a name up finds its first step. -/
def Step.labelsOf (l : List Step) : List (String × Nat) := l.zipIdx.filterMap Step.labelEntry

/-- The problems of each step by itself, in step order, each label against the labels before it. -/
def Workflow.stepFaults (w : Workflow) : List ValidationError :=
  w.steps.zipIdx.flatMap fun entry =>
    entry.1.faults w.prompts (Step.labelsOf (w.steps.take entry.2)) entry.2

/-- Whether a problem is one of a single step or prompt, not of the blocks or of a `goto`. -/
def ValidationError.isOwn : ValidationError → Bool
  | .duplicateLabel .. | .reservedName .. | .expression .. | .unknownPrompt .. | .invalidPrompt ..
  | .emptyOutput _ => true
  | _ => false

/-- No problem is both one of a single step or prompt and one of the blocks. -/
theorem ValidationError.isOwn_and_isNesting (e : ValidationError) :
    (e.isOwn && e.isNesting) = false := by
  cases e <;> rfl

/-- A workflow the check accepts, said of its steps and prompts alone. -/
structure Workflow.Valid (w : Workflow) : Prop where
  /-- each `else`, `end_if` and `end_for_each` continues or closes the innermost open block, which
  is of its kind, and no block is left open -/
  nested : Nested (ε := String) w.steps
  labels : ∀ (k k' : Nat) name, w.steps[k]? = some (Step.label name) →
    w.steps[k']? = some (Step.label name) → k = k'
  /-- each `goto` has a label, and the loops around the label are around the `goto` -/
  gotos : ∀ g name, w.steps[g]? = some (.goto name) → ∃ k, w.steps[k]? = some (.label name) ∧
    ∀ s ∈ loopsAround w.steps k, s ∈ loopsAround w.steps g
  assigned : ∀ name source, .set name source ∈ w.steps → name ∉ Scope.reservedNames
  bound : ∀ var source, .openLoop var source ∈ w.steps → var ≠ "parsed" ∧ var ≠ "loop"
  parsed : ∀ st ∈ w.steps, ∀ source ∈ st.expressions, ∃ e, Expr.parse source = .ok e
  prompts : ∀ name, .prompt name ∈ w.steps → ∃ spec, w.prompts.lookup name = some spec
  usable : ∀ entry ∈ w.prompts,
    Template.validate entry.2.template = .ok () ∧ Response.validate entry.2.response = .ok ()
  outputs : .output [] ∉ w.steps

/-! The problems of a single step. -/

namespace Step

variable {prompts : List (String × PromptSpec)} {labels labels' : List (String × Nat)} {i : Nat}

theorem exprFault_eq_nil_iff {source : String} :
    exprFault i source = [] ↔ ∃ e, Expr.parse source = .ok e := by
  unfold exprFault
  split <;> simp_all

/-- A step reads the labels before it only by looking names up. -/
theorem faults_congr (st : Step) (same : ∀ name, labels.lookup name = labels'.lookup name) :
    st.faults prompts labels i = st.faults prompts labels' i := by
  cases st <;> simp [Step.faults, same]

theorem faults_isOwn (st : Step) : ∀ e ∈ st.faults prompts labels i, e.isOwn :=
  Step.faults_cases (fun e => e.isOwn = true) (fun _ => rfl) (fun _ _ => rfl) (fun _ => rfl)
    (fun _ _ => rfl) rfl st

/-- A step has no problem of its own when it assigns no reserved name, its expressions parse, its
prompt is known, its label is new and it outputs some field. -/
theorem faults_eq_nil_iff (st : Step) :
    st.faults prompts labels i = [] ↔
      (∀ name source, st = .set name source → name ∉ Scope.reservedNames) ∧
      (∀ var source, st = .openLoop var source → var ≠ "parsed" ∧ var ≠ "loop") ∧
      (∀ source ∈ st.expressions, ∃ e, Expr.parse source = .ok e) ∧
      (∀ name, st = .prompt name → ∃ spec, prompts.lookup name = some spec) ∧
      (∀ name, st = .label name → labels.lookup name = none) ∧ st ≠ .output [] := by
  cases st with
  | prompt name =>
    simp [Step.faults, Step.expressions, Option.isSome_iff_exists]
  | label name =>
    cases found : labels.lookup name <;>
      simp [Step.faults, Step.expressions, found, -List.lookup_eq_none_iff]
  | output fields =>
    simp [Step.faults, Step.expressions, exprFault_eq_nil_iff, and_comm]
  | _ => simp [Step.faults, Step.expressions, exprFault_eq_nil_iff]

private theorem lookup_labels_zipIdx (name : String) : ∀ (l : List Step) (i : Nat),
    ((l.zipIdx i).filterMap labelEntry).lookup name = (l.findIdx? (isLabel name)).map (· + i)
  | [], _ => rfl
  | st :: l, i => by
    have shift : (fun x => x + i) ∘ (fun k => k + 1) = fun x => x + (i + 1) := by
      funext k
      simp only [Function.comp]
      omega
    rw [List.zipIdx_cons, List.filterMap_cons, List.findIdx?_cons]
    cases st with
    | label n =>
      by_cases same : n = name
      · subst same
        simp [labelEntry, isLabel]
      · have other : (name == n) = false := by simp [Ne.symm same]
        simp [labelEntry, List.lookup_cons, other, isLabel, same, lookup_labels_zipIdx name l (i + 1),
          Option.map_map, shift]
    | _ => simp [labelEntry, isLabel, lookup_labels_zipIdx name l (i + 1), Option.map_map, shift]

theorem lookup_labelsOf (l : List Step) (name : String) :
    (labelsOf l).lookup name = l.findIdx? (isLabel name) := by
  unfold labelsOf
  simpa using lookup_labels_zipIdx name l 0

/-- No label of a name is among the first `k` steps. -/
theorem lookup_labelsOf_take_eq_none {l : List Step} {k : Nat} {name : String} :
    (labelsOf (l.take k)).lookup name = none ↔ ∀ j < k, l[j]? ≠ some (.label name) := by
  rw [lookup_labelsOf, List.findIdx?_eq_none_iff]
  constructor
  · intro none j before labelled
    have member : Step.label name ∈ l.take k := by
      apply List.mem_of_getElem?
      rw [List.getElem?_take, if_pos before]
      exact labelled
    simpa [isLabel] using none _ member
  · intro none st member
    obtain ⟨j, found⟩ := List.mem_iff_getElem?.1 member
    rw [List.getElem?_take] at found
    split at found
    · rename_i before
      cases st with
      | label n =>
        by_cases same : n = name
        · subst same
          exact absurd found (none j before)
        · simp [isLabel, same]
      | _ => simp [isLabel]
    · cases found

end Step

/-! The problems of a workflow's steps. -/

namespace Workflow

variable (w : Workflow)

/-- The scan of the steps before a step keeps the labels the steps before it have. -/
theorem scan_labels_lookup (k : Nat) (name : String) :
    (Scan.visitAll w.prompts { jumps := List.replicate w.steps.length none } 0
      (w.steps.take k)).1.labels.lookup name = (Step.labelsOf (w.steps.take k)).lookup name := by
  rw [Scan.visitAll_labels, Step.lookup_labelsOf]
  simp

theorem scan_errors : w.scan.1.errors = w.steps.zipIdx.flatMap fun entry =>
    nestingFaults (Scan.visitAll w.prompts { jumps := List.replicate w.steps.length none } 0
      (w.steps.take entry.2)).1.blocks entry.2 entry.1 ++
    entry.1.faults w.prompts (Step.labelsOf (w.steps.take entry.2)) entry.2 := by
  rw [Workflow.scan, Scan.visitAll_errors_eq, List.nil_append]
  refine List.flatMap_congr fun entry _ => ?_
  rw [Step.faults_congr entry.1 (scan_labels_lookup w entry.2)]

/-- Keeping the problems of single steps from the scan's problems leaves the problems of each step
by itself. -/
private theorem scan_errors_filter (p : ValidationError → Bool)
    (nesting : ∀ e, e.isNesting → p e = false) (own : ∀ e, e.isOwn → p e = true) :
    w.scan.1.errors.filter p = w.stepFaults := by
  rw [scan_errors, List.filter_flatMap, stepFaults]
  refine List.flatMap_congr fun entry _ => ?_
  rw [List.filter_append, List.filter_eq_nil_iff.2, List.filter_eq_self.2, List.nil_append]
  · intro e member
    exact own e (Step.faults_isOwn entry.1 e member)
  · intro e member
    simp [nesting e (nestingFaults_isNesting _ _ _ e member)]

/-- The problems of single steps and prompts in what the check reports: those of each step by
itself, then those of each prompt. -/
theorem problems_filter_isOwn (promptFaults : PromptSpec → List String) :
    (w.problems promptFaults).filter ValidationError.isOwn =
      w.stepFaults ++ promptProblems promptFaults w.prompts := by
  have steps := scan_errors_filter w ValidationError.isOwn
    (fun e nesting => by simpa [nesting] using e.isOwn_and_isNesting) (fun _ own => own)
  have unclosed : (w.scan.1.blocks.reverse.map fun b => ValidationError.unclosed b.start b.kind).filter
      ValidationError.isOwn = [] := by
    simp [List.filter_map, Function.comp_def, ValidationError.isOwn]
  have gotos : (w.scan.1.gotos.flatMap (Scan.gotoFaults w.scan.1.labels w.scan.2.2)).filter
      ValidationError.isOwn = [] := by
    rw [List.filter_eq_nil_iff]
    intro e member
    obtain ⟨⟨g, name⟩, -, faulty⟩ := List.mem_flatMap.1 member
    -- the problems of a `goto` are its label's: missing, or inside a loop
    simp only [Scan.gotoFaults] at faulty
    split at faulty
    · rw [List.mem_singleton.1 faulty]
      simp [ValidationError.isOwn]
    · split at faulty
      · cases faulty
      · rw [List.mem_singleton.1 faulty]
        simp [ValidationError.isOwn]
  have prompts : (promptProblems promptFaults w.prompts).filter ValidationError.isOwn =
      promptProblems promptFaults w.prompts := by
    rw [List.filter_eq_self]
    intro e member
    obtain ⟨entry, -, listed⟩ := List.mem_flatMap.1 member
    obtain ⟨message, -, rfl⟩ := List.mem_map.1 listed
    rfl
  simp only [Workflow.problems, List.filter_append, steps, unclosed, gotos, prompts, List.append_nil]

private theorem eq_nil_iff_filter {β : Type} (l : List β) (p : β → Bool) :
    l = [] ↔ l.filter p = [] ∧ l.filter (fun a => !p a) = [] := by
  constructor
  · rintro rfl
    simp
  · rintro ⟨kept, dropped⟩
    rw [List.filter_eq_nil_iff] at kept dropped
    rw [List.eq_nil_iff_forall_not_mem]
    intro a member
    have yes := kept a member
    have no := dropped a member
    simp_all

/-- The scan finds no problem and leaves no block open exactly when the steps nest and no step has a
problem by itself. -/
theorem scan_clean_iff :
    w.scan.1.errors = [] ∧ w.scan.1.blocks = [] ↔ Nested (ε := String) w.steps ∧ w.stepFaults = [] := by
  have nested := Scan.nested_iff w.prompts (s := { jumps := List.replicate w.steps.length none }) 0
    w.steps rfl rfl
  have own := scan_errors_filter w (fun e => !e.isNesting) (fun e nesting => by simp [nesting])
    (fun e own => by simpa [own] using e.isOwn_and_isNesting)
  rw [← Workflow.scan] at nested
  rw [eq_nil_iff_filter w.scan.1.errors ValidationError.isNesting, own, nested]
  tauto

private theorem forall_getElem?_iff {P : Step → Prop} :
    (∀ (k : Nat) (st : Step), w.steps[k]? = some st → P st) ↔ ∀ st ∈ w.steps, P st := by
  constructor
  · intro each st member
    obtain ⟨k, found⟩ := List.mem_iff_getElem?.1 member
    exact each k st found
  · intro each k st found
    exact each st (List.mem_of_getElem? found)

/-- No step has a problem by itself exactly when labels are distinct, no reserved name is assigned,
expressions parse, prompts are known and outputs have fields. -/
theorem stepFaults_eq_nil_iff : w.stepFaults = [] ↔
    (∀ (k k' : Nat) name, w.steps[k]? = some (Step.label name) →
      w.steps[k']? = some (Step.label name) → k = k') ∧
    (∀ name source, .set name source ∈ w.steps → name ∉ Scope.reservedNames) ∧
    (∀ var source, .openLoop var source ∈ w.steps → var ≠ "parsed" ∧ var ≠ "loop") ∧
    (∀ st ∈ w.steps, ∀ source ∈ st.expressions, ∃ e, Expr.parse source = .ok e) ∧
    (∀ name, .prompt name ∈ w.steps → ∃ spec, w.prompts.lookup name = some spec) ∧
    .output [] ∉ w.steps := by
  have each : w.stepFaults = [] ↔ ∀ (k : Nat) (st : Step), w.steps[k]? = some st →
      st.faults w.prompts (Step.labelsOf (w.steps.take k)) k = [] := by
    simp only [stepFaults, List.flatMap_eq_nil_iff, Prod.forall, List.mk_mem_zipIdx_iff_getElem?]
    exact ⟨fun clean k st found => clean st k found, fun clean st k found => clean k st found⟩
  -- a label is new at every step exactly when no two steps carry one name
  have fresh : (∀ (k : Nat) (st : Step), w.steps[k]? = some st → ∀ name, st = .label name →
        (Step.labelsOf (w.steps.take k)).lookup name = none) ↔
      ∀ (k k' : Nat) name, w.steps[k]? = some (Step.label name) →
        w.steps[k']? = some (Step.label name) → k = k' := by
    simp only [Step.lookup_labelsOf_take_eq_none]
    constructor
    · intro new k k' name first second
      rcases Nat.lt_trichotomy k k' with earlier | same | later
      · exact absurd first (new k' _ second name rfl k earlier)
      · exact same
      · exact absurd second (new k _ first name rfl k' later)
    · rintro distinct k st found name rfl j before labelled
      have same := distinct j k name labelled found
      omega
  rw [each, ← fresh]
  simp only [Step.faults_eq_nil_iff]
  constructor
  · intro clean
    refine ⟨fun k st found => (clean k st found).2.2.2.2.1, ?_, ?_, ?_, ?_, ?_⟩
    · intro name source member
      obtain ⟨k, found⟩ := List.mem_iff_getElem?.1 member
      exact (clean k _ found).1 name source rfl
    · intro var source member
      obtain ⟨k, found⟩ := List.mem_iff_getElem?.1 member
      exact (clean k _ found).2.1 var source rfl
    · exact (forall_getElem?_iff w).1 fun k st found => (clean k st found).2.2.1
    · intro name member
      obtain ⟨k, found⟩ := List.mem_iff_getElem?.1 member
      exact (clean k _ found).2.2.2.1 name rfl
    · intro member
      obtain ⟨k, found⟩ := List.mem_iff_getElem?.1 member
      exact (clean k _ found).2.2.2.2.2 rfl
  · rintro ⟨new, assigned, bound, parsed, known, outputs⟩ k st found
    have member := List.mem_of_getElem? found
    refine ⟨fun name source same => assigned name source (same ▸ member),
      fun var source same => bound var source (same ▸ member), parsed st member,
      fun name same => known name (same ▸ member), new k st found, fun same => outputs (same ▸ member)⟩

/-- Under well nested steps with distinct labels, every `goto` resolves exactly when each reaches a
label and enters no loop. -/
theorem gotos_clean_iff (nested : Nested (ε := String) w.steps)
    (distinct : ∀ (k k' : Nat) name, w.steps[k]? = some (Step.label name) →
      w.steps[k']? = some (Step.label name) → k = k') :
    w.scan.1.gotos.flatMap (Scan.gotoFaults w.scan.1.labels w.scan.2.2) = [] ↔
      ∀ g name, w.steps[g]? = some (.goto name) → ∃ k, w.steps[k]? = some (.label name) ∧
        ∀ s ∈ loopsAround w.steps k, s ∈ loopsAround w.steps g := by
  obtain ⟨t, parsed⟩ := Option.isSome_iff_exists.1 nested
  have nesting : ∀ k, w.scan.2.2.getD k [] = loopsAround w.steps k := by
    intro k
    rw [Program.nesting_getD (itemsAll_of_parse parsed) k, loopsAround_eq parsed]
  rw [List.flatMap_eq_nil_iff]
  constructor
  · intro clean g name atGoto
    obtain ⟨target, found, fits⟩ :=
      (Scan.gotoFaults_eq_nil _).1 (clean (g, name) (Program.mem_scan_gotos.2 atGoto))
    rw [nesting, nesting] at fits
    exact ⟨target, label_of_lookup found, fun s around => (List.isPrefixOf_iff_prefix.1 fits).subset around⟩
  · rintro resolves ⟨g, name⟩ member
    obtain ⟨k, labelled, inside⟩ := resolves g name (Program.mem_scan_gotos.1 member)
    -- the scan keeps the first label of the name, which is the only one
    have kept : w.scan.1.labels.lookup name = w.steps.findIdx? (Step.isLabel name) := by
      rw [Workflow.scan, Scan.visitAll_labels]
      simp
    cases first : w.steps.findIdx? (Step.isLabel name) with
    | none =>
      have never := List.findIdx?_eq_none_iff.1 first (.label name) (List.mem_of_getElem? labelled)
      simp [Step.isLabel] at never
    | some target =>
      rw [first] at kept
      have same : target = k := distinct target k name (label_of_lookup kept) labelled
      subst same
      refine (Scan.gotoFaults_eq_nil _).2 ⟨target, kept, ?_⟩
      rw [nesting, nesting, loopsAround_eq parsed, loopsAround_eq parsed]
      apply List.isPrefixOf_iff_prefix.2
      refine stackAtAll_prefix t 0 [] target g (by simp) ?_
      rw [← loopsAround_eq parsed, ← loopsAround_eq parsed]
      exact inside

end Workflow

theorem PromptSpec.faults_eq_nil_iff (spec : PromptSpec) :
    spec.faults = [] ↔ Template.validate spec.template = .ok () ∧ Response.validate spec.response = .ok () := by
  unfold PromptSpec.faults
  split <;> split <;> simp_all

theorem promptProblems_eq_nil_iff (prompts : List (String × PromptSpec)) :
    promptProblems PromptSpec.faults prompts = [] ↔ ∀ entry ∈ prompts,
      Template.validate entry.2.template = .ok () ∧ Response.validate entry.2.response = .ok () := by
  simp only [promptProblems, List.flatMap_eq_nil_iff, List.map_eq_nil_iff, PromptSpec.faults_eq_nil_iff]

theorem Workflow.problems_eq_nil_iff_valid (w : Workflow) : w.problems PromptSpec.faults = [] ↔ w.Valid := by
  simp only [Workflow.problems, List.append_eq_nil_iff, List.map_eq_nil_iff, List.reverse_eq_nil_iff]
  constructor
  · rintro ⟨⟨⟨errors, blocks⟩, gotos⟩, prompts⟩
    obtain ⟨nested, clean⟩ := (w.scan_clean_iff).1 ⟨errors, blocks⟩
    obtain ⟨distinct, assigned, bound, parsed, known, outputs⟩ := (w.stepFaults_eq_nil_iff).1 clean
    exact ⟨nested, distinct, (w.gotos_clean_iff nested distinct).1 gotos, assigned, bound, parsed,
      known, (promptProblems_eq_nil_iff w.prompts).1 prompts, outputs⟩
  · intro valid
    obtain ⟨errors, blocks⟩ := (w.scan_clean_iff).2 ⟨valid.nested, (w.stepFaults_eq_nil_iff).2
      ⟨valid.labels, valid.assigned, valid.bound, valid.parsed, valid.prompts, valid.outputs⟩⟩
    exact ⟨⟨⟨errors, blocks⟩, (w.gotos_clean_iff valid.nested valid.labels).2 valid.gotos⟩,
      (promptProblems_eq_nil_iff w.prompts).2 valid.usable⟩

/-- The check builds a program exactly for the valid workflows; when it fails, the problems it
reports of single steps and prompts are those of each step by itself, in step order, then those of
each prompt. -/
theorem Workflow.check_ok_iff_valid (w : Workflow) :
    ((∃ p, w.check = .ok p) ↔ w.Valid) ∧
      ∀ f, w.check = .error f →
        f.errors.filter ValidationError.isOwn = w.stepFaults ++ promptProblems PromptSpec.faults w.prompts := by
  refine ⟨?_, fun f failed => ?_⟩
  · rw [Workflow.check, Program.exists_compile_eq_ok]
    exact w.problems_eq_nil_iff_valid
  · obtain ⟨-, rfl⟩ := (Program.compile_eq_error PromptSpec.faults w f).1 failed
    exact w.problems_filter_isOwn PromptSpec.faults

end PromptPipeline
