import Mathlib.Data.List.Forall2
import Mathlib.Data.List.Induction
import PromptPipeline.Proofs.Layout
/-!
The scan behind `Program.compile`.

Each visit appends the problems of its step: a block problem, when the step continues or closes a
block that is not the innermost open one (`nestingFaults`), and the problems the step has by
itself (`Step.faults`). On the steps of a block tree the scan opens and closes exactly the tree's
blocks: it leaves the open blocks and loops as it found them, writes the tree's jumps and sees at
each step the loops the tree holds there (`visitAll_items`).
-/
namespace PromptPipeline

/-- The problem of an expression of step `i`, if it does not parse. -/
def exprFault (i : Nat) (source : String) : List ValidationError :=
  match Expr.parse source with
  | .ok _ => []
  | .error err => [.expression i source err]

/-- The problems a step has by itself, given the labels met before it: a reserved name, an
expression that does not parse, an unknown prompt, a label used before, an output without
fields. -/
def Step.faults (prompts : List (String × PromptSpec)) (labels : List (String × Nat)) (i : Nat) :
    Step → List ValidationError
  | .set name source =>
    (if Scope.reservedNames.contains name then [.reservedName i name] else []) ++ exprFault i source
  | .prompt name => if (prompts.lookup name).isSome then [] else [.unknownPrompt i name]
  | .openIf source => exprFault i source
  | .openLoop var source =>
    (if var == "parsed" || var == "loop" then [.reservedName i var] else []) ++ exprFault i source
  | .label name =>
    match labels.lookup name with
    | some first => [.duplicateLabel i name first]
    | none => []
  | .output fields => (if fields.isEmpty then [.emptyOutput i] else []) ++ fields.flatMap (exprFault i)
  | .elseBranch | .closeIf | .closeLoop | .goto _ => []

theorem exprFault_eq_nil {i : Nat} {source : String} :
    exprFault i source = [] ↔ (Expr.parse source).toOption.isSome := by
  unfold exprFault
  split <;> simp_all [Except.toOption]

/-- Each problem a step has by itself is a reserved name, an expression that does not parse, an
unknown prompt, a label used before or an output without fields: what holds of these five kinds
holds of every such problem. -/
theorem Step.faults_cases {prompts : List (String × PromptSpec)} {labels : List (String × Nat)}
    {i : Nat} (p : ValidationError → Prop) (reserved : ∀ name, p (.reservedName i name))
    (unparsed : ∀ source err, p (.expression i source err)) (unknown : ∀ name, p (.unknownPrompt i name))
    (duplicate : ∀ name first, p (.duplicateLabel i name first)) (empty : p (.emptyOutput i)) :
    ∀ (st : Step), ∀ e ∈ st.faults prompts labels i, p e := by
  have expression : ∀ source, ∀ e ∈ exprFault i source, p e := by
    intro source e member
    unfold exprFault at member
    split at member
    · cases member
    · rw [List.mem_singleton.1 member]
      exact unparsed _ _
  intro st e member
  cases st with
  | set name source | openLoop name source =>
    rcases List.mem_append.1 member with named | parsed
    · split at named
      · rw [List.mem_singleton.1 named]
        exact reserved _
      · cases named
    · exact expression source e parsed
  | openIf source => exact expression source e member
  | output fields =>
    rcases List.mem_append.1 member with none | parsed
    · split at none
      · rw [List.mem_singleton.1 none]
        exact empty
      · cases none
    · obtain ⟨field, -, parsed⟩ := List.mem_flatMap.1 parsed
      exact expression field e parsed
  | prompt name =>
    simp only [Step.faults] at member
    split at member
    · cases member
    · rw [List.mem_singleton.1 member]
      exact unknown _
  | label name =>
    simp only [Step.faults] at member
    split at member
    · rw [List.mem_singleton.1 member]
      exact duplicate _ _
    · cases member
  | elseBranch | closeIf | closeLoop | goto => cases member

/-- The instruction of a step: none when an expression of it does not parse or its prompt is not
in the library. -/
def Step.instruction? (prompts : List (String × PromptSpec)) : Step → Option Instruction
  | .set name source => (Expr.parse source).toOption.map (.set name)
  | .prompt name => (prompts.lookup name).map (.prompt name)
  | .openIf source => (Expr.parse source).toOption.map .openIf
  | .elseBranch => some .elseBranch
  | .closeIf => some .closeIf
  | .openLoop var source => (Expr.parse source).toOption.map (.openLoop var)
  | .closeLoop => some .closeLoop
  | .goto name => some (.goto name)
  | .label _ => some .label
  | .output fields => some (.output (fields.filterMap fun f => (Expr.parse f).toOption.map ((f, ·))))

/-- A step with no problem of its own has an instruction. -/
theorem Step.instruction?_isSome {prompts : List (String × PromptSpec)} {labels : List (String × Nat)}
    {i : Nat} {st : Step} (clean : st.faults prompts labels i = []) : (st.instruction? prompts).isSome := by
  cases st <;> simp_all [Step.faults, Step.instruction?, exprFault_eq_nil]

/-- The problem of step `i` when it continues or closes a block other than the innermost open
one. -/
def nestingFaults (blocks : List Block) (i : Nat) : Step → List ValidationError
  | .elseBranch =>
    match blocks with
    | .cond _ none :: _ => []
    | .cond start (some _) :: _ => [.duplicateElse i start]
    | inner :: _ => [.crossed i "else" inner.kind inner.start]
    | [] => [.unopened i "else" "if"]
  | .closeIf =>
    match blocks with
    | .cond .. :: _ => []
    | inner :: _ => [.crossed i "end_if" inner.kind inner.start]
    | [] => [.unopened i "end_if" "if"]
  | .closeLoop =>
    match blocks with
    | .loop _ :: _ => []
    | inner :: _ => [.crossed i "end_for_each" inner.kind inner.start]
    | [] => [.unopened i "end_for_each" "for_each"]
  | _ => []

/-- Whether a step is a `label` with this name. -/
def Step.isLabel (name : String) : Step → Bool
  | .label n => n == name
  | _ => false

/-- Whether a problem is about the nesting of blocks. -/
def ValidationError.isNesting : ValidationError → Bool
  | .unopened .. | .crossed .. | .duplicateElse .. | .unclosed .. => true
  | _ => false

/-- An open block of the scan against one of the stack reader: an `if` before its `else`, an `if`
after its `else`, or a loop. -/
def Block.Matches : Block → Stmt.Open String Step → Prop
  | .cond _ none, .yes .. => True
  | .cond _ (some _), .no .. => True
  | .loop _, .body .. => True
  | _, _ => False

theorem nestingFaults_isNesting (blocks : List Block) (i : Nat) (st : Step) :
    ∀ e ∈ nestingFaults blocks i st, e.isNesting := by
  -- only the steps that continue or close a block have block problems
  cases st with
  | elseBranch | closeIf | closeLoop =>
    dsimp only [nestingFaults]
    split <;> simp [ValidationError.isNesting]
  | _ => simp [nestingFaults]

theorem faults_not_isNesting (prompts : List (String × PromptSpec)) (labels : List (String × Nat))
    (i : Nat) (st : Step) : ∀ e ∈ st.faults prompts labels i, e.isNesting = false :=
  Step.faults_cases (fun e => e.isNesting = false) (fun _ => rfl) (fun _ _ => rfl) (fun _ => rfl)
    (fun _ _ => rfl) rfl st

namespace Scan

variable (prompts : List (String × PromptSpec))

theorem parse_eq (s : Scan) (i : Nat) (source : String) :
    s.parse i source = ({ s with errors := s.errors ++ exprFault i source }, (Expr.parse source).toOption) := by
  unfold parse exprFault
  split <;> simp_all [note, Except.toOption]

theorem parseFields_eq (i : Nat) (s : Scan) (fields : List String) :
    parseFields i s fields =
      ({ s with errors := s.errors ++ fields.flatMap (exprFault i) },
        fields.filterMap fun f => (Expr.parse f).toOption.map ((f, ·))) := by
  induction fields generalizing s with
  | nil => simp [parseFields]
  | cons f fs ih =>
    simp only [parseFields, parse_eq, ih, List.flatMap_cons, List.append_assoc, List.filterMap_cons]
    cases (Expr.parse f).toOption <;> simp

/-- A visit appends the step's block problem and its own problems, nothing else. -/
theorem visit_errors (s : Scan) (i : Nat) (st : Step) :
    (visit prompts s i st).1.errors = s.errors ++ nestingFaults s.blocks i st ++ st.faults prompts s.labels i := by
  cases st with
  | set _ _ | openLoop _ _ =>
    simp only [visit, parse_eq, nestingFaults, Step.faults]
    split <;> simp [note, *]
  | prompt name =>
    cases found : prompts.lookup name <;> simp [visit, found, note, nestingFaults, Step.faults]
  | openIf source => simp [visit, parse_eq, nestingFaults, Step.faults]
  | elseBranch =>
    rcases s with ⟨errors, jumps, _ | ⟨⟨start, _ | e⟩ | start, rest⟩, loops, labels, gotos⟩ <;>
      simp [visit, note, nestingFaults, Step.faults]
  | closeIf | closeLoop =>
    rcases s with ⟨errors, jumps, _ | ⟨⟨start, _ | e⟩ | start, rest⟩, loops, labels, gotos⟩ <;>
      simp [visit, jump, note, nestingFaults, Step.faults]
  | goto label => simp [visit, nestingFaults, Step.faults]
  | label name =>
    cases found : s.labels.lookup name <;> simp [visit, found, note, nestingFaults, Step.faults]
  | output fields =>
    simp only [visit, parseFields_eq, nestingFaults, Step.faults]
    split <;> simp [note, *]

/-- A visit gives the step's instruction, whatever the scan before it. -/
theorem visit_instruction (s : Scan) (i : Nat) (st : Step) :
    (visit prompts s i st).2 = st.instruction? prompts := by
  cases st with
  | prompt name => cases found : prompts.lookup name <;> simp [visit, found, Step.instruction?]
  | label name => cases found : s.labels.lookup name <;> simp [visit, found, Step.instruction?]
  | _ => simp [visit, parse_eq, parseFields_eq, Step.instruction?]

theorem visitAll_cons (s : Scan) (i : Nat) (st : Step) (l : List Step) :
    visitAll prompts s i (st :: l) =
      let r := visitAll prompts (visit prompts s i st).1 (i + 1) l
      (r.1, (visit prompts s i st).2.getD .label :: r.2.1, s.loops :: r.2.2) := rfl

theorem visitAll_append (s : Scan) (i : Nat) (l r : List Step) :
    visitAll prompts s i (l ++ r) =
      let a := visitAll prompts s i l
      let b := visitAll prompts a.1 (i + l.length) r
      (b.1, a.2.1 ++ b.2.1, a.2.2 ++ b.2.2) := by
  induction l generalizing s i with
  | nil => rfl
  | cons st l ih =>
    simp only [List.cons_append, visitAll_cons, ih, List.length_cons]
    simp [Nat.add_assoc, Nat.add_comm 1]

theorem visitAll_instructions (s : Scan) (i : Nat) (l : List Step) :
    (visitAll prompts s i l).2.1 = l.map fun st => (st.instruction? prompts).getD .label := by
  induction l generalizing s i with
  | nil => rfl
  | cons st l ih => simp [visitAll_cons, ih, visit_instruction]

/-- The scan only adds problems. -/
theorem visitAll_errors (s : Scan) (i : Nat) (l : List Step) :
    ∃ added, (visitAll prompts s i l).1.errors = s.errors ++ added := by
  induction l generalizing s i with
  | nil => exact ⟨[], by simp [visitAll]⟩
  | cons st l ih =>
    obtain ⟨added, grown⟩ := ih (visit prompts s i st).1 (i + 1)
    refine ⟨nestingFaults s.blocks i st ++ st.faults prompts s.labels i ++ added, ?_⟩
    rw [visitAll_cons, grown, visit_errors]
    simp

theorem jumps_getD_jump (s : Scan) (source target k : Nat) (room : source < s.jumps.length) :
    (s.jump source target).jumps.getD k none = if k = source then some target else s.jumps.getD k none := by
  by_cases here : k = source
  · subst here
    simp [jump, List.getD_eq_getElem?_getD, room]
  · have away : source ≠ k := fun same => here same.symm
    simp [jump, List.getD_eq_getElem?_getD, here, away]

/-! How the steps that open, continue and close blocks change the scan. -/

theorem visit_openIf (s : Scan) (i : Nat) (c : String) :
    (visit prompts s i (.openIf c)).1 =
      { s with errors := s.errors ++ exprFault i c, blocks := .cond i none :: s.blocks } := by
  simp [visit, parse_eq]

theorem visit_elseBranch {s : Scan} {start : Nat} {rest : List Block} (i : Nat)
    (top : s.blocks = .cond start none :: rest) :
    (visit prompts s i .elseBranch).1 = { s with blocks := .cond start (some i) :: rest } := by
  simp [visit, top]

theorem visit_closeIf_of_yes {s : Scan} {start : Nat} {rest : List Block} (i : Nat)
    (top : s.blocks = .cond start none :: rest) :
    (visit prompts s i .closeIf).1 = { s.jump start i with blocks := rest } := by
  simp [visit, top]

theorem visit_closeIf_of_no {s : Scan} {start e : Nat} {rest : List Block} (i : Nat)
    (top : s.blocks = .cond start (some e) :: rest) :
    (visit prompts s i .closeIf).1 = { (s.jump start (e + 1)).jump e i with blocks := rest } := by
  simp [visit, top]

theorem visit_openLoop (s : Scan) (i : Nat) (v c : String) :
    (visit prompts s i (.openLoop v c)).1 =
      { s with errors := s.errors ++ Step.faults prompts s.labels i (.openLoop v c),
               blocks := .loop i :: s.blocks, loops := s.loops ++ [i] } := by
  simp only [visit, parse_eq, Step.faults]
  split <;> simp [note, *]

theorem visit_closeLoop {s : Scan} {start : Nat} {rest : List Block} (i : Nat)
    (top : s.blocks = .loop start :: rest) :
    (visit prompts s i .closeLoop).1 =
      { (s.jump start (i + 1)).jump i (start + 1) with blocks := rest, loops := s.loops.dropLast } := by
  simp [visit, top]

/-- A step that delimits no block leaves the open blocks, the loops and the jumps alone. -/
theorem visit_unmarked (s : Scan) (i : Nat) {st : Step} (unmarked : Brackets.markOf? st = none) :
    (visit prompts s i st).1.blocks = s.blocks ∧ (visit prompts s i st).1.loops = s.loops ∧
      (visit prompts s i st).1.jumps = s.jumps := by
  cases st with
  | set name source =>
    simp only [visit, parse_eq]
    split <;> simp [note]
  | prompt name => cases found : prompts.lookup name <;> simp [visit, note, found]
  | goto label => simp [visit]
  | label name => cases found : s.labels.lookup name <;> simp [visit, note, found]
  | output fields =>
    simp only [visit, parseFields_eq]
    split <;> simp [note]
  | openIf | elseBranch | closeIf | openLoop | closeLoop => cases unmarked

/-- What visiting `n` steps from `pc` did to the scan `s`, ending in `r` with its instructions and
the loops before each step: the open blocks and loops are as they were, `target` gives the jumps
written over the old ones, and `stack` the loops seen at each step. -/
structure Wrote (s : Scan) (pc n : Nat) (target : Nat → Option Nat) (stack : Nat → List Nat)
    (r : Scan × List Instruction × List (List Nat)) : Prop where
  blocks : r.1.blocks = s.blocks
  loops : r.1.loops = s.loops
  length : r.1.jumps.length = s.jumps.length
  jumps : ∀ k, r.1.jumps.getD k none = (target k).or (s.jumps.getD k none)
  nesting : r.2.2 = (List.range' pc n).map stack

private theorem range'_around (pc n : Nat) :
    List.range' pc (n + 2) = pc :: (List.range' (pc + 1) n ++ [pc + 1 + n]) := by
  rw [List.range'_succ, List.range'_concat]
  simp

private theorem range'_around_two (pc a b : Nat) :
    List.range' pc (a + b + 3) =
      pc :: (List.range' (pc + 1) a ++ (pc + 1 + a) :: (List.range' (pc + 2 + a) b ++ [pc + 2 + a + b])) := by
  rw [show a + b + 3 = a + (b + 2) + 1 by omega, List.range'_succ, ← List.range'_append, range'_around]
  simp only [Nat.one_mul]
  rw [show pc + 1 + a + 1 = pc + 2 + a by omega]

private theorem map_range'_congr (f g : Nat → List Nat) (pc n : Nat)
    (same : ∀ k, pc < k + 1 → k < pc + n → f k = g k) :
    (List.range' pc n).map f = (List.range' pc n).map g := by
  apply List.map_congr_left
  intro k member
  rw [List.mem_range'_1] at member
  exact same k (by omega) member.2

open Stmt in
mutual
/-- Visiting the steps of a block tree leaves the open blocks and loops as they were, writes the
tree's jumps and sees at each step the loops that the tree holds there. -/
theorem visitAll_items : ∀ (b : Stmt String Step) (s : Scan) (pc : Nat),
    pc + size b ≤ s.jumps.length →
    Wrote s pc (size b) (Stmt.jump pc b) (stackAt pc s.loops b) (visitAll prompts s pc (items b))
  | .plain st unmarked, s, pc, room => by
    obtain ⟨blocks, loops, jumps⟩ := visit_unmarked prompts s pc unmarked
    simp only [items, size, visitAll_cons, visitAll]
    refine ⟨blocks, loops, by rw [jumps], fun k => by simp [Stmt.jump, jumps], ?_⟩
    simp [stackAt]
  | .cond c yes none, s, pc, room => by
    simp only [size] at room
    obtain ⟨s₁, opened⟩ : ∃ s₁, (visit prompts s pc (.openIf c)).1 = s₁ := ⟨_, rfl⟩
    have entered := opened ▸ visit_openIf prompts s pc c
    have inner := visitAll_itemsAll yes s₁ (pc + 1) (by rw [entered]; dsimp only; omega)
    -- the `if` stays open over its branch, and its `end_if` closes it
    have top : (visitAll prompts s₁ (pc + 1) (itemsAll yes)).1.blocks = .cond pc none :: s.blocks := by
      rw [inner.blocks, entered]
    have closed := visit_closeIf_of_yes prompts (pc + 1 + sizeAll yes) top
    have wide : pc < (visitAll prompts s₁ (pc + 1) (itemsAll yes)).1.jumps.length := by
      rw [inner.length, entered]
      dsimp only
      omega
    have loops : s₁.loops = s.loops := by rw [entered]
    rw [show items (.cond c yes none) = Step.openIf c :: (itemsAll yes ++ [Step.closeIf]) from rfl,
      visitAll_cons, opened, visitAll_append, length_itemsAll]
    dsimp only
    rw [visitAll_cons]
    simp only [visitAll, closed]
    refine ⟨rfl, by simp [jump, inner.loops, loops], ?_, fun k => ?_, ?_⟩
    · simp only [jump, List.length_set]
      rw [inner.length, entered]
    · rw [jumps_getD_jump _ _ _ _ wide, inner.jumps, entered]
      by_cases here : k = pc <;> simp [Stmt.jump, here]
    · rw [inner.nesting, inner.loops, loops, size, range'_around]
      have first : stackAt pc s.loops (.cond c yes none) pc = s.loops := by simp [stackAt]
      have last : stackAt pc s.loops (.cond c yes none) (pc + 1 + sizeAll yes) = s.loops := by
        simp [stackAt, Stmt.stackAtAll_outside yes (pc + 1) s.loops (pc + 1 + sizeAll yes) (by omega)]
      have middle := map_range'_congr (stackAtAll (pc + 1) s.loops yes) (stackAt pc s.loops (.cond c yes none))
        (pc + 1) (sizeAll yes)
        fun k lower _ => by simp [stackAt, show ¬ k ≤ pc by omega]
      simp [first, last, middle]
  | .cond c yes (some no), s, pc, room => by
    simp only [size] at room
    obtain ⟨s₁, opened⟩ : ∃ s₁, (visit prompts s pc (.openIf c)).1 = s₁ := ⟨_, rfl⟩
    have entered := opened ▸ visit_openIf prompts s pc c
    have taken := visitAll_itemsAll yes s₁ (pc + 1) (by rw [entered]; dsimp only; omega)
    have loops₁ : s₁.loops = s.loops := by rw [entered]
    have jumps₁ : s₁.jumps = s.jumps := by rw [entered]
    -- the `else` turns the open `if` into one with an `else`, which the `end_if` closes
    have top : (visitAll prompts s₁ (pc + 1) (itemsAll yes)).1.blocks = .cond pc none :: s.blocks := by
      rw [taken.blocks, entered]
    obtain ⟨s₂, switched⟩ : ∃ s₂, (visit prompts (visitAll prompts s₁ (pc + 1) (itemsAll yes)).1
        (pc + 1 + sizeAll yes) .elseBranch).1 = s₂ := ⟨_, rfl⟩
    have elsed := switched ▸ visit_elseBranch prompts (pc + 1 + sizeAll yes) top
    have shift : pc + 1 + sizeAll yes + 1 = pc + 2 + sizeAll yes := by omega
    have other := visitAll_itemsAll no s₂ (pc + 2 + sizeAll yes)
      (by rw [elsed]; dsimp only; rw [taken.length, jumps₁]; omega)
    have top' : (visitAll prompts s₂ (pc + 2 + sizeAll yes) (itemsAll no)).1.blocks =
        .cond pc (some (pc + 1 + sizeAll yes)) :: s.blocks := by
      rw [other.blocks, elsed]
    have closed := visit_closeIf_of_no prompts (pc + 2 + sizeAll yes + sizeAll no) top'
    have length : (visitAll prompts s₂ (pc + 2 + sizeAll yes) (itemsAll no)).1.jumps.length =
        s.jumps.length := by
      rw [other.length, elsed]
      dsimp only
      rw [taken.length, jumps₁]
    have wide : pc < (visitAll prompts s₂ (pc + 2 + sizeAll yes) (itemsAll no)).1.jumps.length := by
      omega
    have wide' : pc + 1 + sizeAll yes < ((visitAll prompts s₂ (pc + 2 + sizeAll yes) (itemsAll no)).1.jump
        pc (pc + 1 + sizeAll yes + 1)).jumps.length := by
      simp only [jump, List.length_set]
      omega
    have loops₂ : s₂.loops = s.loops := by rw [elsed]; dsimp only; rw [taken.loops, loops₁]
    have jumps₂ : ∀ k, s₂.jumps.getD k none = (jumpAll (pc + 1) yes k).or (s.jumps.getD k none) := by
      intro k
      rw [elsed]
      dsimp only
      rw [taken.jumps, jumps₁]
    rw [show items (.cond c yes (some no)) =
        Step.openIf c :: (itemsAll yes ++ (Step.elseBranch :: (itemsAll no ++ [Step.closeIf]))) by
          simp only [items, List.cons_append, List.append_assoc]
          rfl,
      visitAll_cons, opened, visitAll_append, length_itemsAll]
    dsimp only
    rw [visitAll_cons, switched, shift, visitAll_append, length_itemsAll]
    dsimp only
    rw [visitAll_cons]
    simp only [visitAll, closed]
    refine ⟨rfl, by simp [jump, other.loops, loops₂], by simp [jump, length], fun k => ?_, ?_⟩
    · rw [jumps_getD_jump _ _ _ _ wide', jumps_getD_jump _ _ _ _ wide, other.jumps, jumps₂]
      simp only [Stmt.jump]
      by_cases here : k = pc
      · have notElse : k ≠ pc + 1 + sizeAll yes := by omega
        rw [if_neg notElse, if_pos here, if_pos here]
        simp only [Option.some_or, Option.some.injEq]
        omega
      · by_cases atElse : k = pc + 1 + sizeAll yes
        · rw [if_pos atElse, if_neg here, if_pos atElse, Option.some_or]
        · rw [if_neg atElse, if_neg here, if_neg here, if_neg atElse]
          rcases Nat.lt_or_ge k (pc + 1 + sizeAll yes) with inYes | inNo
          · simp [Stmt.jumpAll_outside no (pc + 2 + sizeAll yes) k (by omega)]
          · simp [Stmt.jumpAll_outside yes (pc + 1) k (by omega)]
    · rw [other.nesting, other.loops, loops₂, taken.nesting, taken.loops, loops₁, size, range'_around_two]
      have first : stackAt pc s.loops (.cond c yes (some no)) pc = s.loops := by simp [stackAt]
      have atElse : stackAt pc s.loops (.cond c yes (some no)) (pc + 1 + sizeAll yes) = s.loops := by
        simp [stackAt, Stmt.stackAtAll_outside yes (pc + 1) s.loops (pc + 1 + sizeAll yes) (by omega)]
      have last : stackAt pc s.loops (.cond c yes (some no)) (pc + 2 + sizeAll yes + sizeAll no) = s.loops := by
        have outside := Stmt.stackAtAll_outside no (pc + 2 + sizeAll yes) s.loops
          (pc + 2 + sizeAll yes + sizeAll no) (by omega)
        simp [stackAt, outside, show ¬ pc + 2 + sizeAll yes + sizeAll no ≤ pc + 1 + sizeAll yes by omega]
      have inYes := map_range'_congr (stackAtAll (pc + 1) s.loops yes)
        (stackAt pc s.loops (.cond c yes (some no))) (pc + 1) (sizeAll yes)
        fun k lower upper => by simp [stackAt, show ¬ k ≤ pc by omega, show k ≤ pc + 1 + sizeAll yes by omega]
      have inNo := map_range'_congr (stackAtAll (pc + 2 + sizeAll yes) s.loops no)
        (stackAt pc s.loops (.cond c yes (some no))) (pc + 2 + sizeAll yes) (sizeAll no)
        fun k lower upper => by
          simp [stackAt, show ¬ k ≤ pc by omega, show ¬ k ≤ pc + 1 + sizeAll yes by omega]
      simp [first, atElse, last, inYes, inNo]
  | .loop v c body, s, pc, room => by
    simp only [size] at room
    obtain ⟨s₁, opened⟩ : ∃ s₁, (visit prompts s pc (.openLoop v c)).1 = s₁ := ⟨_, rfl⟩
    have entered := opened ▸ visit_openLoop prompts s pc v c
    have inner := visitAll_itemsAll body s₁ (pc + 1) (by rw [entered]; dsimp only; omega)
    have loops : s₁.loops = s.loops ++ [pc] := by rw [entered]
    have jumps : s₁.jumps = s.jumps := by rw [entered]
    -- the loop stays open over its body, and its `end_for_each` closes it
    have top : (visitAll prompts s₁ (pc + 1) (itemsAll body)).1.blocks = .loop pc :: s.blocks := by
      rw [inner.blocks, entered]
    have closed := visit_closeLoop prompts (pc + 1 + sizeAll body) top
    have length : (visitAll prompts s₁ (pc + 1) (itemsAll body)).1.jumps.length = s.jumps.length := by
      rw [inner.length, entered]
    have wide : pc < (visitAll prompts s₁ (pc + 1) (itemsAll body)).1.jumps.length := by omega
    have wide' : pc + 1 + sizeAll body <
        ((visitAll prompts s₁ (pc + 1) (itemsAll body)).1.jump pc (pc + 1 + sizeAll body + 1)).jumps.length := by
      simp only [jump, List.length_set]
      omega
    rw [show items (.loop v c body) = Step.openLoop v c :: (itemsAll body ++ [Step.closeLoop]) from rfl,
      visitAll_cons, opened, visitAll_append, length_itemsAll]
    dsimp only
    rw [visitAll_cons]
    simp only [visitAll, closed]
    refine ⟨rfl, by simp [inner.loops, loops], by simp [jump, length], fun k => ?_, ?_⟩
    · rw [jumps_getD_jump _ _ _ _ wide', jumps_getD_jump _ _ _ _ wide, inner.jumps, jumps]
      simp only [Stmt.jump]
      by_cases here : k = pc
      · have notEnd : k ≠ pc + 1 + sizeAll body := by omega
        rw [if_neg notEnd, if_pos here, if_pos here]
        simp only [Option.some_or, Option.some.injEq]
        omega
      · by_cases atEnd : k = pc + 1 + sizeAll body
        · rw [if_pos atEnd, if_neg here, if_pos atEnd, Option.some_or]
        · rw [if_neg atEnd, if_neg here, if_neg here, if_neg atEnd]
    · rw [inner.nesting, inner.loops, loops, size, range'_around]
      have first : stackAt pc s.loops (.loop v c body) pc = s.loops := by simp [stackAt]
      have last : stackAt pc s.loops (.loop v c body) (pc + 1 + sizeAll body) = s.loops ++ [pc] := by
        simp [stackAt, Stmt.stackAtAll_outside body (pc + 1) (s.loops ++ [pc]) (pc + 1 + sizeAll body) (by omega)]
        omega
      have middle := map_range'_congr (stackAtAll (pc + 1) (s.loops ++ [pc]) body)
        (stackAt pc s.loops (.loop v c body)) (pc + 1) (sizeAll body)
        fun k lower upper => by simp [stackAt, show ¬ (k ≤ pc ∨ pc + 2 + sizeAll body ≤ k) by omega]
      simp [first, last, middle]
theorem visitAll_itemsAll : ∀ (bs : List (Stmt String Step)) (s : Scan) (pc : Nat),
    pc + sizeAll bs ≤ s.jumps.length →
    Wrote s pc (sizeAll bs) (Stmt.jumpAll pc bs) (stackAtAll pc s.loops bs)
      (visitAll prompts s pc (itemsAll bs))
  | [], s, pc, _ => ⟨rfl, rfl, rfl, fun k => by simp [visitAll, Stmt.jumpAll], by simp [visitAll]⟩
  | b :: bs, s, pc, room => by
    simp only [sizeAll_cons] at room
    have first := visitAll_items b s pc (by omega)
    have rest := visitAll_itemsAll bs (visitAll prompts s pc (items b)).1 (pc + size b)
      (by rw [first.length]; omega)
    rw [first.loops] at rest
    rw [itemsAll_cons, visitAll_append, length_items]
    dsimp only
    refine ⟨rest.blocks.trans first.blocks, rest.loops.trans first.loops, rest.length.trans first.length,
      fun k => ?_, ?_⟩
    · rw [rest.jumps, first.jumps]
      rcases Nat.lt_or_ge k (pc + size b) with inFirst | inRest
      · simp [Stmt.jumpAll, Stmt.jumpAll_outside bs (pc + size b) k (by omega)]
      · simp [Stmt.jumpAll, Stmt.jump_outside b pc k (by omega)]
    · dsimp only
      rw [first.nesting, rest.nesting, sizeAll_cons, ← List.range'_append, List.map_append, Nat.one_mul]
      congr 1
      · refine map_range'_congr _ _ _ _ fun k lower upper => ?_
        simp [stackAtAll, upper]
      · refine map_range'_congr _ _ _ _ fun k lower upper => ?_
        simp [stackAtAll, show ¬ k < pc + size b by omega]
end

/-- The problems of a scan from the first step: each step's own, given the scan of the steps before
it. -/
theorem visitAll_errors_eq (s : Scan) (l : List Step) :
    (visitAll prompts s 0 l).1.errors = s.errors ++ l.zipIdx.flatMap fun entry =>
      nestingFaults (visitAll prompts s 0 (l.take entry.2)).1.blocks entry.2 entry.1 ++
        entry.1.faults prompts (visitAll prompts s 0 (l.take entry.2)).1.labels entry.2 := by
  induction l using List.reverseRecOn with
  | nil => simp [visitAll]
  | append_singleton l st ih =>
    rw [visitAll_append, List.zipIdx_append, List.flatMap_append]
    simp only [Nat.zero_add, visitAll, List.zipIdx_cons, List.zipIdx_nil,
      List.flatMap_cons, List.flatMap_nil, List.append_nil, List.take_left' rfl]
    rw [visit_errors, ih, List.append_assoc, List.append_assoc]
    congr 2
    -- the steps before each earlier step are the same in the longer list
    refine List.flatMap_congr fun entry member => ?_
    have bound := (List.mem_zipIdx member).2.1
    rw [List.take_append_of_le_length (by omega)]

/-- What a step records beside its errors and its instruction: the jump table keeps its length, a
label is recorded only by a `label` step of a new name, and a `goto` only by a `goto` step. -/
theorem visit_records (s : Scan) (i : Nat) (st : Step) :
    (visit prompts s i st).1.jumps.length = s.jumps.length ∧
    (visit prompts s i st).1.labels =
      (match st with
      | .label name => if (s.labels.lookup name).isSome then s.labels else s.labels ++ [(name, i)]
      | _ => s.labels) ∧
    (visit prompts s i st).1.gotos =
      (match st with
      | .goto name => s.gotos ++ [(i, name)]
      | _ => s.gotos) := by
  cases st with
  | set => simp only [visit, parse_eq]; split <;> simp [note]
  | prompt name => cases found : prompts.lookup name <;> simp [visit, note, found]
  | openLoop => simp only [visit, parse_eq]; split <;> simp [note]
  | output => simp only [visit, parseFields_eq]; split <;> simp [note]
  | label name => cases found : s.labels.lookup name <;> simp [visit, note, found]
  | openIf | goto => simp [visit, parse_eq]
  | elseBranch | closeIf | closeLoop =>
    rcases s with ⟨errors, jumps, _ | ⟨⟨start, _ | e⟩ | start, rest⟩, loops, labels, gotos⟩ <;>
      simp [visit, note, jump]

theorem visitAll_jumps_length (s : Scan) (i : Nat) (l : List Step) :
    (visitAll prompts s i l).1.jumps.length = s.jumps.length := by
  induction l generalizing s i with
  | nil => simp [visitAll]
  | cons st l ih => rw [visitAll_cons, ih, (visit_records prompts s i st).1]

/-! Labels and `goto` steps. -/

theorem visit_labels (s : Scan) (i : Nat) (st : Step) :
    (visit prompts s i st).1.labels =
      match st with
      | .label name => if (s.labels.lookup name).isSome then s.labels else s.labels ++ [(name, i)]
      | _ => s.labels :=
  (visit_records prompts s i st).2.1

theorem visit_gotos (s : Scan) (i : Nat) (st : Step) :
    (visit prompts s i st).1.gotos =
      match st with
      | .goto name => s.gotos ++ [(i, name)]
      | _ => s.gotos :=
  (visit_records prompts s i st).2.2

theorem mem_visit_gotos (s : Scan) (i : Nat) (st : Step) (g : Nat) (name : String) :
    (g, name) ∈ (visit prompts s i st).1.gotos ↔ (g, name) ∈ s.gotos ∨ (g = i ∧ st = .goto name) := by
  rw [visit_gotos]
  cases st <;> simp [eq_comm]

/-- The scan keeps the first step of each label name. -/
theorem visitAll_labels (s : Scan) (i : Nat) (l : List Step) (name : String) :
    (visitAll prompts s i l).1.labels.lookup name =
      (s.labels.lookup name).or ((l.findIdx? (Step.isLabel name)).map (· + i)) := by
  induction l generalizing s i with
  | nil => simp [visitAll]
  | cons st l ih =>
    rw [visitAll_cons, ih, visit_labels, List.findIdx?_cons]
    have shift : (fun x => x + i) ∘ (fun k => k + 1) = fun x => x + (i + 1) := by
      funext k
      simp only [Function.comp]
      omega
    cases st with
    | label n =>
      by_cases same : n = name
      · subst same
        cases found : s.labels.lookup n <;> simp [found, List.lookup_append, Step.isLabel]
      · have other : (name == n) = false := by simp [Ne.symm same]
        dsimp only
        split <;> simp [List.lookup_append, List.lookup_cons, other, Step.isLabel, same, shift]
    | _ => simp [Step.isLabel, shift]

/-- The scan lists each `goto` step with its label. -/
theorem mem_visitAll_gotos (s : Scan) (i : Nat) (l : List Step) (g : Nat) (name : String) :
    (g, name) ∈ (visitAll prompts s i l).1.gotos ↔
      (g, name) ∈ s.gotos ∨ (i ≤ g ∧ l[g - i]? = some (.goto name)) := by
  induction l generalizing s i with
  | nil => simp [visitAll]
  | cons st l ih =>
    rw [visitAll_cons, ih, mem_visit_gotos]
    -- step `g` comes before this one, is this one, or comes after it
    rcases Nat.lt_trichotomy g i with before | rfl | after
    · have notHere : ¬ i ≤ g := by omega
      have notLater : ¬ i + 1 ≤ g := by omega
      simp [notHere, notLater, Nat.ne_of_lt before]
    · have notLater : ¬ g + 1 ≤ g := by omega
      simp only [notLater, false_and, or_false, Nat.le_refl, true_and, Nat.sub_self,
        List.getElem?_cons_zero, Option.some.injEq]
    · have index : g - i = g - (i + 1) + 1 := by omega
      simp [index, Nat.ne_of_gt after, show i ≤ g by omega, show i + 1 ≤ g by omega]

/-! The scan against the stack reader of `Stmt.parse`. -/

section Reader

open Stmt

/-- One step of the scan against one step of the stack reader: the step meets no block problem
exactly when the reader reads it, and the open blocks keep matching. -/
theorem visit_push {s : Scan} {r : Reading String Step} (i : Nat) (st : Step)
    (matched : List.Forall₂ Block.Matches s.blocks r.opened) :
    (nestingFaults s.blocks i st = [] ↔ (r.push st).isSome) ∧
      ∀ r', r.push st = some r' → List.Forall₂ Block.Matches (visit prompts s i st).1.blocks r'.opened := by
  -- a step that delimits no block goes into the innermost body
  have plain : ∀ {st : Step}, Brackets.markOf? st = none →
      (nestingFaults s.blocks i st = [] ↔ (r.push st).isSome) ∧
        ∀ r', r.push st = some r' → List.Forall₂ Block.Matches (visit prompts s i st).1.blocks r'.opened := by
    intro st unmarked
    have noFault : nestingFaults s.blocks i st = [] := by
      cases st with
      | elseBranch | closeIf | closeLoop => cases unmarked
      | _ => rfl
    rw [Reading.push_plain _ unmarked]
    refine ⟨by simp [noFault], ?_⟩
    rintro r' ⟨⟩
    rw [(visit_unmarked prompts s i unmarked).1]
    exact matched
  cases st with
  | set | prompt | goto | label | output => exact plain rfl
  | openIf c =>
    rw [show r.push (Step.openIf c) = _ from Reading.push_mark _ (.openIf c)]
    refine ⟨by simp [nestingFaults, Reading.enter], ?_⟩
    rintro r' ⟨⟩
    rw [visit_openIf]
    exact .cons trivial matched
  | openLoop v c =>
    rw [show r.push (Step.openLoop v c) = _ from Reading.push_mark _ (.openLoop v c)]
    refine ⟨by simp [nestingFaults, Reading.enter], ?_⟩
    rintro r' ⟨⟩
    rw [visit_openLoop]
    exact .cons trivial matched
  -- a step that continues or closes a block reads the innermost open block; where the shapes of
  -- the scan's block and the reader's differ, `Block.Matches` is false
  | elseBranch =>
    obtain ⟨opened, done⟩ := r
    rw [show Reading.push ⟨opened, done⟩ Step.elseBranch = _ from Reading.push_mark _ .elseBranch]
    generalize top : s.blocks = blocks at matched
    cases matched with
    | nil => simp [nestingFaults, Reading.enter]
    | cons head tail =>
      rename_i b o bs os
      rcases b with ⟨start, _ | e⟩ | start <;> cases o <;> simp only [Block.Matches] at head
      · refine ⟨by simp [nestingFaults, Reading.enter], ?_⟩
        rintro r' ⟨⟩
        rw [visit_elseBranch prompts i top]
        exact .cons trivial tail
      all_goals simp [nestingFaults, Reading.enter]
  | closeIf =>
    obtain ⟨opened, done⟩ := r
    rw [show Reading.push ⟨opened, done⟩ Step.closeIf = _ from Reading.push_mark _ .closeIf]
    generalize top : s.blocks = blocks at matched
    cases matched with
    | nil => simp [nestingFaults, Reading.enter]
    | cons head tail =>
      rename_i b o bs os
      rcases b with ⟨start, _ | e⟩ | start <;> cases o <;> simp only [Block.Matches] at head
      · refine ⟨by simp [nestingFaults, Reading.enter], ?_⟩
        rintro r' ⟨⟩
        rw [visit_closeIf_of_yes prompts i top]
        exact tail
      · refine ⟨by simp [nestingFaults, Reading.enter], ?_⟩
        rintro r' ⟨⟩
        rw [visit_closeIf_of_no prompts i top]
        exact tail
      · simp [nestingFaults, Reading.enter]
  | closeLoop =>
    obtain ⟨opened, done⟩ := r
    rw [show Reading.push ⟨opened, done⟩ Step.closeLoop = _ from Reading.push_mark _ .closeLoop]
    generalize top : s.blocks = blocks at matched
    cases matched with
    | nil => simp [nestingFaults, Reading.enter]
    | cons head tail =>
      rename_i b o bs os
      rcases b with ⟨start, _ | e⟩ | start <;> cases o <;> simp only [Block.Matches] at head
      · simp [nestingFaults, Reading.enter]
      · simp [nestingFaults, Reading.enter]
      · refine ⟨by simp [nestingFaults, Reading.enter], ?_⟩
        rintro r' ⟨⟩
        rw [visit_closeLoop prompts i top]
        exact tail

theorem visit_nesting_errors (s : Scan) (i : Nat) (st : Step) :
    (visit prompts s i st).1.errors.filter ValidationError.isNesting =
      s.errors.filter ValidationError.isNesting ++ nestingFaults s.blocks i st := by
  have own : (st.faults prompts s.labels i).filter ValidationError.isNesting = [] :=
    List.filter_eq_nil_iff.2 fun e member => by simp [faults_not_isNesting prompts s.labels i st e member]
  rw [visit_errors, List.filter_append, List.filter_append,
    List.filter_eq_self.2 (nestingFaults_isNesting s.blocks i st), own, List.append_nil]

/-- The scan of a list against the stack reader: it meets no block problem exactly when the reader
reads the whole list, and the open blocks then match. -/
theorem visitAll_read {s : Scan} {r : Reading String Step} (i : Nat) (l : List Step)
    (matched : List.Forall₂ Block.Matches s.blocks r.opened) :
    ((l.foldlM Reading.push r).isSome ↔
      (visitAll prompts s i l).1.errors.filter ValidationError.isNesting =
        s.errors.filter ValidationError.isNesting) ∧
    ∀ r', l.foldlM Reading.push r = some r' →
      List.Forall₂ Block.Matches (visitAll prompts s i l).1.blocks r'.opened := by
  induction l generalizing s r i with
  | nil =>
    refine ⟨by simp [visitAll], ?_⟩
    rintro r' ⟨⟩
    exact matched
  | cons st l ih =>
    obtain ⟨reads, keeps⟩ := visit_push prompts i st matched
    obtain ⟨added, grown⟩ := visitAll_errors prompts (visit prompts s i st).1 (i + 1) l
    have first := visit_nesting_errors prompts s i st
    rw [List.foldlM_cons, visitAll_cons]
    cases pushed : r.push st with
    | none =>
      -- the reader stops here, and the scan records the block problem of this step
      have fault : nestingFaults s.blocks i st ≠ [] := by
        intro none
        simpa [pushed] using reads.1 none
      refine ⟨?_, by simp⟩
      simp only [Option.bind_eq_bind, Option.bind_none, Option.isSome_none, Bool.false_eq_true, false_iff]
      intro equal
      rw [grown, List.filter_append, first] at equal
      have lengths := congrArg List.length equal
      simp only [List.length_append] at lengths
      exact fault (List.eq_nil_of_length_eq_zero (by omega))
    | some r₁ =>
      have noFault : nestingFaults s.blocks i st = [] := reads.2 (by simp [pushed])
      obtain ⟨rest, keep⟩ := ih (i + 1) (keeps r₁ pushed)
      simp only [Option.bind_eq_bind, Option.bind_some]
      refine ⟨?_, keep⟩
      rw [rest, first, noFault, List.append_nil]

/-- Scanned from no open block and no problem, a list is well nested exactly when the scan meets
no block problem and leaves no block open. -/
theorem nested_iff {s : Scan} (i : Nat) (l : List Step) (fresh : s.blocks = []) (clean : s.errors = []) :
    Nested (ε := String) l ↔
      (visitAll prompts s i l).1.errors.filter ValidationError.isNesting = [] ∧
        (visitAll prompts s i l).1.blocks = [] := by
  have matched : List.Forall₂ Block.Matches s.blocks ({} : Reading String Step).opened := by
    rw [fresh]
    exact .nil
  obtain ⟨reads, keeps⟩ := visitAll_read prompts i l matched
  rw [clean, List.filter_nil] at reads
  constructor
  · intro nested
    obtain ⟨r, read, closed⟩ := Option.bind_eq_some_iff.mp (Option.isSome_iff_exists.mp nested).choose_spec
    have empty : r.opened = [] := by
      cases opened : r.opened <;> simp_all
    have blocks := keeps r read
    rw [empty, List.forall₂_nil_right_iff] at blocks
    exact ⟨reads.1 (by simp [read]), blocks⟩
  · rintro ⟨noFault, noBlock⟩
    obtain ⟨r, read⟩ := Option.isSome_iff_exists.mp (reads.2 noFault)
    have opened := keeps r read
    rw [noBlock, List.forall₂_nil_left_iff] at opened
    simp [Nested, Stmt.parse, read, opened]

end Reader

end Scan

end PromptPipeline
