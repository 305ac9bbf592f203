import PromptPipeline.Proofs.Compile
/-!
The jump table of a checked workflow.

Every target of a program follows the bracket matching of the workflow's steps: an `if` jumps
past its `yes` branch, an `else` to its `end_if`, a `for_each` past its `end_for_each`, an
`end_for_each` back to the first step of its body, and a `goto` to the one step with its label.
No other step jumps, no jump leaves the program, and the depth of a step is the number of loops
around it.
-/
namespace PromptPipeline

open Stmt

namespace Accepted

variable {w : Workflow} {t : List (Stmt String Step)} {p : Program}

theorem parsed (accepted : Accepted w t p) : parse w.steps = some t :=
  parse_eq_some_iff.2 accepted.written

theorem lt_sizeAll (accepted : Accepted w t p) {k : Nat} {st : Step} (at_ : w.steps[k]? = some st) :
    k < sizeAll t := by
  have bound := (List.getElem?_eq_some_iff.1 at_).1
  rwa [← accepted.written, length_itemsAll] at bound

/-- Whether the step at `k` jumps in the tree is whether it is a mark other than `end_if`. -/
theorem jumpAll_isSome_eq (accepted : Accepted w t p) {k : Nat} {st : Step} (at_ : w.steps[k]? = some st) :
    (jumpAll 0 t k).isSome = Brackets.leads st := by
  have inside := accepted.lt_sizeAll at_
  rw [← accepted.written] at at_
  exact jumpAll_isSome t [] [] k st (by simpa using at_) (by simp) (by simpa using inside)

/-- Where the tree jumps, the program jumps the same way: such a step is a mark, not a `goto`. -/
theorem target_of_jumpAll (accepted : Accepted w t p) {k x : Nat} (jumped : jumpAll 0 t k = some x) :
    p.jumps.getD k none = some x := by
  rw [accepted.marks k fun name atGoto => ?_, jumped]
  have leads := accepted.jumpAll_isSome_eq atGoto
  rw [jumped] at leads
  cases leads

end Accepted

/-- The jump table of a checked workflow against the bracket matching of its steps: the targets
of `if`, `else`, `for_each` and `end_for_each`, of `goto` (the one step with its label), no target
for any other step, every target within the program, and the number of loops around each step. -/
theorem Program.jump_table_of_compile {promptFaults : PromptSpec → List String} {w : Workflow}
    {p : Program} (accepted : Program.compile promptFaults w = .ok p) :
    (∀ i e j, Span.cond i (some e) j ∈ matching w.steps →
        p.jumps.getD i none = some (e + 1) ∧ p.jumps.getD e none = some j) ∧
    (∀ i j, Span.cond i none j ∈ matching w.steps → p.jumps.getD i none = some j) ∧
    (∀ s j, Span.loop s j ∈ matching w.steps →
        p.jumps.getD s none = some (j + 1) ∧ p.jumps.getD j none = some (s + 1)) ∧
    (∀ g name, w.steps[g]? = some (.goto name) → ∃ k, w.steps[k]? = some (.label name) ∧
        (∀ k', w.steps[k']? = some (.label name) → k' = k) ∧ p.jumps.getD g none = some k) ∧
    (∀ k st, w.steps[k]? = some st → Brackets.leads st = false → (∀ name, st ≠ .goto name) →
        p.jumps.getD k none = none) ∧
    (∀ k x, p.jumps.getD k none = some x → x ≤ w.steps.length) ∧
    (∀ k, p.depthAt k = (loopsAround w.steps k).length) := by
  obtain ⟨t, checked⟩ := compile_accepted promptFaults accepted
  have spans := matching_eq checked.parsed
  -- each mark of a block jumps as its span says
  have marked : ∀ sp ∈ matching w.steps, ∀ k x, (k, x) ∈ sp.jumps → p.jumps.getD k none = some x := by
    intro sp member k x jumped
    rw [spans] at member
    exact checked.target_of_jumpAll (jumpAll_of_mem_spans t 0 sp member k x jumped)
  refine ⟨fun i e j member => ⟨marked _ member i (e + 1) (by simp [Span.jumps]),
      marked _ member e j (by simp [Span.jumps])⟩,
    fun i j member => marked _ member i j (by simp [Span.jumps]),
    fun s j member => ⟨marked _ member s (j + 1) (by simp [Span.jumps]),
      marked _ member j (s + 1) (by simp [Span.jumps])⟩,
    fun g name atGoto => ?_, fun k st at_ still notGoto => ?_, fun k x jumped => ?_, fun k => ?_⟩
  · obtain ⟨k, labelled, target, -⟩ := checked.gotos g name atGoto
    exact ⟨k, labelled, fun k' other => checked.labels k' k name other labelled, target⟩
  · rw [checked.marks k fun name atGoto => notGoto name (by rw [at_] at atGoto; cases atGoto; rfl)]
    have none := checked.jumpAll_isSome_eq at_
    rw [still] at none
    exact Option.not_isSome_iff_eq_none.1 (by simp [none])
  · by_cases atGoto : ∃ name, w.steps[k]? = some (.goto name)
    · -- a `goto` jumps to a label, which is a step of the program
      obtain ⟨name, atGoto⟩ := atGoto
      obtain ⟨target, labelled, written, -⟩ := checked.gotos k name atGoto
      rw [written, Option.some.injEq] at jumped
      subst jumped
      exact Nat.le_of_lt (List.getElem?_eq_some_iff.1 labelled).1
    · rw [checked.marks k fun name found => atGoto ⟨name, found⟩] at jumped
      have range := (jumpAll_range t 0 k x jumped).2.2.2
      rwa [Nat.zero_add, ← length_itemsAll, checked.written] at range
  · rw [checked.depth, loopsAround_eq checked.parsed]

/-- An `if` with an `else` and a loop after it: the check accepts them, and their marks jump as
their blocks say. -/
theorem Program.jump_table_of_compile_if_loop : ∃ p, Program.compile PromptSpec.faults
      { name := "w", steps := [.openIf "x", .elseBranch, .closeIf, .openLoop "v" "x", .closeLoop] } = .ok p ∧
    p.jumps.getD 0 none = some 2 ∧ p.jumps.getD 1 none = some 2 ∧
    p.jumps.getD 3 none = some 5 ∧ p.jumps.getD 4 none = some 4 := by
  obtain ⟨p, accepted⟩ := (Program.exists_compile_eq_ok PromptSpec.faults
    { name := "w", steps := [.openIf "x", .elseBranch, .closeIf, .openLoop "v" "x", .closeLoop] }).2
    (List.isEmpty_iff.1 (by decide +kernel))
  obtain ⟨conds, -, loops, -⟩ := Program.jump_table_of_compile accepted
  have blocks : matching [Step.openIf "x", .elseBranch, .closeIf, .openLoop "v" "x", .closeLoop] =
      [.cond 0 (some 1) 2, .loop 3 4] := by
    decide +kernel
  have ifElse := conds 0 1 2 (by rw [blocks]; simp)
  have loop := loops 3 4 (by rw [blocks]; simp)
  exact ⟨p, accepted, ifElse.1, ifElse.2, loop.1, loop.2⟩

end PromptPipeline
