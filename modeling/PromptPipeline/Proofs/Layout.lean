import PromptPipeline.Proofs.Blocks
/-!
Positions in a written block tree.

A tree written from position `pc` puts each block's marks at fixed positions. `spans` lists every
block by those positions: this is the bracket matching of the written list. `jump` gives the
position each mark leads to when its block is skipped, left or repeated, and `stackAt` the loops
open at each position. A jump never changes the open loops (`stackAt_jump`), and each item changes
them as its mark says (`stackAt_succ`).
-/
namespace PromptPipeline

/-- A block by the positions of its marks: an `if` with its `else`, if any, and its `end_if`, or a
`for_each` with its `end_for_each`. -/
inductive Span where
  | cond (start : Nat) (elseAt : Option Nat) (stop : Nat)
  | loop (start stop : Nat)
  deriving DecidableEq

namespace Span

/-- The first position of a block. -/
def start : Span → Nat
  | .cond i .. => i
  | .loop s _ => s

/-- The last position of a block. -/
def stop : Span → Nat
  | .cond _ _ j => j
  | .loop _ j => j

/-- The jumps a block's marks make: an `if` past its `yes` branch, an `else` to the `end_if`, a
`for_each` past its `end_for_each`, and an `end_for_each` back to the first step of the body. -/
def jumps : Span → List (Nat × Nat)
  | .cond i none j => [(i, j)]
  | .cond i (some e) j => [(i, e + 1), (e, j)]
  | .loop s j => [(s, j + 1), (j, s + 1)]

/-- The start of a loop that holds position `k` after its `for_each`. -/
def loopAround (k : Nat) : Span → Option Nat
  | .loop s j => if s < k ∧ k ≤ j then some s else none
  | .cond .. => none

/-- All positions of a block lie in `[pc, pc + n)`. -/
def Within (pc n : Nat) (sp : Span) : Prop :=
  pc ≤ sp.start ∧ sp.stop < pc + n ∧ ∀ k x, (k, x) ∈ sp.jumps → pc ≤ k ∧ k < pc + n

theorem Within.mono {sp : Span} {pc n pc' n' : Nat} (within : sp.Within pc' n') (lower : pc ≤ pc')
    (upper : pc' + n' ≤ pc + n) : sp.Within pc n := by
  obtain ⟨first, last, marks⟩ := within
  refine ⟨by omega, by omega, fun k x jumped => ?_⟩
  have bounds := marks k x jumped
  omega

theorem Within.loop_bounds {s j pc n : Nat} (within : (Span.loop s j).Within pc n) :
    pc ≤ s ∧ s < pc + n ∧ j < pc + n :=
  ⟨within.1, (within.2.2 s (j + 1) (by simp [jumps])).2, within.2.1⟩

/-- A block that lies in `[pc, pc + n)` holds no position outside it. -/
theorem loopAround_eq_none {sp : Span} {pc n k : Nat} (within : sp.Within pc n)
    (outside : k ≤ pc ∨ pc + n ≤ k) : sp.loopAround k = none := by
  obtain ⟨first, last, -⟩ := within
  cases sp with
  | cond => rfl
  | loop s j =>
    simp only [start, stop] at first last
    simp only [loopAround, ite_eq_right_iff, reduceCtorEq, imp_false]
    omega

theorem filterMap_loopAround_eq_nil {spans : List Span} {pc n k : Nat}
    (within : ∀ sp ∈ spans, sp.Within pc n) (outside : k ≤ pc ∨ pc + n ≤ k) :
    spans.filterMap (loopAround k) = [] := by
  rw [List.filterMap_eq_nil_iff]
  intro sp member
  exact loopAround_eq_none (within sp member) outside

theorem mem_filterMap_loopAround {spans : List Span} {pc n k x : Nat}
    (within : ∀ sp ∈ spans, sp.Within pc n) (member : x ∈ spans.filterMap (loopAround k)) :
    pc ≤ x ∧ x < pc + n := by
  obtain ⟨sp, inside, around⟩ := List.mem_filterMap.mp member
  obtain ⟨first, last, -⟩ := within sp inside
  cases sp with
  | cond => cases around
  | loop s j =>
    simp only [loopAround, Option.ite_none_right_eq_some, Option.some.injEq] at around
    simp only [start, stop] at first last
    omega

end Span

open Brackets

section Marks

variable {ε α : Type} [Brackets ε α]

/-- Whether an item is a mark that jumps: any mark but `end_if`. -/
def Brackets.leads (a : α) : Bool :=
  match markOf? a with
  | some .closeIf | none => false
  | some _ => true

/-- The loops open after the item `a` at position `k`, from the loops open before it. -/
def Brackets.loopStep (k : Nat) (loops : List Nat) (a : α) : List Nat :=
  match markOf? a with
  | some (.openLoop ..) => loops ++ [k]
  | some .closeLoop => loops.dropLast
  | _ => loops

/-- The marks of a block stand in `l` at the positions of its span. -/
def Span.Marked (l : List α) : Span → Prop
  | .cond i e j => (∃ c, l[i]? = some (mark (.openIf c))) ∧
      (∀ e' ∈ e, l[e']? = some (mark .elseBranch)) ∧ l[j]? = some (mark .closeIf)
  | .loop s j => (∃ v c, l[s]? = some (mark (.openLoop v c))) ∧ l[j]? = some (mark .closeLoop)

@[simp] theorem Brackets.leads_mark (m : Mark ε) :
    leads (mark m : α) = match m with | .closeIf => false | _ => true := by
  cases m <;> simp [leads, markOf?_mark]

@[simp] theorem Brackets.loopStep_mark (k : Nat) (loops : List Nat) (m : Mark ε) :
    loopStep k loops (mark m : α) =
      match m with | .openLoop .. => loops ++ [k] | .closeLoop => loops.dropLast | _ => loops := by
  cases m <;> simp [loopStep, markOf?_mark]

@[simp] theorem Brackets.mark_inj {m m' : Mark ε} : (mark m : α) = mark m' ↔ m = m' := by
  constructor
  · intro equal
    simpa [markOf?_mark] using congrArg (markOf? (ε := ε)) equal
  · intro equal
    rw [equal]

end Marks

namespace Stmt

variable {ε α : Type} [Brackets ε α]

mutual
/-- The blocks of a tree written from `pc`, each before the blocks inside it. -/
def spans (pc : Nat) : Stmt ε α → List Span
  | .plain .. => []
  | .cond _ yes none => .cond pc none (pc + 1 + sizeAll yes) :: spansAll (pc + 1) yes
  | .cond _ yes (some no) =>
    .cond pc (some (pc + 1 + sizeAll yes)) (pc + 2 + sizeAll yes + sizeAll no) ::
      (spansAll (pc + 1) yes ++ spansAll (pc + 2 + sizeAll yes) no)
  | .loop _ _ body => .loop pc (pc + 1 + sizeAll body) :: spansAll (pc + 1) body
def spansAll (pc : Nat) : List (Stmt ε α) → List Span
  | [] => []
  | b :: bs => spans pc b ++ spansAll (pc + size b) bs
end

mutual
/-- Where the mark at position `k` of a block written from `pc` jumps. -/
def jump (pc : Nat) : Stmt ε α → Nat → Option Nat
  | .plain .., _ => none
  | .cond _ yes none, k => if k = pc then some (pc + 1 + sizeAll yes) else jumpAll (pc + 1) yes k
  | .cond _ yes (some no), k =>
    if k = pc then some (pc + 2 + sizeAll yes)
    else if k = pc + 1 + sizeAll yes then some (pc + 2 + sizeAll yes + sizeAll no)
    else (jumpAll (pc + 1) yes k).or (jumpAll (pc + 2 + sizeAll yes) no k)
  | .loop _ _ body, k =>
    if k = pc then some (pc + 2 + sizeAll body)
    else if k = pc + 1 + sizeAll body then some (pc + 1)
    else jumpAll (pc + 1) body k
def jumpAll (pc : Nat) : List (Stmt ε α) → Nat → Option Nat
  | [], _ => none
  | b :: bs, k => (jump pc b k).or (jumpAll (pc + size b) bs k)
end

mutual
/-- The loops open at position `k` of a block written from `pc` inside the loops `outer`,
outermost first; `outer` before and after the block. -/
def stackAt (pc : Nat) (outer : List Nat) : Stmt ε α → Nat → List Nat
  | .plain .., _ => outer
  | .cond _ yes none, k => if k ≤ pc then outer else stackAtAll (pc + 1) outer yes k
  | .cond _ yes (some no), k =>
    if k ≤ pc then outer
    else if k ≤ pc + 1 + sizeAll yes then stackAtAll (pc + 1) outer yes k
    else stackAtAll (pc + 2 + sizeAll yes) outer no k
  | .loop _ _ body, k =>
    if k ≤ pc ∨ pc + 2 + sizeAll body ≤ k then outer
    else stackAtAll (pc + 1) (outer ++ [pc]) body k
def stackAtAll (pc : Nat) (outer : List Nat) : List (Stmt ε α) → Nat → List Nat
  | [], _ => outer
  | b :: bs, k => if k < pc + size b then stackAt pc outer b k else stackAtAll (pc + size b) outer bs k
end

mutual
theorem jump_outside : ∀ (b : Stmt ε α) (pc k : Nat), k < pc ∨ pc + size b ≤ k → jump pc b k = none
  | .plain .., _, _, _ => rfl
  | .cond _ yes none, pc, k, outside => by
    simp only [size] at outside
    have inner := jumpAll_outside yes (pc + 1) k (by omega)
    have here : k ≠ pc := by omega
    simp [jump, here, inner]
  | .cond _ yes (some no), pc, k, outside => by
    simp only [size] at outside
    have first := jumpAll_outside yes (pc + 1) k (by omega)
    have second := jumpAll_outside no (pc + 2 + sizeAll yes) k (by omega)
    have here : k ≠ pc := by omega
    have atElse : k ≠ pc + 1 + sizeAll yes := by omega
    simp [jump, here, atElse, first, second]
  | .loop _ _ body, pc, k, outside => by
    simp only [size] at outside
    have inner := jumpAll_outside body (pc + 1) k (by omega)
    have here : k ≠ pc := by omega
    have atEnd : k ≠ pc + 1 + sizeAll body := by omega
    simp [jump, here, atEnd, inner]
theorem jumpAll_outside : ∀ (bs : List (Stmt ε α)) (pc k : Nat),
    k < pc ∨ pc + sizeAll bs ≤ k → jumpAll pc bs k = none
  | [], _, _, _ => rfl
  | b :: bs, pc, k, outside => by
    simp only [sizeAll_cons] at outside
    have first := jump_outside b pc k (by omega)
    have rest := jumpAll_outside bs (pc + size b) k (by omega)
    simp [jumpAll, first, rest]
end

mutual
/-- A mark of a block jumps within the block or to the position right after it. -/
theorem jump_range : ∀ (b : Stmt ε α) (pc k x : Nat), jump pc b k = some x →
    pc ≤ k ∧ k < pc + size b ∧ pc < x ∧ x ≤ pc + size b
  | .plain .., _, _, _, jumped => by simp [jump] at jumped
  | .cond _ yes none, pc, k, x, jumped => by
    simp only [jump] at jumped
    split at jumped
    · cases jumped
      simp [size]
      omega
    · have inner := jumpAll_range yes (pc + 1) k x jumped
      simp only [size]
      omega
  | .cond _ yes (some no), pc, k, x, jumped => by
    simp only [jump] at jumped
    split at jumped
    · cases jumped
      simp [size]
      omega
    · split at jumped
      · cases jumped
        simp [size]
        omega
      · rcases Option.or_eq_some_iff.1 jumped with first | ⟨-, second⟩
        · have inner := jumpAll_range yes (pc + 1) k x first
          simp only [size]
          omega
        · have inner := jumpAll_range no (pc + 2 + sizeAll yes) k x second
          simp only [size]
          omega
  | .loop _ _ body, pc, k, x, jumped => by
    simp only [jump] at jumped
    split at jumped
    · cases jumped
      simp [size]
      omega
    · split at jumped
      · cases jumped
        simp [size]
        omega
      · have inner := jumpAll_range body (pc + 1) k x jumped
        simp only [size]
        omega
theorem jumpAll_range : ∀ (bs : List (Stmt ε α)) (pc k x : Nat), jumpAll pc bs k = some x →
    pc ≤ k ∧ k < pc + sizeAll bs ∧ pc < x ∧ x ≤ pc + sizeAll bs
  | [], _, _, _, jumped => by simp [jumpAll] at jumped
  | b :: bs, pc, k, x, jumped => by
    simp only [jumpAll] at jumped
    rcases Option.or_eq_some_iff.1 jumped with first | ⟨-, rest⟩
    · have inner := jump_range b pc k x first
      simp only [sizeAll_cons]
      omega
    · have inner := jumpAll_range bs (pc + size b) k x rest
      simp only [sizeAll_cons]
      omega
end

mutual
theorem stackAt_outside : ∀ (b : Stmt ε α) (pc : Nat) (outer : List Nat) (k : Nat),
    k ≤ pc ∨ pc + size b ≤ k → stackAt pc outer b k = outer
  | .plain .., _, _, _, _ => rfl
  | .cond _ yes none, pc, outer, k, outside => by
    simp only [size] at outside
    have inner := stackAtAll_outside yes (pc + 1) outer k (by omega)
    simp [stackAt, inner]
  | .cond _ yes (some no), pc, outer, k, outside => by
    simp only [size] at outside
    have first := stackAtAll_outside yes (pc + 1) outer k (by omega)
    have second := stackAtAll_outside no (pc + 2 + sizeAll yes) outer k (by omega)
    simp [stackAt, first, second]
  | .loop _ _ body, pc, outer, k, outside => by
    simp only [size] at outside
    have : k ≤ pc ∨ pc + 2 + sizeAll body ≤ k := by omega
    simp [stackAt, this]
theorem stackAtAll_outside : ∀ (bs : List (Stmt ε α)) (pc : Nat) (outer : List Nat) (k : Nat),
    k ≤ pc ∨ pc + sizeAll bs ≤ k → stackAtAll pc outer bs k = outer
  | [], _, _, _, _ => rfl
  | b :: bs, pc, outer, k, outside => by
    simp only [sizeAll_cons] at outside
    have positive := size_pos b
    simp only [stackAtAll]
    split
    · exact stackAt_outside b pc outer k (by omega)
    · exact stackAtAll_outside bs (pc + size b) outer k (by omega)
end

/-- Up to the position after it, a list of blocks has the open loops of its first block. -/
theorem stackAtAll_cons_of_le {b : Stmt ε α} {bs : List (Stmt ε α)} {pc k : Nat} (outer : List Nat)
    (bound : k ≤ pc + size b) : stackAtAll pc outer (b :: bs) k = stackAt pc outer b k := by
  simp only [stackAtAll]
  split
  · rfl
  · rw [stackAtAll_outside bs (pc + size b) outer k (by omega),
      stackAt_outside b pc outer k (by omega)]

mutual
/-- A jump never changes the loops that are open. -/
theorem stackAt_jump : ∀ (b : Stmt ε α) (pc : Nat) (outer : List Nat) (k x : Nat),
    jump pc b k = some x → stackAt pc outer b x = stackAt pc outer b k
  | .plain .., _, _, _, _, jumped => by simp [jump] at jumped
  | .cond _ yes none, pc, outer, k, x, jumped => by
    simp only [jump] at jumped
    split at jumped
    · rename_i here
      cases jumped
      subst k
      have after := stackAtAll_outside yes (pc + 1) outer (pc + 1 + sizeAll yes) (by omega)
      simp [stackAt, after]
    · have inner := jumpAll_range yes (pc + 1) k x jumped
      have same := stackAtAll_jump yes (pc + 1) outer k x jumped
      have jumpedFrom : ¬ k ≤ pc := by omega
      have jumpedTo : ¬ x ≤ pc := by omega
      simp [stackAt, jumpedFrom, jumpedTo, same]
  | .cond _ yes (some no), pc, outer, k, x, jumped => by
    simp only [jump] at jumped
    split at jumped
    · rename_i here
      cases jumped
      subst k
      have start := stackAtAll_outside no (pc + 2 + sizeAll yes) outer (pc + 2 + sizeAll yes) (by omega)
      simp [stackAt, start]
    · split at jumped
      · rename_i here atElse
        cases jumped
        subst atElse
        have afterYes := stackAtAll_outside yes (pc + 1) outer (pc + 1 + sizeAll yes) (by omega)
        have afterNo := stackAtAll_outside no (pc + 2 + sizeAll yes) outer
          (pc + 2 + sizeAll yes + sizeAll no) (by omega)
        have notYes : ¬ pc + 2 + sizeAll yes + sizeAll no ≤ pc + 1 + sizeAll yes := by omega
        simp [stackAt, afterYes, afterNo, notYes]
      · rcases Option.or_eq_some_iff.1 jumped with first | ⟨-, second⟩
        · have inner := jumpAll_range yes (pc + 1) k x first
          have same := stackAtAll_jump yes (pc + 1) outer k x first
          have jumpedFrom : ¬ k ≤ pc ∧ k ≤ pc + 1 + sizeAll yes := by omega
          have jumpedTo : ¬ x ≤ pc ∧ x ≤ pc + 1 + sizeAll yes := by omega
          simp [stackAt, jumpedFrom, jumpedTo, same]
        · have inner := jumpAll_range no (pc + 2 + sizeAll yes) k x second
          have same := stackAtAll_jump no (pc + 2 + sizeAll yes) outer k x second
          have jumpedFrom : ¬ k ≤ pc ∧ ¬ k ≤ pc + 1 + sizeAll yes := by omega
          have jumpedTo : ¬ x ≤ pc ∧ ¬ x ≤ pc + 1 + sizeAll yes := by omega
          simp [stackAt, jumpedFrom, jumpedTo, same]
  | .loop _ _ body, pc, outer, k, x, jumped => by
    simp only [jump] at jumped
    split at jumped
    · rename_i here
      cases jumped
      subst k
      simp [stackAt]
    · split at jumped
      · rename_i here atEnd
        cases jumped
        subst atEnd
        have start := stackAtAll_outside body (pc + 1) (outer ++ [pc]) (pc + 1) (by omega)
        have afterBody := stackAtAll_outside body (pc + 1) (outer ++ [pc]) (pc + 1 + sizeAll body)
          (by omega)
        have inside : ¬ (pc + 1 ≤ pc ∨ pc + 2 + sizeAll body ≤ pc + 1) := by omega
        have inside' : ¬ (pc + 1 + sizeAll body ≤ pc ∨ pc + 2 + sizeAll body ≤ pc + 1 + sizeAll body) := by
          omega
        rw [stackAt, if_neg inside, start, stackAt, if_neg inside', afterBody]
      · have inner := jumpAll_range body (pc + 1) k x jumped
        have same := stackAtAll_jump body (pc + 1) (outer ++ [pc]) k x jumped
        have jumpedFrom : ¬ (k ≤ pc ∨ pc + 2 + sizeAll body ≤ k) := by omega
        have jumpedTo : ¬ (x ≤ pc ∨ pc + 2 + sizeAll body ≤ x) := by omega
        rw [stackAt, if_neg jumpedTo, stackAt, if_neg jumpedFrom, same]
theorem stackAtAll_jump : ∀ (bs : List (Stmt ε α)) (pc : Nat) (outer : List Nat) (k x : Nat),
    jumpAll pc bs k = some x → stackAtAll pc outer bs x = stackAtAll pc outer bs k
  | [], _, _, _, _, jumped => by simp [jumpAll] at jumped
  | b :: bs, pc, outer, k, x, jumped => by
    simp only [jumpAll] at jumped
    rcases Option.or_eq_some_iff.1 jumped with first | ⟨-, rest⟩
    · have inner := jump_range b pc k x first
      rw [stackAtAll_cons_of_le outer inner.2.2.2, stackAtAll_cons_of_le outer (by omega)]
      exact stackAt_jump b pc outer k x first
    · have inner := jumpAll_range bs (pc + size b) k x rest
      have jumpedFrom : ¬ k < pc + size b := by omega
      have jumpedTo : ¬ x < pc + size b := by omega
      simp only [stackAtAll, if_neg jumpedFrom, if_neg jumpedTo]
      exact stackAtAll_jump bs (pc + size b) outer k x rest
end

mutual
theorem spans_within : ∀ (b : Stmt ε α) (pc : Nat), ∀ sp ∈ spans pc b, sp.Within pc (size b)
  | .plain .., _, _, member => by simp [spans] at member
  | .cond _ yes none, pc, sp, member => by
    simp only [spans, List.mem_cons] at member
    rcases member with rfl | inner
    · refine ⟨by simp [Span.start], by simp [Span.stop, size]; omega, ?_⟩
      intro k x jumped
      simp [Span.jumps] at jumped
      simp only [size]
      omega
    · exact (spansAll_within yes (pc + 1) sp inner).mono (by omega) (by simp only [size]; omega)
  | .cond _ yes (some no), pc, sp, member => by
    simp only [spans, List.mem_cons, List.mem_append] at member
    rcases member with rfl | inner | inner
    · refine ⟨by simp [Span.start], by simp [Span.stop, size]; omega, ?_⟩
      intro k x jumped
      simp [Span.jumps] at jumped
      simp only [size]
      omega
    · exact (spansAll_within yes (pc + 1) sp inner).mono (by omega) (by simp only [size]; omega)
    · exact (spansAll_within no (pc + 2 + sizeAll yes) sp inner).mono (by omega)
        (by simp only [size]; omega)
  | .loop _ _ body, pc, sp, member => by
    simp only [spans, List.mem_cons] at member
    rcases member with rfl | inner
    · refine ⟨by simp [Span.start], by simp [Span.stop, size]; omega, ?_⟩
      intro k x jumped
      simp [Span.jumps] at jumped
      simp only [size]
      omega
    · exact (spansAll_within body (pc + 1) sp inner).mono (by omega) (by simp only [size]; omega)
theorem spansAll_within : ∀ (bs : List (Stmt ε α)) (pc : Nat), ∀ sp ∈ spansAll pc bs,
    sp.Within pc (sizeAll bs)
  | [], _, _, member => by simp [spansAll] at member
  | b :: bs, pc, sp, member => by
    simp only [spansAll, List.mem_append] at member
    rcases member with first | rest
    · exact (spans_within b pc sp first).mono (by omega) (by simp)
    · exact (spansAll_within bs (pc + size b) sp rest).mono (by omega) (by simp; omega)
end

mutual
/-- Each mark of a block jumps as its span says. -/
theorem jump_of_mem_spans : ∀ (b : Stmt ε α) (pc : Nat), ∀ sp ∈ spans pc b, ∀ k x,
    (k, x) ∈ sp.jumps → jump pc b k = some x
  | .plain .., _, _, member, _, _, _ => by simp [spans] at member
  | .cond _ yes none, pc, sp, member, k, x, jumped => by
    simp only [spans, List.mem_cons] at member
    rcases member with rfl | inner
    · simp only [Span.jumps, List.mem_singleton, Prod.mk.injEq] at jumped
      obtain ⟨rfl, rfl⟩ := jumped
      simp [jump]
    · have bounds := (spansAll_within yes (pc + 1) sp inner).2.2 k x jumped
      have here : k ≠ pc := by omega
      simp [jump, here, jumpAll_of_mem_spans yes (pc + 1) sp inner k x jumped]
  | .cond _ yes (some no), pc, sp, member, k, x, jumped => by
    simp only [spans, List.mem_cons, List.mem_append] at member
    rcases member with rfl | inner | inner
    · simp only [Span.jumps, List.mem_cons, Prod.mk.injEq, List.not_mem_nil, or_false] at jumped
      rcases jumped with ⟨rfl, rfl⟩ | ⟨rfl, rfl⟩
      · simp [jump]
        omega
      · simp [jump]
        omega
    · have bounds := (spansAll_within yes (pc + 1) sp inner).2.2 k x jumped
      have here : k ≠ pc := by omega
      have atElse : k ≠ pc + 1 + sizeAll yes := by omega
      simp [jump, here, atElse, jumpAll_of_mem_spans yes (pc + 1) sp inner k x jumped]
    · have bounds := (spansAll_within no (pc + 2 + sizeAll yes) sp inner).2.2 k x jumped
      have here : k ≠ pc := by omega
      have atElse : k ≠ pc + 1 + sizeAll yes := by omega
      have notYes := jumpAll_outside yes (pc + 1) k (by omega)
      simp [jump, here, atElse, notYes,
        jumpAll_of_mem_spans no (pc + 2 + sizeAll yes) sp inner k x jumped]
  | .loop _ _ body, pc, sp, member, k, x, jumped => by
    simp only [spans, List.mem_cons] at member
    rcases member with rfl | inner
    · simp only [Span.jumps, List.mem_cons, Prod.mk.injEq, List.not_mem_nil, or_false] at jumped
      rcases jumped with ⟨rfl, rfl⟩ | ⟨rfl, rfl⟩
      · simp [jump]
        omega
      · simp [jump]
        omega
    · have bounds := (spansAll_within body (pc + 1) sp inner).2.2 k x jumped
      have here : k ≠ pc := by omega
      have atEnd : k ≠ pc + 1 + sizeAll body := by omega
      simp [jump, here, atEnd, jumpAll_of_mem_spans body (pc + 1) sp inner k x jumped]
theorem jumpAll_of_mem_spans : ∀ (bs : List (Stmt ε α)) (pc : Nat), ∀ sp ∈ spansAll pc bs, ∀ k x,
    (k, x) ∈ sp.jumps → jumpAll pc bs k = some x
  | [], _, _, member, _, _, _ => by simp [spansAll] at member
  | b :: bs, pc, sp, member, k, x, jumped => by
    simp only [spansAll, List.mem_append] at member
    rcases member with first | rest
    · simp [jumpAll, jump_of_mem_spans b pc sp first k x jumped]
    · have bounds := (spansAll_within bs (pc + size b) sp rest).2.2 k x jumped
      have notFirst := jump_outside b pc k (by omega)
      simp [jumpAll, notFirst, jumpAll_of_mem_spans bs (pc + size b) sp rest k x jumped]
end

mutual
/-- The loops open at a position are the loop spans around it, outermost first. -/
theorem stackAt_eq : ∀ (b : Stmt ε α) (pc : Nat) (outer : List Nat) (k : Nat),
    stackAt pc outer b k = outer ++ (spans pc b).filterMap (Span.loopAround k)
  | .plain .., _, _, _ => by simp [stackAt, spans]
  | .cond _ yes none, pc, outer, k => by
    simp only [stackAt, spans, List.filterMap_cons, Span.loopAround]
    split
    · rw [Span.filterMap_loopAround_eq_nil (spansAll_within yes (pc + 1)) (by omega)]
      simp
    · exact stackAtAll_eq yes (pc + 1) outer k
  | .cond _ yes (some no), pc, outer, k => by
    simp only [stackAt, spans, List.filterMap_cons, Span.loopAround, List.filterMap_append]
    have inYes := spansAll_within yes (pc + 1)
    have inNo := spansAll_within no (pc + 2 + sizeAll yes)
    split
    · rw [Span.filterMap_loopAround_eq_nil inYes (by omega),
        Span.filterMap_loopAround_eq_nil inNo (by omega)]
      simp
    · split
      · rw [Span.filterMap_loopAround_eq_nil inNo (by omega), stackAtAll_eq yes (pc + 1) outer k]
        simp
      · rw [Span.filterMap_loopAround_eq_nil inYes (by omega), stackAtAll_eq no _ outer k]
        simp
  | .loop _ _ body, pc, outer, k => by
    simp only [stackAt, spans, List.filterMap_cons, Span.loopAround]
    have inBody := spansAll_within body (pc + 1)
    split
    · have notAround : ¬ (pc < k ∧ k ≤ pc + 1 + sizeAll body) := by omega
      rw [if_neg notAround, Span.filterMap_loopAround_eq_nil inBody (by omega)]
      simp
    · have around : pc < k ∧ k ≤ pc + 1 + sizeAll body := by omega
      rw [if_pos around, stackAtAll_eq body (pc + 1) (outer ++ [pc]) k]
      simp
theorem stackAtAll_eq : ∀ (bs : List (Stmt ε α)) (pc : Nat) (outer : List Nat) (k : Nat),
    stackAtAll pc outer bs k = outer ++ (spansAll pc bs).filterMap (Span.loopAround k)
  | [], _, _, _ => by simp [stackAtAll, spansAll]
  | b :: bs, pc, outer, k => by
    simp only [stackAtAll, spansAll, List.filterMap_append]
    split
    · rw [Span.filterMap_loopAround_eq_nil (spansAll_within bs (pc + size b)) (by omega),
        stackAt_eq b pc outer k]
      simp
    · rw [Span.filterMap_loopAround_eq_nil (spans_within b pc) (by omega),
        stackAtAll_eq bs (pc + size b) outer k]
      simp
end

/-- Loops of one part of the text, after the outer loops, that another part holds none of: when
the other stack holds them all, there are none. -/
private theorem prefix_of_apart {outer inner other : List Nat} {lo hi : Nat}
    (below : ∀ x ∈ outer, x < lo) (inside : ∀ x ∈ inner, lo ≤ x ∧ x < hi)
    (outside : ∀ x ∈ other, x < lo ∨ hi ≤ x)
    (subset : ∀ x ∈ outer ++ inner, x ∈ outer ++ other) : outer ++ inner <+: outer ++ other := by
  have empty : inner = [] := List.eq_nil_iff_forall_not_mem.2 fun x member => by
    have bounds := inside x member
    have held := subset x (by simp [member])
    rw [List.mem_append] at held
    rcases held with held | held
    · have := below x held
      omega
    · have := outside x held
      omega
  subst empty
  simp

mutual
/-- When every loop open at `k` is open at `g`, the loops open at `k` are the outermost loops open
at `g`. -/
theorem stackAt_prefix : ∀ (b : Stmt ε α) (pc : Nat) (outer : List Nat) (k g : Nat),
    (∀ x ∈ outer, x < pc) → (∀ x ∈ stackAt pc outer b k, x ∈ stackAt pc outer b g) →
    stackAt pc outer b k <+: stackAt pc outer b g
  | .plain .., _, _, _, _, _, _ => by simp [stackAt]
  | .cond c yes none, pc, outer, k, g, below, subset => by
    -- before its branch an `if` holds the outer loops, as its branch does outside itself
    have branch : ∀ k, stackAt pc outer (.cond c yes none) k = stackAtAll (pc + 1) outer yes k := by
      intro k
      simp only [stackAt]
      split
      · rw [stackAtAll_outside yes (pc + 1) outer k (by omega)]
      · rfl
    rw [branch, branch] at subset ⊢
    exact stackAtAll_prefix yes (pc + 1) outer k g (fun x member => by have := below x member; omega) subset
  | .cond c yes (some no), pc, outer, k, g, below, subset => by
    have branches : ∀ k, stackAt pc outer (.cond c yes (some no)) k =
        if k ≤ pc + 1 + sizeAll yes then stackAtAll (pc + 1) outer yes k
        else stackAtAll (pc + 2 + sizeAll yes) outer no k := by
      intro k
      simp only [stackAt]
      split
      · rw [if_pos (by omega), stackAtAll_outside yes (pc + 1) outer k (by omega)]
      · rfl
    have aboveYes : ∀ x ∈ outer, x < pc + 1 := fun x member => by have := below x member; omega
    have aboveNo : ∀ x ∈ outer, x < pc + 2 + sizeAll yes := fun x member => by have := below x member; omega
    have inYes : ∀ k, ∀ x ∈ (spansAll (pc + 1) yes).filterMap (Span.loopAround k),
        pc + 1 ≤ x ∧ x < pc + 1 + sizeAll yes :=
      fun k x member => Span.mem_filterMap_loopAround (spansAll_within yes (pc + 1)) member
    have inNo : ∀ k, ∀ x ∈ (spansAll (pc + 2 + sizeAll yes) no).filterMap (Span.loopAround k),
        pc + 2 + sizeAll yes ≤ x ∧ x < pc + 2 + sizeAll yes + sizeAll no :=
      fun k x member => Span.mem_filterMap_loopAround (spansAll_within no _) member
    rw [branches, branches] at subset ⊢
    by_cases atK : k ≤ pc + 1 + sizeAll yes <;> by_cases atG : g ≤ pc + 1 + sizeAll yes
    · rw [if_pos atK, if_pos atG] at subset ⊢
      exact stackAtAll_prefix yes (pc + 1) outer k g aboveYes subset
    · -- `k` in the `yes` branch and `g` in the `no` branch share only the outer loops
      rw [if_pos atK, if_neg atG, stackAtAll_eq, stackAtAll_eq] at subset ⊢
      exact prefix_of_apart aboveYes (inYes k)
        (fun x held => .inr (by have := (inNo g x held).1; omega)) subset
    · rw [if_neg atK, if_pos atG, stackAtAll_eq, stackAtAll_eq] at subset ⊢
      exact prefix_of_apart aboveNo (inNo k)
        (fun x held => .inl (by have := (inYes g x held).2; omega)) subset
    · rw [if_neg atK, if_neg atG] at subset ⊢
      exact stackAtAll_prefix no _ outer k g aboveNo subset
  | .loop v c body, pc, outer, k, g, below, subset => by
    simp only [stackAt] at subset ⊢
    by_cases outK : k ≤ pc ∨ pc + 2 + sizeAll body ≤ k
    · -- outside the loop only the outer loops are open
      rw [if_pos outK]
      split
      · exact List.prefix_refl outer
      · rw [stackAtAll_eq, List.append_assoc]
        exact List.prefix_append outer _
    · rw [if_neg outK] at subset ⊢
      by_cases outG : g ≤ pc ∨ pc + 2 + sizeAll body ≤ g
      · -- the loop itself is open at `k` but not at `g`
        rw [if_pos outG] at subset
        have held := subset pc (by rw [stackAtAll_eq]; simp)
        have := below pc held
        omega
      · rw [if_neg outG] at subset ⊢
        refine stackAtAll_prefix body (pc + 1) (outer ++ [pc]) k g (fun x member => ?_) subset
        rw [List.mem_append, List.mem_singleton] at member
        rcases member with held | rfl
        · have := below x held
          omega
        · omega
theorem stackAtAll_prefix : ∀ (bs : List (Stmt ε α)) (pc : Nat) (outer : List Nat) (k g : Nat),
    (∀ x ∈ outer, x < pc) → (∀ x ∈ stackAtAll pc outer bs k, x ∈ stackAtAll pc outer bs g) →
    stackAtAll pc outer bs k <+: stackAtAll pc outer bs g
  | [], _, _, _, _, _, _ => by simp [stackAtAll]
  | b :: bs, pc, outer, k, g, below, subset => by
    have inFirst : ∀ k, ∀ x ∈ (spans pc b).filterMap (Span.loopAround k), pc ≤ x ∧ x < pc + size b :=
      fun k x member => Span.mem_filterMap_loopAround (spans_within b pc) member
    have inRest : ∀ k, ∀ x ∈ (spansAll (pc + size b) bs).filterMap (Span.loopAround k),
        pc + size b ≤ x ∧ x < pc + size b + sizeAll bs :=
      fun k x member => Span.mem_filterMap_loopAround (spansAll_within bs _) member
    have aboveRest : ∀ x ∈ outer, x < pc + size b := fun x member => by have := below x member; omega
    simp only [stackAtAll] at subset ⊢
    by_cases atK : k < pc + size b <;> by_cases atG : g < pc + size b
    · rw [if_pos atK, if_pos atG] at subset ⊢
      exact stackAt_prefix b pc outer k g below subset
    · -- positions in two different blocks share only the outer loops
      rw [if_pos atK, if_neg atG, stackAt_eq, stackAtAll_eq] at subset ⊢
      exact prefix_of_apart below (inFirst k) (fun x held => .inr (inRest g x held).1) subset
    · rw [if_neg atK, if_pos atG, stackAtAll_eq, stackAt_eq] at subset ⊢
      exact prefix_of_apart aboveRest (inRest k) (fun x held => .inl (inFirst g x held).2) subset
    · rw [if_neg atK, if_neg atG] at subset ⊢
      exact stackAtAll_prefix bs _ outer k g aboveRest subset
end

/-- Regrouping a written list keeps what stands at each position. -/
private theorem regroup {β : Type} {l l' : List β} {k : Nat} {a : β} (same : l = l')
    (found : l[k]? = some a) : l'[k]? = some a :=
  same ▸ found

private theorem item_at {β : Type} {l r : List β} {x a : β} {k : Nat} (length : l.length = k)
    (found : (l ++ x :: r)[k]? = some a) : a = x := by
  subst length
  simpa using found.symm

/-! Where a position of a written block falls: at one of its marks, or inside one of its bodies,
where it is a position of the body written after what comes before it. -/

theorem position_plain {x : α} {unmarked : markOf? x = none} {pre post : List α} {k : Nat} {a : α}
    (found : (pre ++ items (.plain x unmarked : Stmt ε α) ++ post)[k]? = some a)
    (lower : pre.length ≤ k) (upper : k < pre.length + size (.plain x unmarked : Stmt ε α)) :
    k = pre.length ∧ a = x := by
  simp only [size] at upper
  have here : k = pre.length := by omega
  exact ⟨here, item_at here.symm (by simpa [items] using found)⟩

theorem position_cond {c : ε} {yes : List (Stmt ε α)} {pre post : List α} {k : Nat} {a : α}
    (found : (pre ++ items (.cond c yes none) ++ post)[k]? = some a) (lower : pre.length ≤ k)
    (upper : k < pre.length + size (.cond c yes none)) :
    (k = pre.length ∧ a = mark (.openIf c)) ∨
    ((pre ++ [mark (.openIf c)] ++ itemsAll yes ++ ([mark .closeIf] ++ post))[k]? = some a ∧
      pre.length < k ∧ k < pre.length + 1 + sizeAll yes) ∨
    (k = pre.length + 1 + sizeAll yes ∧ a = mark .closeIf) := by
  simp only [size] at upper
  rcases Nat.lt_or_ge k (pre.length + 1) with atIf | past
  · have here : k = pre.length := by omega
    exact .inl ⟨here, item_at here.symm (by simpa [items] using found)⟩
  rcases Nat.lt_or_ge k (pre.length + 1 + sizeAll yes) with inYes | atEnd
  · exact .inr (.inl ⟨regroup (by simp [items]) found, by omega, inYes⟩)
  · have here : k = pre.length + 1 + sizeAll yes := by omega
    refine .inr (.inr ⟨here, item_at (l := pre ++ mark (.openIf c) :: itemsAll yes) ?_
      (by simpa [items] using found)⟩)
    simp [length_itemsAll]
    omega

/-- The `else` branch of a written block starts after its `if`, its first branch and its `else`. -/
theorem length_beforeElse (pre : List α) (c : ε) (yes : List (Stmt ε α)) :
    (pre ++ mark (.openIf c) :: itemsAll yes ++ [mark .elseBranch]).length =
      pre.length + 2 + sizeAll yes := by
  simp [length_itemsAll]
  omega

theorem position_condElse {c : ε} {yes no : List (Stmt ε α)} {pre post : List α} {k : Nat} {a : α}
    (found : (pre ++ items (.cond c yes (some no)) ++ post)[k]? = some a) (lower : pre.length ≤ k)
    (upper : k < pre.length + size (.cond c yes (some no))) :
    (k = pre.length ∧ a = mark (.openIf c)) ∨
    ((pre ++ [mark (.openIf c)] ++ itemsAll yes ++
        (mark .elseBranch :: itemsAll no ++ [mark .closeIf] ++ post))[k]? = some a ∧
      pre.length < k ∧ k < pre.length + 1 + sizeAll yes) ∨
    (k = pre.length + 1 + sizeAll yes ∧ a = mark .elseBranch) ∨
    ((pre ++ mark (.openIf c) :: itemsAll yes ++ [mark .elseBranch] ++ itemsAll no ++
        ([mark .closeIf] ++ post))[k]? = some a ∧
      pre.length + 1 + sizeAll yes < k ∧ k < pre.length + 2 + sizeAll yes + sizeAll no) ∨
    (k = pre.length + 2 + sizeAll yes + sizeAll no ∧ a = mark .closeIf) := by
  simp only [size] at upper
  rcases Nat.lt_or_ge k (pre.length + 1) with atIf | past
  · have here : k = pre.length := by omega
    exact .inl ⟨here, item_at here.symm (by simpa [items] using found)⟩
  rcases Nat.lt_or_ge k (pre.length + 1 + sizeAll yes) with inYes | afterYes
  · exact .inr (.inl ⟨regroup (by simp [items]) found, by omega, inYes⟩)
  rcases Nat.lt_or_ge k (pre.length + 2 + sizeAll yes) with atElse | inNo
  · have here : k = pre.length + 1 + sizeAll yes := by omega
    refine .inr (.inr (.inl ⟨here, item_at (l := pre ++ mark (.openIf c) :: itemsAll yes) ?_
      (by simpa [items] using found)⟩))
    simp [length_itemsAll]
    omega
  rcases Nat.lt_or_ge k (pre.length + 2 + sizeAll yes + sizeAll no) with inNo | atEnd
  · exact .inr (.inr (.inr (.inl ⟨regroup (by simp [items]) found, by omega, inNo⟩)))
  · have here : k = pre.length + 2 + sizeAll yes + sizeAll no := by omega
    refine .inr (.inr (.inr (.inr ⟨here, item_at
      (l := pre ++ mark (.openIf c) :: itemsAll yes ++ mark .elseBranch :: itemsAll no) ?_
      (by simpa [items] using found)⟩)))
    simp [length_itemsAll]
    omega

theorem position_loop {v : String} {c : ε} {body : List (Stmt ε α)} {pre post : List α} {k : Nat}
    {a : α} (found : (pre ++ items (.loop v c body) ++ post)[k]? = some a) (lower : pre.length ≤ k)
    (upper : k < pre.length + size (.loop v c body)) :
    (k = pre.length ∧ a = mark (.openLoop v c)) ∨
    ((pre ++ [mark (.openLoop v c)] ++ itemsAll body ++ ([mark .closeLoop] ++ post))[k]? = some a ∧
      pre.length < k ∧ k < pre.length + 1 + sizeAll body) ∨
    (k = pre.length + 1 + sizeAll body ∧ a = mark .closeLoop) := by
  simp only [size] at upper
  rcases Nat.lt_or_ge k (pre.length + 1) with atLoop | past
  · have here : k = pre.length := by omega
    exact .inl ⟨here, item_at here.symm (by simpa [items] using found)⟩
  rcases Nat.lt_or_ge k (pre.length + 1 + sizeAll body) with inBody | atEnd
  · exact .inr (.inl ⟨regroup (by simp [items]) found, by omega, inBody⟩)
  · have here : k = pre.length + 1 + sizeAll body := by omega
    refine .inr (.inr ⟨here, item_at (l := pre ++ mark (.openLoop v c) :: itemsAll body) ?_
      (by simpa [items] using found)⟩)
    simp [length_itemsAll]
    omega

mutual
/-- Each item changes the open loops as its mark says. -/
theorem stackAt_succ : ∀ (b : Stmt ε α) (pre post : List α) (outer : List Nat) (k : Nat) (a : α),
    (pre ++ items b ++ post)[k]? = some a → pre.length ≤ k → k < pre.length + size b →
    stackAt pre.length outer b (k + 1) = loopStep k (stackAt pre.length outer b k) a
  | .plain x unmarked, pre, post, outer, k, a, found, lower, upper => by
    obtain ⟨-, rfl⟩ := position_plain found lower upper
    simp [stackAt, loopStep, unmarked]
  | .cond c yes none, pre, post, outer, k, a, found, lower, upper => by
    rcases position_cond found lower upper with ⟨here, rfl⟩ | ⟨inYes, after, before⟩ | ⟨here, rfl⟩
    · have start := stackAtAll_outside yes (pre.length + 1) outer (k + 1) (by omega)
      have notAfter : ¬ k + 1 ≤ pre.length := by omega
      have atIf : k ≤ pre.length := by omega
      simp [stackAt, start, notAfter, atIf]
    · have inner := stackAtAll_succ yes (pre ++ [mark (.openIf c)]) ([mark .closeIf] ++ post) outer
        k a inYes (by simp; omega) (by simp; omega)
      simp only [List.length_append, List.length_singleton] at inner
      have notBefore : ¬ k ≤ pre.length := by omega
      have notBefore' : ¬ k + 1 ≤ pre.length := by omega
      simp only [stackAt, if_neg notBefore, if_neg notBefore', inner]
    · have notBefore : ¬ k ≤ pre.length := by omega
      have notBefore' : ¬ k + 1 ≤ pre.length := by omega
      have afterYes := stackAtAll_outside yes (pre.length + 1) outer k (by omega)
      have afterYes' := stackAtAll_outside yes (pre.length + 1) outer (k + 1) (by omega)
      simp [stackAt, notBefore, notBefore', afterYes, afterYes']
  | .cond c yes (some no), pre, post, outer, k, a, found, lower, upper => by
    rcases position_condElse found lower upper with
      ⟨here, rfl⟩ | ⟨inYes, after, before⟩ | ⟨here, rfl⟩ | ⟨inNo, after, before⟩ | ⟨here, rfl⟩
    · have start := stackAtAll_outside yes (pre.length + 1) outer (k + 1) (by omega)
      have notAfter : ¬ k + 1 ≤ pre.length := by omega
      have atIf : k ≤ pre.length := by omega
      have inYes : k + 1 ≤ pre.length + 1 + sizeAll yes := by omega
      simp [stackAt, start, notAfter, atIf, inYes]
    · have inner := stackAtAll_succ yes (pre ++ [mark (.openIf c)])
        (mark .elseBranch :: itemsAll no ++ [mark .closeIf] ++ post) outer k a inYes
        (by simp; omega) (by simp; omega)
      simp only [List.length_append, List.length_singleton] at inner
      have notBefore : ¬ k ≤ pre.length := by omega
      have notBefore' : ¬ k + 1 ≤ pre.length := by omega
      have within : k ≤ pre.length + 1 + sizeAll yes := by omega
      have within' : k + 1 ≤ pre.length + 1 + sizeAll yes := by omega
      simp only [stackAt, if_neg notBefore, if_neg notBefore', if_pos within, if_pos within', inner]
    · have notBefore : ¬ k ≤ pre.length := by omega
      have notBefore' : ¬ k + 1 ≤ pre.length := by omega
      have endYes := stackAtAll_outside yes (pre.length + 1) outer k (by omega)
      have startNo := stackAtAll_outside no (pre.length + 2 + sizeAll yes) outer (k + 1) (by omega)
      have within : k ≤ pre.length + 1 + sizeAll yes := by omega
      have notWithin : ¬ k + 1 ≤ pre.length + 1 + sizeAll yes := by omega
      simp [stackAt, notBefore, notBefore', within, notWithin, endYes, startNo]
    · have shift := length_beforeElse pre c yes
      have inner := stackAtAll_succ no (pre ++ mark (.openIf c) :: itemsAll yes ++ [mark .elseBranch])
        ([mark .closeIf] ++ post) outer k a inNo (by omega) (by omega)
      rw [shift] at inner
      have notBefore : ¬ k ≤ pre.length := by omega
      have notBefore' : ¬ k + 1 ≤ pre.length := by omega
      have notYes : ¬ k ≤ pre.length + 1 + sizeAll yes := by omega
      have notYes' : ¬ k + 1 ≤ pre.length + 1 + sizeAll yes := by omega
      simp only [stackAt, if_neg notBefore, if_neg notBefore', if_neg notYes, if_neg notYes', inner]
    · have notBefore : ¬ k ≤ pre.length := by omega
      have notBefore' : ¬ k + 1 ≤ pre.length := by omega
      have notYes : ¬ k ≤ pre.length + 1 + sizeAll yes := by omega
      have notYes' : ¬ k + 1 ≤ pre.length + 1 + sizeAll yes := by omega
      have endNo := stackAtAll_outside no (pre.length + 2 + sizeAll yes) outer k (by omega)
      have endNo' := stackAtAll_outside no (pre.length + 2 + sizeAll yes) outer (k + 1) (by omega)
      simp [stackAt, notBefore, notBefore', notYes, notYes', endNo, endNo']
  | .loop v c body, pre, post, outer, k, a, found, lower, upper => by
    rcases position_loop found lower upper with ⟨here, rfl⟩ | ⟨inBody, after, before⟩ | ⟨here, rfl⟩
    · subst here
      have start := stackAtAll_outside body (pre.length + 1) (outer ++ [pre.length]) (pre.length + 1)
        (by omega)
      have inside : ¬ (pre.length + 1 ≤ pre.length ∨ pre.length + 2 + sizeAll body ≤ pre.length + 1) := by
        omega
      have atStart : pre.length ≤ pre.length ∨ pre.length + 2 + sizeAll body ≤ pre.length :=
        Or.inl (Nat.le_refl _)
      simp only [stackAt, if_neg inside, if_pos atStart, start, Brackets.loopStep_mark]
    · have inner := stackAtAll_succ body (pre ++ [mark (.openLoop v c)]) ([mark .closeLoop] ++ post)
        (outer ++ [pre.length]) k a inBody (by simp; omega) (by simp; omega)
      simp only [List.length_append, List.length_singleton] at inner
      have inside : ¬ (k ≤ pre.length ∨ pre.length + 2 + sizeAll body ≤ k) := by omega
      have inside' : ¬ (k + 1 ≤ pre.length ∨ pre.length + 2 + sizeAll body ≤ k + 1) := by omega
      simp only [stackAt, if_neg inside, if_neg inside', inner]
    · have endBody := stackAtAll_outside body (pre.length + 1) (outer ++ [pre.length]) k (by omega)
      have inside : ¬ (k ≤ pre.length ∨ pre.length + 2 + sizeAll body ≤ k) := by omega
      have leaving : k + 1 ≤ pre.length ∨ pre.length + 2 + sizeAll body ≤ k + 1 := by omega
      simp only [stackAt, if_neg inside, if_pos leaving, endBody, Brackets.loopStep_mark,
        List.dropLast_concat]
theorem stackAtAll_succ : ∀ (bs : List (Stmt ε α)) (pre post : List α) (outer : List Nat) (k : Nat)
    (a : α), (pre ++ itemsAll bs ++ post)[k]? = some a → pre.length ≤ k →
    k < pre.length + sizeAll bs →
    stackAtAll pre.length outer bs (k + 1) = loopStep k (stackAtAll pre.length outer bs k) a
  | [], _, _, _, _, _, _, lower, upper => by simp at upper; omega
  | b :: bs, pre, post, outer, k, a, found, lower, upper => by
    simp only [sizeAll_cons] at upper
    rcases Nat.lt_or_ge k (pre.length + size b) with inFirst | inRest
    · have inner := stackAt_succ b pre (itemsAll bs ++ post) outer k a (regroup (by simp) found) lower
        inFirst
      rw [stackAtAll_cons_of_le outer (by omega), stackAtAll_cons_of_le outer (by omega), inner]
    · have inner := stackAtAll_succ bs (pre ++ items b) post outer k a (regroup (by simp) found)
        (by simp [length_items]; omega) (by simp [length_items]; omega)
      simp only [List.length_append, length_items] at inner
      have notFirst : ¬ k < pre.length + size b := by omega
      have notFirst' : ¬ k + 1 < pre.length + size b := by omega
      simp only [stackAtAll, if_neg notFirst, if_neg notFirst', inner]
end

mutual
/-- An `end_for_each` ends a loop of the tree, which is open at it on top of the loops open at its
`for_each`. -/
theorem stackAt_closeLoop : ∀ (b : Stmt ε α) (pre post : List α) (outer : List Nat) (k : Nat),
    (pre ++ items b ++ post)[k]? = some (mark .closeLoop) → pre.length ≤ k → k < pre.length + size b →
    ∃ s, Span.loop s k ∈ spans pre.length b ∧
      stackAt pre.length outer b k = stackAt pre.length outer b s ++ [s]
  | .plain x unmarked, pre, post, outer, k, found, lower, upper => by
    obtain ⟨-, equal⟩ := position_plain found lower upper
    rw [← equal, markOf?_mark] at unmarked
    cases unmarked
  | .cond c yes none, pre, post, outer, k, found, lower, upper => by
    -- the marks of an `if` are no `end_for_each`: the loop lies in its branch
    rcases position_cond found lower upper with ⟨-, equal⟩ | ⟨inYes, after, before⟩ | ⟨-, equal⟩
    · simp at equal
    · obtain ⟨s, member, stack⟩ := stackAtAll_closeLoop yes (pre ++ [mark (.openIf c)])
        ([mark .closeIf] ++ post) outer k inYes (by simp; omega) (by simp; omega)
      simp only [List.length_append, List.length_singleton] at member stack
      have start : pre.length + 1 ≤ s := (spansAll_within yes (pre.length + 1) _ member).1
      have notBefore : ¬ k ≤ pre.length := by omega
      have notBefore' : ¬ s ≤ pre.length := by omega
      refine ⟨s, List.mem_cons_of_mem _ member, ?_⟩
      simp only [stackAt, if_neg notBefore, if_neg notBefore', stack]
    · simp at equal
  | .cond c yes (some no), pre, post, outer, k, found, lower, upper => by
    rcases position_condElse found lower upper with
      ⟨-, equal⟩ | ⟨inYes, after, before⟩ | ⟨-, equal⟩ | ⟨inNo, after, before⟩ | ⟨-, equal⟩
    · simp at equal
    · obtain ⟨s, member, stack⟩ := stackAtAll_closeLoop yes (pre ++ [mark (.openIf c)])
        (mark .elseBranch :: itemsAll no ++ [mark .closeIf] ++ post) outer k inYes
        (by simp; omega) (by simp; omega)
      simp only [List.length_append, List.length_singleton] at member stack
      have bounds := (spansAll_within yes (pre.length + 1) _ member).loop_bounds
      have notBefore : ¬ k ≤ pre.length := by omega
      have notBefore' : ¬ s ≤ pre.length := by omega
      have within : k ≤ pre.length + 1 + sizeAll yes := by omega
      have within' : s ≤ pre.length + 1 + sizeAll yes := by omega
      refine ⟨s, List.mem_cons_of_mem _ (List.mem_append_left _ member), ?_⟩
      simp only [stackAt, if_neg notBefore, if_neg notBefore', if_pos within, if_pos within', stack]
    · simp at equal
    · have shift := length_beforeElse pre c yes
      obtain ⟨s, member, stack⟩ := stackAtAll_closeLoop no
        (pre ++ mark (.openIf c) :: itemsAll yes ++ [mark .elseBranch]) ([mark .closeIf] ++ post) outer k
        inNo (by omega) (by omega)
      rw [shift] at member stack
      have start : pre.length + 2 + sizeAll yes ≤ s := (spansAll_within no _ _ member).1
      have notBefore : ¬ k ≤ pre.length := by omega
      have notBefore' : ¬ s ≤ pre.length := by omega
      have notYes : ¬ k ≤ pre.length + 1 + sizeAll yes := by omega
      have notYes' : ¬ s ≤ pre.length + 1 + sizeAll yes := by omega
      refine ⟨s, List.mem_cons_of_mem _ (List.mem_append_right _ member), ?_⟩
      simp only [stackAt, if_neg notBefore, if_neg notBefore', if_neg notYes, if_neg notYes', stack]
    · simp at equal
  | .loop v c body, pre, post, outer, k, found, lower, upper => by
    rcases position_loop found lower upper with ⟨-, equal⟩ | ⟨inBody, after, before⟩ | ⟨here, -⟩
    · simp at equal
    · obtain ⟨s, member, stack⟩ := stackAtAll_closeLoop body (pre ++ [mark (.openLoop v c)])
        ([mark .closeLoop] ++ post) (outer ++ [pre.length]) k inBody (by simp; omega) (by simp; omega)
      simp only [List.length_append, List.length_singleton] at member stack
      have bounds := (spansAll_within body (pre.length + 1) _ member).loop_bounds
      have inside : ¬ (k ≤ pre.length ∨ pre.length + 2 + sizeAll body ≤ k) := by omega
      have inside' : ¬ (s ≤ pre.length ∨ pre.length + 2 + sizeAll body ≤ s) := by omega
      refine ⟨s, List.mem_cons_of_mem _ member, ?_⟩
      simp only [stackAt, if_neg inside, if_neg inside', stack]
    · -- the `end_for_each` of this loop: its own loop is open there, on top of `outer`
      subst here
      have endBody := stackAtAll_outside body (pre.length + 1) (outer ++ [pre.length])
        (pre.length + 1 + sizeAll body) (by omega)
      have inside : ¬ (pre.length + 1 + sizeAll body ≤ pre.length ∨
          pre.length + 2 + sizeAll body ≤ pre.length + 1 + sizeAll body) := by omega
      have atStart : pre.length ≤ pre.length ∨ pre.length + 2 + sizeAll body ≤ pre.length :=
        Or.inl (Nat.le_refl _)
      refine ⟨pre.length, by simp [spans], ?_⟩
      simp only [stackAt, if_neg inside, if_pos atStart, endBody]
theorem stackAtAll_closeLoop : ∀ (bs : List (Stmt ε α)) (pre post : List α) (outer : List Nat) (k : Nat),
    (pre ++ itemsAll bs ++ post)[k]? = some (mark .closeLoop) → pre.length ≤ k →
    k < pre.length + sizeAll bs →
    ∃ s, Span.loop s k ∈ spansAll pre.length bs ∧
      stackAtAll pre.length outer bs k = stackAtAll pre.length outer bs s ++ [s]
  | [], _, _, _, _, _, lower, upper => by simp at upper; omega
  | b :: bs, pre, post, outer, k, found, lower, upper => by
    simp only [sizeAll_cons] at upper
    rcases Nat.lt_or_ge k (pre.length + size b) with inFirst | inRest
    · obtain ⟨s, member, stack⟩ := stackAt_closeLoop b pre (itemsAll bs ++ post) outer k
        (regroup (by simp) found) lower inFirst
      -- the loop lies in the first block, so the first block alone says what is open at both ends
      have bounds := (spans_within b pre.length _ member).loop_bounds
      refine ⟨s, by simp only [spansAll]; exact List.mem_append_left _ member, ?_⟩
      rw [stackAtAll_cons_of_le outer (by omega), stackAtAll_cons_of_le outer (by omega), stack]
    · obtain ⟨s, member, stack⟩ := stackAtAll_closeLoop bs (pre ++ items b) post outer k
        (regroup (by simp) found) (by simp [length_items]; omega) (by simp [length_items]; omega)
      simp only [List.length_append, length_items] at member stack
      have after : pre.length + size b ≤ s := (spansAll_within bs (pre.length + size b) _ member).1
      have notFirst : ¬ k < pre.length + size b := by omega
      have notFirst' : ¬ s < pre.length + size b := by omega
      refine ⟨s, by simp only [spansAll]; exact List.mem_append_right _ member, ?_⟩
      simp only [stackAtAll, if_neg notFirst, if_neg notFirst', stack]
end

mutual
/-- Exactly the marks other than `end_if` jump. -/
theorem jump_isSome : ∀ (b : Stmt ε α) (pre post : List α) (k : Nat) (a : α),
    (pre ++ items b ++ post)[k]? = some a → pre.length ≤ k → k < pre.length + size b →
    (jump pre.length b k).isSome = leads a
  | .plain x unmarked, pre, post, k, a, found, lower, upper => by
    obtain ⟨-, rfl⟩ := position_plain found lower upper
    simp [jump, leads, unmarked]
  | .cond c yes none, pre, post, k, a, found, lower, upper => by
    rcases position_cond found lower upper with ⟨here, rfl⟩ | ⟨inYes, after, before⟩ | ⟨here, rfl⟩
    · simp [jump, here]
    · have inner := jumpAll_isSome yes (pre ++ [mark (.openIf c)]) ([mark .closeIf] ++ post) k a
        inYes (by simp; omega) (by simp; omega)
      simp only [List.length_append, List.length_singleton] at inner
      have notIf : k ≠ pre.length := by omega
      simp only [jump, if_neg notIf, inner]
    · have notIf : k ≠ pre.length := by omega
      have afterYes := jumpAll_outside yes (pre.length + 1) k (by omega)
      simp [jump, notIf, afterYes]
  | .cond c yes (some no), pre, post, k, a, found, lower, upper => by
    rcases position_condElse found lower upper with
      ⟨here, rfl⟩ | ⟨inYes, after, before⟩ | ⟨here, rfl⟩ | ⟨inNo, after, before⟩ | ⟨here, rfl⟩
    · simp [jump, here]
    · have inner := jumpAll_isSome yes (pre ++ [mark (.openIf c)])
        (mark .elseBranch :: itemsAll no ++ [mark .closeIf] ++ post) k a inYes
        (by simp; omega) (by simp; omega)
      simp only [List.length_append, List.length_singleton] at inner
      have notIf : k ≠ pre.length := by omega
      have notElse : k ≠ pre.length + 1 + sizeAll yes := by omega
      have notNo := jumpAll_outside no (pre.length + 2 + sizeAll yes) k (by omega)
      simp only [jump, if_neg notIf, if_neg notElse, notNo, Option.or_none, inner]
    · have notIf : k ≠ pre.length := by omega
      simp [jump, if_neg notIf, if_pos here]
    · have shift := length_beforeElse pre c yes
      have inner := jumpAll_isSome no (pre ++ mark (.openIf c) :: itemsAll yes ++ [mark .elseBranch])
        ([mark .closeIf] ++ post) k a inNo (by omega) (by omega)
      rw [shift] at inner
      have notIf : k ≠ pre.length := by omega
      have notElse : k ≠ pre.length + 1 + sizeAll yes := by omega
      have notYes := jumpAll_outside yes (pre.length + 1) k (by omega)
      simp only [jump, if_neg notIf, if_neg notElse, notYes, Option.none_or, inner]
    · have notIf : k ≠ pre.length := by omega
      have notElse : k ≠ pre.length + 1 + sizeAll yes := by omega
      have notYes := jumpAll_outside yes (pre.length + 1) k (by omega)
      have notNo := jumpAll_outside no (pre.length + 2 + sizeAll yes) k (by omega)
      simp [jump, notIf, notElse, notYes, notNo]
  | .loop v c body, pre, post, k, a, found, lower, upper => by
    rcases position_loop found lower upper with ⟨here, rfl⟩ | ⟨inBody, after, before⟩ | ⟨here, rfl⟩
    · simp [jump, here]
    · have inner := jumpAll_isSome body (pre ++ [mark (.openLoop v c)]) ([mark .closeLoop] ++ post) k a
        inBody (by simp; omega) (by simp; omega)
      simp only [List.length_append, List.length_singleton] at inner
      have notLoop : k ≠ pre.length := by omega
      have notEnd : k ≠ pre.length + 1 + sizeAll body := by omega
      simp only [jump, if_neg notLoop, if_neg notEnd, inner]
    · have notLoop : k ≠ pre.length := by omega
      simp [jump, if_neg notLoop, if_pos here]
theorem jumpAll_isSome : ∀ (bs : List (Stmt ε α)) (pre post : List α) (k : Nat) (a : α),
    (pre ++ itemsAll bs ++ post)[k]? = some a → pre.length ≤ k → k < pre.length + sizeAll bs →
    (jumpAll pre.length bs k).isSome = leads a
  | [], _, _, _, _, _, lower, upper => by simp at upper; omega
  | b :: bs, pre, post, k, a, found, lower, upper => by
    simp only [sizeAll_cons] at upper
    rcases Nat.lt_or_ge k (pre.length + size b) with inFirst | inRest
    · have inner := jump_isSome b pre (itemsAll bs ++ post) k a (regroup (by simp) found) lower inFirst
      have notRest := jumpAll_outside bs (pre.length + size b) k (by omega)
      simp only [jumpAll, notRest, Option.or_none, inner]
    · have inner := jumpAll_isSome bs (pre ++ items b) post k a (regroup (by simp) found)
        (by simp [length_items]; omega) (by simp [length_items]; omega)
      simp only [List.length_append, length_items] at inner
      have notFirst := jump_outside b pre.length k (by omega)
      simp only [jumpAll, notFirst, Option.none_or, inner]
end

/-- The bracket matching of a list: the blocks of its tree by the positions of their marks, each
before the blocks inside it; none when the list is not well nested. -/
def matching (l : List α) : List Span :=
  match parse l with
  | some t => spansAll 0 t
  | none => []

/-- The `for_each` positions of the loops around position `k` of a list, outermost first: the
loops `(s, j)` of its matching with `s < k ≤ j`. -/
def loopsAround (l : List α) (k : Nat) : List Nat := (matching l).filterMap (Span.loopAround k)

theorem matching_eq {l : List α} {t : List (Stmt ε α)} (parsed : parse l = some t) :
    matching l = spansAll 0 t := by
  simp [matching, parsed]

theorem loopsAround_eq {l : List α} {t : List (Stmt ε α)} (parsed : parse l = some t) (k : Nat) :
    loopsAround l k = stackAtAll 0 [] t k := by
  rw [loopsAround, matching_eq parsed, stackAtAll_eq, List.nil_append]

theorem loopsAround_zero (l : List α) : loopsAround l 0 = [] := by
  rw [loopsAround, List.filterMap_eq_nil_iff]
  intro sp _
  cases sp <;> simp [Span.loopAround]

/-- No loop is around a position past the end of the list. -/
theorem loopsAround_of_length_le {l : List α} {k : Nat} (past : l.length ≤ k) : loopsAround l k = [] := by
  cases parsed : parse l with
  | none => simp [loopsAround, matching, parsed]
  | some t =>
    rw [loopsAround_eq parsed, stackAtAll_outside t 0 [] k (Or.inr ?_)]
    rw [Nat.zero_add, ← length_itemsAll, itemsAll_of_parse parsed]
    exact past

private theorem lt_sizeAll_of_getElem? {l : List α} {t : List (Stmt ε α)} (parsed : parse l = some t)
    {k : Nat} {a : α} (found : l[k]? = some a) : k < sizeAll t := by
  rw [← length_itemsAll, itemsAll_of_parse parsed]
  exact (List.getElem?_eq_some_iff.1 found).1

/-- The loops around the position after `k` are those around `k` as the item at `k` changes them. -/
theorem loopsAround_succ {l : List α} {t : List (Stmt ε α)} (parsed : parse l = some t) {k : Nat} {a : α}
    (found : l[k]? = some a) : loopsAround l (k + 1) = loopStep k (loopsAround l k) a := by
  have inside := lt_sizeAll_of_getElem? parsed found
  rw [loopsAround_eq parsed, loopsAround_eq parsed]
  exact stackAtAll_succ t [] [] [] k a (by simpa [itemsAll_of_parse parsed] using found) (Nat.zero_le _)
    (by simpa using inside)

/-- A jump of the tree keeps the loops around. -/
theorem loopsAround_jump {l : List α} {t : List (Stmt ε α)} (parsed : parse l = some t) {k x : Nat}
    (jumped : jumpAll 0 t k = some x) : loopsAround l x = loopsAround l k := by
  rw [loopsAround_eq parsed, loopsAround_eq parsed]
  exact stackAtAll_jump t 0 [] k x jumped

/-- An `end_for_each` ends a loop of the matching, which is around it on top of the loops around
its `for_each`. -/
theorem loopsAround_closeLoop {l : List α} {t : List (Stmt ε α)} (parsed : parse l = some t) {k : Nat}
    (found : l[k]? = some (mark .closeLoop)) :
    ∃ s, Span.loop s k ∈ matching l ∧ loopsAround l k = loopsAround l s ++ [s] := by
  have inside := lt_sizeAll_of_getElem? parsed found
  obtain ⟨s, member, stack⟩ := stackAtAll_closeLoop t [] [] [] k
    (by simpa [itemsAll_of_parse parsed] using found) (Nat.zero_le _) (by simpa using inside)
  refine ⟨s, by rw [matching_eq parsed]; exact member, ?_⟩
  rw [loopsAround_eq parsed, loopsAround_eq parsed]
  exact stack

end Stmt

end PromptPipeline
