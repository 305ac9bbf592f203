import PromptPipeline.Proofs.Frames
import PromptPipeline.Proofs.Snapshot
import Mathlib
/-!
Runs that end.

A checked program whose `goto` steps all jump forward runs to an end for every item: it leaves
the program or fails at a step after finitely many steps, whatever its collaborators answer. So
every step budget from some number on gives the same result, and that result never reports the
budget as exhausted (`Program.run_settles`).

What decreases is `Workflow.rank`, read most significant first: for each loop around the step,
outermost first, how far its `for_each` stands from the end and how many items its frame has left,
then how far the step stands from the end. Positions count double, so that a loop's entry ranks
one below its `for_each`. A forward move that keeps or leaves loops lowers the rank at the first
loop it leaves, or at the step; entering a loop lowers it at the new entry; going back to the
first step of a body lowers the items left of its loop. Ranks are compared as words of one length,
which the number of steps bounds.
-/
namespace PromptPipeline

open Stmt Brackets

variable {σ : Type}

/-! No failure but the budget's own reports the budget. -/

namespace EvalError

/-- The first letter of each message; only the budget's starts with `s`. -/
theorem message_head (e : EvalError) : e.message.toList.head? =
    match e with
    | .undefinedVariable _ => some 'u'
    | .nonNumericComparison .. | .typeMismatch .. => some '\''
    | .divisionByZero => some 'd'
    | .indexOutOfRange .. => some 'i'
    | .notIterable _ => some 'c'
    | .notFinite _ => some 'r'
    | .stepLimitExceeded _ => some 's' := by
  have starts : ∀ {a : String} {c : Char} (b : String), a.toList.head? = some c →
      (a ++ b).toList.head? = some c := by
    intro a c b first
    rw [String.toList_append, List.head?_append, first, Option.some_or]
  cases e with
  | undefinedVariable name =>
    show ("undefined variable '" ++ name ++ "'").toList.head? = _
    exact starts _ (starts _ (by decide))
  | nonNumericComparison op left right =>
    show ("'" ++ op ++ "' needs numeric operands, got " ++ left ++ " and " ++ right).toList.head? = _
    exact starts _ (starts _ (starts _ (starts _ (starts _ (by decide)))))
  | typeMismatch op found =>
    show ("'" ++ op ++ "' cannot be applied to " ++ found).toList.head? = _
    exact starts _ (starts _ (starts _ (by decide)))
  | divisionByZero => decide
  | indexOutOfRange index length =>
    show ("index " ++ toString index ++ " out of range for list of length " ++ toString length).toList.head? = _
    exact starts _ (starts _ (starts _ (by decide)))
  | notIterable found =>
    show ("cannot iterate over " ++ found).toList.head? = _
    exact starts _ (by decide)
  | notFinite op =>
    show ("result of '" ++ op ++ "' is not a finite number").toList.head? = _
    exact starts _ (starts _ (by decide))
  | stepLimitExceeded limit =>
    show ("step budget of " ++ toString limit ++ " exhausted").toList.head? = _
    exact starts _ (starts _ (by decide))

end EvalError

/-- An outcome that reports the step budget as exhausted, at some step. -/
def ItemOutcome.OutOfBudget (o : ItemOutcome) : Prop :=
  ∃ limit pc, o.error = some ((Fault.runtime (.stepLimitExceeded limit)).at_ pc)

/-- The failure record of any other cause differs from the budget's. -/
theorem Fault.at_ne_budget {f : Fault} (other : ∀ limit, f ≠ .runtime (.stepLimitExceeded limit))
    (pc limit pc' : Nat) : f.at_ pc ≠ (Fault.runtime (.stepLimitExceeded limit)).at_ pc' := by
  intro same
  simp only [Fault.at_, Failure.mk.injEq] at same
  obtain ⟨category, -, message⟩ := same
  cases f with
  | runtime e =>
    have heads := congrArg (fun s : String => s.toList.head?) message
    simp only [Fault.message, EvalError.message_head] at heads
    cases e with
    | stepLimitExceeded l => exact other l rfl
    | _ => cases heads
  | template | provider | parse => cases category

theorem Except.bind_ne_error {ε α β : Type} {x : Except ε α} {f : α → Except ε β} {e : ε}
    (first : x ≠ .error e) (rest : ∀ a, f a ≠ .error e) : x >>= f ≠ .error e := by
  cases x with
  | error e' =>
    show Except.error e' ≠ _
    simp only [ne_eq, Except.error.injEq] at first ⊢
    exact first
  | ok a => exact rest a

theorem Except.map_ne_error {ε α β : Type} {x : Except ε α} {f : α → β} {e : ε}
    (kept : x ≠ .error e) : x.map f ≠ .error e := by
  cases x with
  | error e' =>
    simp only [Except.map, ne_eq, Except.error.injEq] at kept ⊢
    exact kept
  | ok a => simp [Except.map]

namespace Expr

variable {l : Nat}

theorem finite_ne_budget (x : Float) (op : String) : finite x op ≠ .error (.stepLimitExceeded l) := by
  unfold finite
  split <;> simp

-- every other cause of the operators is named in their branches
theorem indexValue_ne_budget (container key : Value) (path : String) :
    indexValue container key path ≠ .error (.stepLimitExceeded l) := by
  unfold indexValue
  dsimp only
  split
  · -- a list: the index is out of range, or the key is no integral number
    split
    · split
      · split
        · split <;> simp
        · simp
      · simp
    · simp
  · split <;> simp
  · simp

theorem arithmetic_ne_budget (op : BinOp) (x y : Float) :
    arithmetic op x y ≠ .error (.stepLimitExceeded l) := by
  unfold arithmetic
  -- `/` and `%` fail on a zero divisor; otherwise an operator fails only on an infinite result
  split
  · exact finite_ne_budget _ _
  · exact finite_ne_budget _ _
  · split
    · simp
    · exact finite_ne_budget _ _
  · split
    · simp
    · exact finite_ne_budget _ _
  · exact finite_ne_budget _ _

theorem applyBinary_ne_budget (op : BinOp) (a b : Value) :
    applyBinary op a b ≠ .error (.stepLimitExceeded l) := by
  -- `dsimp only` opens the one branch of the operator; `simp` on the whole match is slow
  cases op with
  | eq | ne | and | or => dsimp only [applyBinary]; simp
  | lt | le | gt | ge => dsimp only [applyBinary]; split <;> simp
  | add =>
    dsimp only [applyBinary]
    split
    · exact finite_ne_budget _ _
    · split <;> simp
  | sub | mul | div | rem =>
    dsimp only [applyBinary]
    split
    · simp
    · split
      · simp
      · exact arithmetic_ne_budget _ _ _

variable {lookup : String → Except EvalError Value}

mutual
/-- Evaluation fails on the budget only where looking a name up does. -/
theorem eval_ne_budget (clean : ∀ name l, lookup name ≠ .error (.stepLimitExceeded l)) :
    ∀ (e : Expr) (l : Nat), eval lookup e ≠ .error (.stepLimitExceeded l)
  | .lit v, l => by simp [eval]
  | .var name, l => clean name l
  | .field base name, l => by
    simp only [eval]
    refine Except.bind_ne_error (eval_ne_budget clean base l) fun v => ?_
    split
    · split <;> simp
    · simp
  | .index base key, l => by
    simp only [eval]
    exact Except.bind_ne_error (eval_ne_budget clean base l) fun _ =>
      Except.bind_ne_error (eval_ne_budget clean key l) fun _ => indexValue_ne_budget _ _ _
  | .list items, l => by
    simp only [eval]
    exact Except.map_ne_error (evalItems_ne_budget clean items l)
  | .map entries, l => by
    simp only [eval]
    exact Except.map_ne_error (evalEntries_ne_budget clean entries [] l)
  | .unary .not operand, l => by
    simp only [eval]
    exact Except.bind_ne_error (eval_ne_budget clean operand l) fun _ => by simp
  | .unary .neg operand, l => by
    simp only [eval]
    refine Except.bind_ne_error (eval_ne_budget clean operand l) fun v => ?_
    split
    · exact finite_ne_budget _ _
    · simp
  | .binary op lhs rhs, l => by
    cases op
    case and | or =>
      simp only [eval]
      refine Except.bind_ne_error (eval_ne_budget clean lhs l) fun v => ?_
      split
      · simp
      · exact Except.bind_ne_error (eval_ne_budget clean rhs l) fun _ => by simp
    all_goals
      simp only [eval]
      exact Except.bind_ne_error (eval_ne_budget clean lhs l) fun _ =>
        Except.bind_ne_error (eval_ne_budget clean rhs l) fun _ => applyBinary_ne_budget _ _ _
theorem evalItems_ne_budget (clean : ∀ name l, lookup name ≠ .error (.stepLimitExceeded l)) :
    ∀ (items : List Expr) (l : Nat), evalItems lookup items ≠ .error (.stepLimitExceeded l)
  | [], l => by simp [evalItems]
  | e :: rest, l => by
    simp only [evalItems]
    exact Except.bind_ne_error (eval_ne_budget clean e l) fun _ =>
      Except.bind_ne_error (evalItems_ne_budget clean rest l) fun _ => by simp
theorem evalEntries_ne_budget (clean : ∀ name l, lookup name ≠ .error (.stepLimitExceeded l)) :
    ∀ (entries : List (String × Expr)) (m : Map) (l : Nat),
      evalEntries lookup entries m ≠ .error (.stepLimitExceeded l)
  | [], m, l => by simp [evalEntries]
  | (k, e) :: rest, m, l => by
    simp only [evalEntries]
    exact Except.bind_ne_error (eval_ne_budget clean e l) fun v =>
      evalEntries_ne_budget clean rest (m.insert k v) l
end

end Expr

/-! Only an `end_for_each` jumps back. -/

namespace Stmt

variable {ε α : Type} [Brackets ε α]

mutual
/-- A mark of a block that jumps back, or to itself, is an `end_for_each`. -/
theorem closeLoop_of_jump_le : ∀ (b : Stmt ε α) (pre post : List α) (k x : Nat),
    jump pre.length b k = some x → x ≤ k → (pre ++ items b ++ post)[k]? = some (mark .closeLoop)
  | .plain .., _, _, _, _, jumped, _ => by simp [jump] at jumped
  | .cond c yes none, pre, post, k, x, jumped, back => by
    simp only [jump] at jumped
    split at jumped
    · cases jumped
      omega
    · have inner := closeLoop_of_jumpAll_le yes (pre ++ [mark (.openIf c)]) ([mark .closeIf] ++ post) k x
        (by simpa using jumped) back
      simpa [items] using inner
  | .cond c yes (some no), pre, post, k, x, jumped, back => by
    simp only [jump] at jumped
    split at jumped
    · cases jumped
      omega
    split at jumped
    · cases jumped
      omega
    cases first : jumpAll (pre.length + 1) yes k with
    | some y =>
      rw [first, Option.some_or, Option.some.injEq] at jumped
      subst jumped
      have inner := closeLoop_of_jumpAll_le yes (pre ++ [mark (.openIf c)])
        (mark .elseBranch :: itemsAll no ++ [mark .closeIf] ++ post) k y (by simpa using first) back
      simpa [items] using inner
    | none =>
      rw [first, Option.none_or] at jumped
      have shift : (pre ++ mark (.openIf c) :: itemsAll yes ++ [mark .elseBranch]).length =
          pre.length + 2 + sizeAll yes := by
        simp [length_itemsAll]
        omega
      have inner := closeLoop_of_jumpAll_le no (pre ++ mark (.openIf c) :: itemsAll yes ++ [mark .elseBranch])
        ([mark .closeIf] ++ post) k x (by rw [shift]; exact jumped) back
      simpa [items] using inner
  | .loop v c body, pre, post, k, x, jumped, back => by
    simp only [jump] at jumped
    split at jumped
    · cases jumped
      omega
    split at jumped
    · -- the `end_for_each` of the loop jumps back to the first step of its body
      rename_i atEnd
      have place : (pre ++ mark (.openLoop v c) :: itemsAll body).length = k := by
        simp [length_itemsAll]
        omega
      rw [← place]
      simp [items]
    · have inner := closeLoop_of_jumpAll_le body (pre ++ [mark (.openLoop v c)]) ([mark .closeLoop] ++ post)
        k x (by simpa using jumped) back
      simpa [items] using inner
theorem closeLoop_of_jumpAll_le : ∀ (bs : List (Stmt ε α)) (pre post : List α) (k x : Nat),
    jumpAll pre.length bs k = some x → x ≤ k → (pre ++ itemsAll bs ++ post)[k]? = some (mark .closeLoop)
  | [], _, _, _, _, jumped, _ => by simp [jumpAll] at jumped
  | b :: bs, pre, post, k, x, jumped, back => by
    simp only [jumpAll] at jumped
    cases first : jump pre.length b k with
    | some y =>
      rw [first, Option.some_or, Option.some.injEq] at jumped
      subst jumped
      have inner := closeLoop_of_jump_le b pre (itemsAll bs ++ post) k y first back
      simpa using inner
    | none =>
      rw [first, Option.none_or] at jumped
      have inner := closeLoop_of_jumpAll_le bs (pre ++ items b) post k x
        (by simpa [length_items] using jumped) back
      simpa using inner
end

end Stmt

/-! Ranks: what is left of a run, as a word compared letter by letter. -/

namespace Rank

/-- The letters of the loops around a step in `n` steps: for each loop, outermost first, the
distance of its `for_each` `s` from the end counted double less one, and the items its frame has
left. -/
def loops (n : Nat) : List Nat → List Frame → List Nat
  | s :: ss, f :: fs => (2 * (n - s) - 1) :: (f.items.length - f.index) :: loops n ss fs
  | _, _ => []

/-- `a` comes before `b` in the order of words: after a common beginning, `a` has the smaller
letter. -/
def Below (a b : List Nat) : Prop :=
  ∃ c x y a' b', a = c ++ x :: a' ∧ b = c ++ y :: b' ∧ x < y

theorem loops_append {n : Nat} : ∀ {L₁ : List Nat} {F₁ : List Frame} (L₂ : List Nat) (F₂ : List Frame),
    L₁.length = F₁.length → loops n (L₁ ++ L₂) (F₁ ++ F₂) = loops n L₁ F₁ ++ loops n L₂ F₂
  | [], [], _, _, _ => rfl
  | s :: ss, f :: fs, L₂, F₂, same => by
    simp only [List.length_cons, Nat.add_right_cancel_iff] at same
    simp [loops, loops_append L₂ F₂ same]
  | [], _ :: _, _, _, same | _ :: _, [], _, _, same => by simp at same

theorem length_loops {n : Nat} : ∀ {L : List Nat} {F : List Frame}, L.length = F.length →
    (loops n L F).length = 2 * L.length
  | [], [], _ => rfl
  | s :: ss, f :: fs, same => by
    simp only [List.length_cons, Nat.add_right_cancel_iff] at same
    simp only [loops, List.length_cons, length_loops same]
    omega
  | [], _ :: _, same | _ :: _, [], same => by simp at same

/-- The letters of the loops read only where the frames stand. -/
theorem loops_of_cursors {n : Nat} : ∀ {L : List Nat} {F F' : List Frame},
    F'.map Frame.cursor = F.map Frame.cursor → loops n L F' = loops n L F
  | [], _, _, _ => by simp [loops]
  | _ :: _, [], F', same => by
    rw [List.map_nil, List.map_eq_nil_iff] at same
    subst same
    rfl
  | s :: ss, f :: fs, F', same => by
    cases F' with
    | nil => cases same
    | cons f' fs' =>
      simp only [List.map_cons, List.cons.injEq, Frame.cursor, Prod.mk.injEq] at same
      obtain ⟨⟨-, items, index⟩, rest⟩ := same
      simp [loops, items, index, loops_of_cursors rest]

/-- Moving forward past the step, keeping the loops. -/
theorem below_ahead (c : List Nat) {n pc next : Nat} (ahead : pc < next) (running : pc < n) :
    Below (c ++ [2 * (n - next)]) (c ++ [2 * (n - pc)]) :=
  ⟨c, _, _, [], [], rfl, rfl, by omega⟩

/-- Moving forward out of the loops after the first `m`, each of which opened before the step. -/
theorem below_forward {n pc next : Nat} {L : List Nat} {F : List Frame} (m : Nat)
    (same : L.length = F.length) (opened : ∀ s ∈ L, s < pc) (ahead : pc < next) (running : pc < n) :
    Below (loops n (L.take m) (F.take m) ++ [2 * (n - next)]) (loops n L F ++ [2 * (n - pc)]) := by
  rcases Nat.lt_or_ge m L.length with leaves | keeps
  · -- the first loop left ranks above anything after its `for_each`
    obtain ⟨s, L', split⟩ : ∃ s L', L.drop m = s :: L' := by
      cases dropped : L.drop m with
      | nil => simp at dropped; omega
      | cons s L' => exact ⟨s, L', rfl⟩
    obtain ⟨f, F', splitF⟩ : ∃ f F', F.drop m = f :: F' := by
      cases dropped : F.drop m with
      | nil => simp at dropped; omega
      | cons f F' => exact ⟨f, F', rfl⟩
    have before : s < pc := opened s (List.mem_of_mem_drop (by rw [split]; exact List.mem_cons_self))
    have whole : loops n L F = loops n (L.take m) (F.take m) ++ loops n (s :: L') (f :: F') := by
      rw [← split, ← splitF, ← loops_append _ _ (by simp [same]), List.take_append_drop,
        List.take_append_drop]
    refine ⟨loops n (L.take m) (F.take m), 2 * (n - next), 2 * (n - s) - 1, [],
      (f.items.length - f.index) :: loops n L' F' ++ [2 * (n - pc)], rfl, ?_, by omega⟩
    rw [whole]
    simp [loops]
  · rw [List.take_of_length_le keeps, List.take_of_length_le (by omega)]
    exact below_ahead _ ahead running

/-- Entering a loop at its `for_each`. -/
theorem below_push {n pc : Nat} {L : List Nat} {F : List Frame} (f : Frame)
    (same : L.length = F.length) (running : pc < n) :
    Below (loops n (L ++ [pc]) (F ++ [f]) ++ [2 * (n - (pc + 1))]) (loops n L F ++ [2 * (n - pc)]) := by
  refine ⟨loops n L F, 2 * (n - pc) - 1, 2 * (n - pc), [f.items.length - f.index, 2 * (n - (pc + 1))], [],
    ?_, rfl, by omega⟩
  rw [loops_append _ _ same]
  simp [loops]

/-- Going back to the first step of a body, with an item less left. -/
theorem below_advance {n s z z' : Nat} {L : List Nat} {F : List Frame} {f f' : Frame}
    (same : L.length = F.length) (items : f'.items = f.items) (index : f'.index = f.index + 1)
    (left : f.index + 1 < f.items.length) :
    Below (loops n (L ++ [s]) (F ++ [f']) ++ [z']) (loops n (L ++ [s]) (F ++ [f]) ++ [z]) := by
  refine ⟨loops n L F ++ [2 * (n - s) - 1], f'.items.length - f'.index, f.items.length - f.index,
    [z'], [z], ?_, ?_, by rw [items, index]; omega⟩
  · rw [loops_append _ _ same]
    simp [loops]
  · rw [loops_append _ _ same]
    simp [loops]

/-- A word of letters padded with zeros to the length `K`, in the order of words. -/
def word (K : Nat) (r : List Nat) : Lex (Fin K → Nat) := toLex fun i => r.getD i 0

theorem word_lt {a b : List Nat} {K : Nat} (below : Below a b) (short : b.length ≤ K) :
    word K a < word K b := by
  obtain ⟨c, x, y, a', b', rfl, rfl, lower⟩ := below
  have fits : c.length < K := by
    simp only [List.length_append, List.length_cons] at short
    omega
  refine ⟨⟨c.length, fits⟩, fun j earlier => ?_, ?_⟩
  · have inside : j.val < c.length := earlier
    simp [word, List.getD_eq_getElem?_getD, List.getElem?_append_left inside]
  · simp [word, List.getD_eq_getElem?_getD, lower]

end Rank

/-- What is left of a run at step `pc` with these loop frames, innermost first. -/
def Workflow.rank (w : Workflow) (pc : Nat) (frames : List Frame) : List Nat :=
  Rank.loops w.steps.length (loopsAround w.steps pc) frames.reverse ++ [2 * (w.steps.length - pc)]

namespace Program

variable {agents : Agents σ} {p : Program} {pc next : Nat} {m m' : Machine σ} {ins : Instruction}

theorem evalIn_ne_budget (m : Machine σ) (e : Expr) (limit : Nat) :
    evalIn m e ≠ .error (.runtime (.stepLimitExceeded limit)) := by
  -- a name that is not found is the only failure of lookup
  have clean : ∀ name l, m.scope.get name ≠ .error (.stepLimitExceeded l) := by
    intro name l failed
    cases Scope.get_eq_error failed
  have evaluated := Expr.eval_ne_budget clean e limit
  unfold evalIn
  cases result : e.eval m.scope.get with
  | ok v => simp [Except.mapError]
  | error err =>
    rw [result] at evaluated
    simp only [Except.mapError, ne_eq, Except.error.injEq, Fault.runtime.injEq] at evaluated ⊢
    exact evaluated

theorem row_ne_budget (m : Machine σ) (fields : List (String × Expr)) (limit : Nat) :
    row m fields ≠ .error (.runtime (.stepLimitExceeded limit)) := by
  unfold row
  -- the rows built so far never fail; each field's value is evaluated once
  generalize ([] : Map) = r
  induction fields generalizing r with
  | nil => simp [List.foldlM, pure, Except.pure]
  | cons field rest ih =>
    rw [List.foldlM_cons]
    exact Except.bind_ne_error
      (Except.bind_ne_error (evalIn_ne_budget m field.2 limit) fun _ => by simp [pure, Except.pure]) ih

/-- A prompt fails on its template, its provider or its response, never on an expression. -/
theorem prompt_fault (name : String) (spec : PromptSpec) (m : Machine σ) {f : Fault}
    (failed : (prompt agents name spec m).1 = .error f) : ∀ e, f ≠ .runtime e := by
  unfold prompt at failed
  dsimp only at failed
  split at failed
  · cases failed
    intro e same
    cases same
  · split at failed
    · cases failed
      intro e same
      cases same
    · split at failed
      · cases failed
        intro e same
        cases same
      · cases failed

/-- A collection that is not a list fails to loop as not iterable, never on the budget. -/
theorem loopItems_ne_budget (v : Value) (limit : Nat) :
    loopItems v ≠ .error (.stepLimitExceeded limit) := by
  unfold loopItems
  split
  · simp
  · split <;> simp
  · simp

/-- A step never fails on the budget. -/
theorem step_fault (stepped : p.step agents pc m ins = (.error f, m')) (limit : Nat) :
    f ≠ .runtime (.stepLimitExceeded limit) := by
  cases ins with
  | set name e | openIf e =>
    simp only [step] at stepped
    split at stepped
    · cases stepped
    · rename_i failed
      cases stepped
      intro same
      subst same
      exact evalIn_ne_budget m e limit failed
  | openLoop var collection =>
    simp only [step] at stepped
    split at stepped
    · cases stepped
    · rename_i failed
      cases stepped
      intro same
      subst same
      refine Except.bind_ne_error (evalIn_ne_budget m collection limit) (fun v => ?_) failed
      -- a collection that is not a list fails as not iterable
      cases items : loopItems v with
      | ok xs => simp [Except.mapError]
      | error err =>
        simp only [Except.mapError, ne_eq, Except.error.injEq, Fault.runtime.injEq]
        intro budget
        subst budget
        exact loopItems_ne_budget v limit items
  | output fields =>
    simp only [step] at stepped
    split at stepped
    · cases stepped
    · rename_i failed
      cases stepped
      intro same
      subst same
      exact row_ne_budget m fields limit failed
  | prompt name spec =>
    simp only [step] at stepped
    split at stepped
    · cases stepped
    · rename_i failed
      cases stepped
      exact prompt_fault name spec m (by rw [failed]) _
  | elseBranch | closeIf | label | closeLoop | goto _ =>
    simp only [step] at stepped
    cases stepped

theorem prompt_error (name : String) (spec : PromptSpec) (m : Machine σ) :
    (prompt agents name spec m).2.outcome.error = m.outcome.error := by
  unfold prompt
  dsimp only
  split
  · rfl
  · split
    · rfl
    · split <;> rfl

/-- A step that lets the run go on keeps its outcome's failure, if any. -/
theorem step_error (stepped : p.step agents pc m ins = (.ok next, m')) :
    m'.outcome.error = m.outcome.error := by
  cases ins with
  | set | openIf | openLoop | output =>
    simp only [step] at stepped
    split at stepped
    · cases stepped
      rfl
    · cases stepped
  | prompt name spec =>
    simp only [step] at stepped
    split at stepped
    · rename_i m'' prompted
      cases stepped
      have kept : (prompt agents name spec m).2.outcome.error = m.outcome.error :=
        prompt_error name spec m
      rw [prompted] at kept
      exact kept
    · cases stepped
  | elseBranch | closeIf | label | closeLoop | goto _ =>
    simp only [step] at stepped
    cases stepped
    rfl

end Program


/-! Where the loops around a step open, and how many there are. -/

theorem Stmt.lt_of_mem_loopsAround {ε α : Type} [Brackets ε α] {l : List α} {k s : Nat}
    (member : s ∈ loopsAround l k) : s < k := by
  obtain ⟨sp, -, around⟩ := List.mem_filterMap.1 member
  cases sp with
  | cond => cases around
  | loop s' j =>
    simp only [Span.loopAround, Option.ite_none_right_eq_some, Option.some.injEq] at around
    omega

theorem Stmt.length_loopStep_le {ε α : Type} [Brackets ε α] (k : Nat) (loops : List Nat) (a : α) :
    (loopStep k loops a).length ≤ loops.length + 1 := by
  unfold loopStep
  split
  · simp
  · simp only [List.length_dropLast]
    omega
  · simp

/-- No more loops are around a step than steps come before it, nor than there are steps. -/
theorem Stmt.length_loopsAround_le {ε α : Type} [Brackets ε α] {l : List α} {t : List (Stmt ε α)}
    (parsed : parse l = some t) (k : Nat) : (loopsAround l k).length ≤ min k l.length := by
  rcases Nat.lt_or_ge k l.length with inside | past
  · suffices ∀ k, (loopsAround l k).length ≤ k by
      have := this k
      omega
    intro k
    induction k with
    | zero => simp [loopsAround_zero]
    | succ k ih =>
      cases found : l[k]? with
      | none => simp [loopsAround_of_length_le (List.getElem?_eq_none_iff.1 found |>.trans (Nat.le_succ k))]
      | some a =>
        rw [loopsAround_succ parsed found]
        have := length_loopStep_le k (loopsAround l k) a
        omega
  · simp [loopsAround_of_length_le past]

namespace Program

variable {promptFaults : PromptSpec → List String} {w : Workflow} {p : Program} {pc next : Nat}
  {ins : Instruction} {frames frames' : List Frame}

/-- A mark other than `end_for_each` jumps forward. -/
theorem lt_jumpFrom (accepted : compile promptFaults w = .ok p) (fetched : p.instructions[pc]? = some ins)
    (jumps : leads ins = true) (notBack : ins ≠ .closeLoop) : pc < p.jumpFrom pc := by
  obtain ⟨t, checked⟩ := compile_accepted promptFaults accepted
  obtain ⟨st, at_, built⟩ := instruction_of_compile accepted fetched
  have isSome := checked.jumpAll_isSome_eq at_
  rw [← (Step.instruction?_shape built).2.1, jumps] at isSome
  obtain ⟨x, jumped⟩ := Option.isSome_iff_exists.1 isSome
  rw [jumpFrom, checked.target_of_jumpAll jumped, Option.getD_some]
  refine Nat.lt_of_not_le fun back => notBack ?_
  -- a jump back comes from an `end_for_each`
  have closing := closeLoop_of_jumpAll_le t [] [] pc x (by simpa using jumped) back
  simp only [List.nil_append, List.append_nil, checked.written, at_, Option.some.injEq] at closing
  subst closing
  cases built
  rfl

theorem length_rank (framed : w.Framed pc frames) :
    (w.rank pc frames).length = 2 * (loopsAround w.steps pc).length + 1 := by
  have same : (loopsAround w.steps pc).length = frames.reverse.length := by
    rw [List.length_reverse, List.Forall₂.length_eq framed, List.length_reverse]
  simp [Workflow.rank, Rank.length_loops same]

/-- One step lowers the rank of the run, when every `goto` jumps forward. -/
theorem rank_below (accepted : compile promptFaults w = .ok p)
    (forward : ∀ (g k : Nat) (name : String), w.steps[g]? = some (.goto name) →
      w.steps[k]? = some (.label name) → g < k)
    (fetched : p.instructions[pc]? = some ins) (framed : w.Framed pc frames)
    (moved : ins.Moves p pc frames next frames') : Rank.Below (w.rank next frames') (w.rank pc frames) := by
  have running : pc < w.steps.length := by
    rw [← length_instructions accepted]
    exact (List.getElem?_eq_some_iff.1 fetched).1
  have same : (loopsAround w.steps pc).length = frames.reverse.length := by
    rw [List.length_reverse, List.Forall₂.length_eq framed, List.length_reverse]
  have opened : ∀ s ∈ loopsAround w.steps pc, s < pc := fun s member => lt_of_mem_loopsAround member
  -- a step that keeps the loops and the frames and moves forward
  have ahead : ∀ {next}, pc < next → loopsAround w.steps next = loopsAround w.steps pc →
      Rank.Below (w.rank next frames) (w.rank pc frames) := by
    intro next forth kept
    rw [Workflow.rank, Workflow.rank, kept]
    exact Rank.below_ahead _ forth running
  have stays : ∀ (stays : ∀ loops, loopStep pc loops ins = loops),
      loopsAround w.steps (pc + 1) = loopsAround w.steps pc := fun stays => by
    rw [loopsAround_succ_of_compile accepted fetched, stays]
  have jumps : leads ins = true → ins ≠ .closeLoop →
      Rank.Below (w.rank (p.jumpFrom pc) frames) (w.rank pc frames) := fun leading notBack =>
    ahead (lt_jumpFrom accepted fetched leading notBack) (loopsAround_jumpFrom accepted fetched leading)
  cases ins with
  | set name e =>
    obtain ⟨rfl, cursors⟩ := moved
    have kept : Rank.loops w.steps.length (loopsAround w.steps pc) frames'.reverse =
        Rank.loops w.steps.length (loopsAround w.steps pc) frames.reverse :=
      Rank.loops_of_cursors (by rw [List.map_reverse, List.map_reverse, cursors])
    rw [Workflow.rank, Workflow.rank, stays fun _ => rfl, kept]
    exact Rank.below_ahead _ (Nat.lt_succ_self pc) running
  | openIf c =>
    obtain ⟨rfl | rfl, rfl⟩ := moved
    · exact ahead (Nat.lt_succ_self pc) (stays fun _ => rfl)
    · exact jumps rfl (by simp)
  | elseBranch =>
    obtain ⟨rfl, rfl⟩ := moved
    exact jumps rfl (by simp)
  | closeIf | label | prompt | output =>
    obtain ⟨rfl, rfl⟩ := moved
    exact ahead (Nat.lt_succ_self pc) (stays fun _ => rfl)
  | openLoop var c =>
    rcases moved with ⟨first, rest, rfl, rfl⟩ | ⟨rfl, rfl⟩
    · -- the loop's entry comes in below its `for_each`
      rw [Workflow.rank, Workflow.rank, loopsAround_succ_of_compile accepted fetched]
      simp only [List.reverse_cons]
      exact Rank.below_push _ same running
    · exact jumps rfl (by simp)
  | closeLoop =>
    rcases moved with ⟨f, rest, v, rfl, item, rfl, rfl⟩ | ⟨rfl, rfl⟩
    · -- back to the body: the innermost loop has an item less left
      have kept := loopsAround_jumpFrom accepted fetched rfl
      obtain ⟨s, loops, -, outer, around⟩ := List.forall₂_cons_left_iff.1 framed
      have split : loopsAround w.steps pc = loops.reverse ++ [s] := by
        rw [← List.reverse_reverse (loopsAround w.steps pc), around]
        simp
      have outerSame : loops.reverse.length = rest.reverse.length := by
        rw [List.length_reverse, List.length_reverse, List.Forall₂.length_eq outer]
      rw [Workflow.rank, Workflow.rank, kept, split]
      simp only [List.reverse_cons]
      exact Rank.below_advance outerSame rfl rfl (List.getElem?_eq_some_iff.1 item).1
    · -- out of the loop: its frame goes with it
      have tail : frames.tail.reverse = frames.reverse.take ((loopsAround w.steps pc).length - 1) := by
        have dropped : frames.reverse.reverse.tail = frames.reverse.dropLast.reverse := List.tail_reverse
        rw [List.reverse_reverse] at dropped
        rw [dropped, List.reverse_reverse, List.dropLast_eq_take, same]
      rw [Workflow.rank, Workflow.rank, loopsAround_succ_of_compile accepted fetched]
      show Rank.Below (Rank.loops _ (loopsAround w.steps pc).dropLast frames.tail.reverse ++ _) _
      rw [List.dropLast_eq_take, tail]
      exact Rank.below_forward _ same opened (Nat.lt_succ_self pc) running
  | goto name =>
    obtain ⟨rfl, rfl⟩ := moved
    obtain ⟨k, labelled, target, nested⟩ := goto_of_compile accepted fetched
    obtain ⟨st, at_, built⟩ := instruction_of_compile accepted fetched
    rw [(Step.instruction?_shape built).2.2.2.2 name rfl] at at_
    -- the label lies ahead, inside only loops that are around the `goto`
    have kept : (frames.drop (frames.length - p.depthAt k)).reverse =
        frames.reverse.take (loopsAround w.steps k).length := by
      have shorter := nested.length_le
      rw [List.reverse_drop, depthAt_of_compile accepted k, ← (List.length_reverse : frames.reverse.length = frames.length), ← same]
      congr 1
      omega
    have ranked : w.rank k (frames.drop (frames.length - p.depthAt k)) =
        Rank.loops w.steps.length ((loopsAround w.steps pc).take (loopsAround w.steps k).length)
          (frames.reverse.take (loopsAround w.steps k).length) ++ [2 * (w.steps.length - k)] := by
      rw [Workflow.rank, kept]
      congr 2
      exact List.prefix_iff_eq_take.1 nested
    rw [target, ranked, Workflow.rank]
    exact Rank.below_forward _ same opened (forward pc k name at_ labelled) running

/-- From a step whose frames are those of its loops, a run of a program whose `goto` steps jump
forward ends within some number of steps: every budget from that number on gives the same
machine, and it does not report the budget. -/
theorem settles_from (accepted : compile promptFaults w = .ok p)
    (forward : ∀ (g k : Nat) (name : String), w.steps[g]? = some (.goto name) →
      w.steps[k]? = some (.label name) → g < k) (agents : Agents σ) :
    ∀ (pc : Nat) (m : Machine σ), w.Framed pc m.scope.frames → ¬ m.outcome.OutOfBudget →
      ∃ N m', ¬ m'.outcome.OutOfBudget ∧ ∀ limit r, N ≤ r → p.execute agents limit r pc m = m' := by
  intro pc m framed clean
  -- induction on the rank as a word of a length that no rank exceeds
  obtain ⟨v, ranked⟩ : ∃ v, Rank.word (2 * w.steps.length + 1) (w.rank pc m.scope.frames) = v := ⟨_, rfl⟩
  induction v using WellFoundedLT.induction generalizing pc m with
  | _ v ih =>
  cases fetched : p.instructions[pc]? with
  | none =>
    refine ⟨0, m, clean, fun limit r _ => ?_⟩
    rw [execute, fetched]
  | some ins =>
    cases stepped : p.step agents pc m.counted ins with
    | mk result m'' =>
    cases result with
    | error f =>
      -- the step fails with a cause of its own
      refine ⟨1, { m'' with outcome := { m''.outcome with error := some (f.at_ pc), aborted := f.isAbort } },
        ?_, fun limit r enough => ?_⟩
      · rintro ⟨limit, pc', reported⟩
        simp only [Option.some.injEq] at reported
        exact Fault.at_ne_budget (step_fault stepped) pc limit pc' reported
      · obtain ⟨r, rfl⟩ := Nat.exists_eq_add_of_le' enough
        rw [execute, fetched]
        simp only [Machine.counted] at stepped
        simp only [stepped]
    | ok next =>
      have moved := step_moves stepped
      rw [Machine.counted_scope] at moved
      have lower : Rank.word (2 * w.steps.length + 1) (w.rank next m''.scope.frames) < v := by
        rw [← ranked]
        refine Rank.word_lt (rank_below accepted forward fetched framed moved) ?_
        have bound := length_loopsAround_le (compile_accepted promptFaults accepted).choose_spec.parsed pc
        rw [length_rank framed]
        omega
      have kept : m''.outcome.error = m.outcome.error := (step_error stepped).trans rfl
      obtain ⟨N, m', settled, runs⟩ := ih _ lower next m'' (framed_step accepted fetched framed moved)
        (by rwa [ItemOutcome.OutOfBudget, kept]) rfl
      refine ⟨N + 1, m', settled, fun limit r enough => ?_⟩
      obtain ⟨r, rfl⟩ := Nat.exists_eq_add_of_le' (Nat.le_trans (Nat.le_add_left 1 N) enough)
      rw [execute, fetched]
      simp only [Machine.counted] at stepped
      simp only [stepped]
      exact runs limit r (by omega)

end Program

/-- A checked program whose `goto` steps all jump forward ends for every item, whatever its
collaborators answer: from some budget on, every step budget gives the same outcome and the same
state of the collaborators, and the outcome does not report the budget as exhausted. -/
theorem Program.run_settles {promptFaults : PromptSpec → List String} {w : Workflow} {p : Program}
    (accepted : Program.compile promptFaults w = .ok p)
    (forward : ∀ (g k : Nat) (name : String), w.steps[g]? = some (.goto name) →
      w.steps[k]? = some (.label name) → g < k)
    (agents : Agents σ) (agent : σ) (bindings : Map) :
    ∃ N result, ¬ result.1.OutOfBudget ∧
      ∀ maxSteps, N ≤ p.maxSteps.getD maxSteps → p.run agents maxSteps agent bindings = result := by
  have start : w.Framed 0 (Scope.ofSeed bindings).frames := by
    rw [Workflow.Framed, loopsAround_zero]
    exact .nil
  have clean : ¬ ({} : ItemOutcome).OutOfBudget := by
    rintro ⟨limit, pc, reported⟩
    cases reported
  obtain ⟨N, m, settled, runs⟩ :=
    Program.settles_from accepted forward agents 0 { scope := Scope.ofSeed bindings, agent } start clean
  refine ⟨N, (m.outcome, m.agent), settled, fun maxSteps enough => ?_⟩
  simp only [Program.run, runs _ _ enough]

/-- A loop left by a forward `goto`: the check accepts it, its `goto` jumps forward, and each run
of it ends. -/
theorem Program.run_settles_goto_out : ∃ p, Program.compile PromptSpec.faults
      { name := "w", steps := [.set "xs" "[1, 2]", .openLoop "v" "xs", .goto "out", .closeLoop,
        .label "out"] } = .ok p ∧
    (∀ (g k : Nat) (name : String),
      [Step.set "xs" "[1, 2]", .openLoop "v" "xs", .goto "out", .closeLoop, .label "out"][g]? =
        some (.goto name) →
      [Step.set "xs" "[1, 2]", .openLoop "v" "xs", .goto "out", .closeLoop, .label "out"][k]? =
        some (.label name) → g < k) ∧
    ∃ N result, ¬ result.1.OutOfBudget ∧ ∀ maxSteps, N ≤ p.maxSteps.getD maxSteps →
      p.run Agents.standard maxSteps Provider.echo [] = result := by
  obtain ⟨p, accepted⟩ := (Program.exists_compile_eq_ok PromptSpec.faults
    { name := "w", steps := [.set "xs" "[1, 2]", .openLoop "v" "xs", .goto "out", .closeLoop,
      .label "out"] }).2 (List.isEmpty_iff.1 (by decide +kernel))
  have forward : ∀ (g k : Nat) (name : String),
      [Step.set "xs" "[1, 2]", .openLoop "v" "xs", .goto "out", .closeLoop, .label "out"][g]? =
        some (.goto name) →
      [Step.set "xs" "[1, 2]", .openLoop "v" "xs", .goto "out", .closeLoop, .label "out"][k]? =
        some (.label name) → g < k := by
    intro g k name atGoto atLabel
    rcases g with _ | _ | _ | _ | _ | g <;> simp at atGoto
    rcases k with _ | _ | _ | _ | _ | k <;> simp at atLabel
    omega
  exact ⟨p, accepted, forward, Program.run_settles accepted forward Agents.standard Provider.echo []⟩

end PromptPipeline
