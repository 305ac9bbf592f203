import PromptPipeline.Expr.Parser
import Mathlib
/-!
The grammar of expressions, and the reader's agreement with it.

The grammar is layered by binding strength, loosest first: `or` (level 1), `and` (2), the
comparisons (3), `+` and `-` (4), `*`, `/` and `%` (5); level 6 is a unary expression. Each
binary level is a chain of operands of the next level, grouped to the left. A unary expression
is a negation `not`/`!` of a comparison, a minus before a unary expression, or a primary with
its accesses.

Read as a context-free grammar this is ambiguous: `not a == b` is both `not (a == b)` and
`(not a) == b`, since a comparison may stop after `a`. The reader takes the first: the operand
of a negation reaches as far as a comparison can. The derivations below carry a flag `greedy`
that asks exactly this of every negation (`Ends 3` after its operand); with it, the reader
returns a tree if and only if the grammar derives it from all of the tokens.
-/
namespace PromptPipeline

namespace Grammar

/-- The binary operators, by the token that writes each: its level and the operator. -/
def operator : Token → Option (Nat × BinOp)
  | .ident "or" | .sym "||" => some (1, .or)
  | .ident "and" | .sym "&&" => some (2, .and)
  | .sym "==" => some (3, .eq)
  | .sym "!=" => some (3, .ne)
  | .sym "<" => some (3, .lt)
  | .sym "<=" => some (3, .le)
  | .sym ">" => some (3, .gt)
  | .sym ">=" => some (3, .ge)
  | .sym "+" => some (4, .add)
  | .sym "-" => some (4, .sub)
  | .sym "*" => some (5, .mul)
  | .sym "/" => some (5, .div)
  | .sym "%" => some (5, .rem)
  | _ => none

/-- Whether `tok` carries an expression of level `k` on: an access, or a binary operator of level
`k` or tighter. -/
def continues (k : Nat) : Token → Bool
  | .sym "." | .sym "[" => true
  | tok => match operator tok with
    | some (j, _) => decide (k ≤ j)
    | none => false

/-- No expression of level `k` goes on into the tokens `r`. -/
def Ends (k : Nat) : Tokens → Prop
  | [] => True
  | (tok, _) :: _ => continues k tok = false

/-- The tokens that negate a comparison. -/
def negates : Token → Bool
  | .sym "!" | .ident "not" => true
  | _ => false

/-- The words that are not names: the literal words and the logical operators. -/
def keywords : List String := ["true", "false", "null", "none", "and", "or", "not"]

/-- The key that a token writes in a map: a name or a string. -/
def keyOf : Token → Option String
  | .ident k | .str k => some k
  | _ => none

mutual

/-- An expression of level `k` read from `ts`, with `r` left. -/
inductive Level (greedy : Bool) : Nat → Tokens → Expr → Tokens → Prop
  | unary {ts e r} : Unary greedy ts e r → Level greedy 6 ts e r
  | chain {k ts x r₁ e r} : 0 < k → k < 6 → Level greedy (k + 1) ts x r₁ →
      Tail greedy k x r₁ e r → Level greedy k ts e r

/-- Operators of level `k`, each with its right operand, after the left operand `x`. -/
inductive Tail (greedy : Bool) : Nat → Expr → Tokens → Expr → Tokens → Prop
  | stop {k x ts} : Tail greedy k x ts x ts
  | more {k x tok o ts op y r₁ e r} : operator tok = some (k, op) → Level greedy (k + 1) ts y r₁ →
      Tail greedy k (.binary op x y) r₁ e r → Tail greedy k x ((tok, o) :: ts) e r

/-- A unary expression. -/
inductive Unary (greedy : Bool) : Tokens → Expr → Tokens → Prop
  | not {tok o ts e r} : negates tok = true → Level greedy 3 ts e r → (greedy = true → Ends 3 r) →
      Unary greedy ((tok, o) :: ts) (.unary .not e) r
  | neg {o ts e r} : Unary greedy ts e r → Unary greedy ((.sym "-", o) :: ts) (.unary .neg e) r
  | accessed {ts x r₁ e r} : Primary greedy ts x r₁ → Access greedy x r₁ e r → Unary greedy ts e r

/-- Accesses after `x`: `.name`, `.n` with an integral number `n`, and `[key]`. -/
inductive Access (greedy : Bool) : Expr → Tokens → Expr → Tokens → Prop
  | stop {x ts} : Access greedy x ts x ts
  | field {x o₁ name o₂ ts e r} : Access greedy (.field x name) ts e r →
      Access greedy x ((.sym ".", o₁) :: (.ident name, o₂) :: ts) e r
  | index {x o₁ v o₂ ts e r} : Decimal.isIntegral v = true →
      Access greedy (.index x (.lit (.num (.float v)))) ts e r →
      Access greedy x ((.sym ".", o₁) :: (.number v, o₂) :: ts) e r
  | key {x o₁ ts k o₂ r₁ e r} : Level greedy 1 ts k ((.sym "]", o₂) :: r₁) →
      Access greedy (.index x k) r₁ e r → Access greedy x ((.sym "[", o₁) :: ts) e r

/-- A literal, a name, an expression in parentheses, a list or a map. -/
inductive Primary (greedy : Bool) : Tokens → Expr → Tokens → Prop
  | number {x o r} : Primary greedy ((.number x, o) :: r) (.lit (Parser.numberLiteral x)) r
  | string {s o r} : Primary greedy ((.str s, o) :: r) (.lit (.str s)) r
  | trueWord {o r} : Primary greedy ((.ident "true", o) :: r) (.lit (.bool true)) r
  | falseWord {o r} : Primary greedy ((.ident "false", o) :: r) (.lit (.bool false)) r
  | nullWord {o r} : Primary greedy ((.ident "null", o) :: r) (.lit .null) r
  | noneWord {o r} : Primary greedy ((.ident "none", o) :: r) (.lit .null) r
  | var {name o r} : name ∉ keywords → Primary greedy ((.ident name, o) :: r) (.var name) r
  | paren {o₁ ts e o₂ r} : Level greedy 1 ts e ((.sym ")", o₂) :: r) →
      Primary greedy ((.sym "(", o₁) :: ts) e r
  | list {o ts xs r} : Items greedy ts xs r → Primary greedy ((.sym "[", o) :: ts) (.list xs) r
  | map {o ts es r} : Entries greedy ts es r →
      Primary greedy ((.sym "\x7b", o) :: ts) (.map es) r

/-- The items of a list and its closing bracket, with a comma allowed before it. -/
inductive Items (greedy : Bool) : Tokens → List Expr → Tokens → Prop
  | close {o r} : Items greedy ((.sym "]", o) :: r) [] r
  | last {ts x o r} : Level greedy 1 ts x ((.sym "]", o) :: r) → Items greedy ts [x] r
  | more {ts x o r₁ xs r} : Level greedy 1 ts x ((.sym ",", o) :: r₁) → Items greedy r₁ xs r →
      Items greedy ts (x :: xs) r

/-- The entries of a map and its closing brace, with a comma allowed before it. -/
inductive Entries (greedy : Bool) : Tokens → List (String × Expr) → Tokens → Prop
  | close {o r} : Entries greedy ((.sym "\x7d", o) :: r) [] r
  | last {tok o₁ o₂ ts k v o₃ r} : keyOf tok = some k → Level greedy 1 ts v ((.sym "\x7d", o₃) :: r) →
      Entries greedy ((tok, o₁) :: (.sym ":", o₂) :: ts) [(k, v)] r
  | more {tok o₁ o₂ ts k v o₃ r₁ es r} : keyOf tok = some k →
      Level greedy 1 ts v ((.sym ",", o₃) :: r₁) → Entries greedy r₁ es r →
      Entries greedy ((tok, o₁) :: (.sym ":", o₂) :: ts) ((k, v) :: es) r

end

/-- The grammar's operators are the reader's, each at the level of its precedence. -/
theorem operator_eq (tok : Token) :
    operator tok = (Parser.binaryOf tok).map fun op => (op.precedence, op) := by
  unfold operator Parser.binaryOf
  split <;> simp_all [BinOp.precedence]

section Follow

variable {k j : Nat} {tok : Token} {o : Nat} {rest : Tokens}

theorem binaryOf_of_operator {op : BinOp} (h : operator tok = some (j, op)) :
    Parser.binaryOf tok = some op ∧ op.precedence = j := by
  rw [operator_eq] at h
  cases bin : Parser.binaryOf tok with
  | none => simp [bin] at h
  | some op' =>
    simp only [bin, Option.map_some, Option.some.injEq, Prod.mk.injEq] at h
    obtain ⟨rfl, rfl⟩ := h
    exact ⟨rfl, rfl⟩

theorem operator_of_binaryOf {op : BinOp} (h : Parser.binaryOf tok = some op) :
    operator tok = some (op.precedence, op) := by
  rw [operator_eq, h]; rfl

theorem level_le_five {op : BinOp} (h : operator tok = some (j, op)) : j ≤ 5 := by
  obtain ⟨-, rfl⟩ := binaryOf_of_operator h
  cases op <;> decide

theorem continues_of_operator (k : Nat) {op : BinOp} (h : operator tok = some (j, op)) :
    continues k tok = decide (k ≤ j) := by
  unfold continues
  split
  · cases h
  · cases h
  · rw [h]

/-- A token that is no operator carries every level on alike: it is an access or it is not. -/
theorem continues_of_not_operator (h : operator tok = none) : continues k tok = continues j tok := by
  unfold continues
  split <;> simp [h]

theorem Ends.mono {r : Tokens} (le : k ≤ j) (ends : Ends k r) : Ends j r := by
  match r, ends with
  | [], _ => trivial
  | (tok, _) :: _, ends =>
    show continues j tok = false
    cases h : operator tok with
    | none => rw [continues_of_not_operator h]; exact ends
    | some l =>
      obtain ⟨l, op⟩ := l
      have below := continues_of_operator k h
      rw [continues_of_operator _ h]
      simp only [Ends, below, decide_eq_false_iff_not] at ends ⊢
      omega

theorem precedence_lt_of_ends {op : BinOp} (ends : Ends k ((tok, o) :: rest))
    (bin : Parser.binaryOf tok = some op) : op.precedence < k := by
  have level := continues_of_operator k (operator_of_binaryOf bin)
  simp only [Ends] at ends
  rw [ends, eq_comm, decide_eq_false_iff_not] at level
  omega

theorem ends_of_precedence_lt (ends : Ends j ((tok, o) :: rest))
    (below : ∀ op, Parser.binaryOf tok = some op → op.precedence < k) : Ends k ((tok, o) :: rest) := by
  show continues k tok = false
  cases h : operator tok with
  | none => rw [continues_of_not_operator h]; exact ends
  | some l =>
    obtain ⟨l, op⟩ := l
    obtain ⟨bin, rfl⟩ := binaryOf_of_operator h
    rw [continues_of_operator _ h, decide_eq_false_iff_not]
    have := below op bin
    omega

/-- Past the operators of level `k`, no operator of level `k + 1` or tighter comes next. -/
theorem Tail.ends_succ {g : Bool} {x e : Expr} {ts r : Tokens} (tail : Tail g k x ts e r)
    (ends : Ends k r) : Ends (k + 1) ts := by
  cases tail with
  | stop => exact ends.mono (Nat.le_succ k)
  | more op _ _ =>
    show continues (k + 1) _ = false
    rw [continues_of_operator _ op]
    simp

/-- Neither access comes next, and so nothing carries a unary expression on. -/
theorem ends_six (dot : tok ≠ .sym ".") (bracket : tok ≠ .sym "[") : Ends 6 ((tok, o) :: rest) := by
  show continues 6 tok = false
  unfold continues
  split
  · exact absurd rfl dot
  · exact absurd rfl bracket
  · split
    · rename_i h
      have := level_le_five h
      simp only [decide_eq_false_iff_not]
      omega
    · rfl

/-- A primary starts with none of the prefix operators. -/
theorem Primary.head_not_prefix {g : Bool} {ts : Tokens} {x : Expr} {r : Tokens}
    (primary : Primary g ts x r) (tok : Token) (o : Nat) (rest : Tokens)
    (starts : ts = (tok, o) :: rest) : negates tok = false ∧ tok ≠ .sym "-" := by
  cases primary
  case var free =>
    simp only [List.cons.injEq, Prod.mk.injEq] at starts
    obtain ⟨⟨rfl, -⟩, -⟩ := starts
    refine ⟨?_, by simp⟩
    unfold negates
    split
    · rename_i same
      cases same
    · rename_i same
      cases same
      exact absurd (by decide) free
    · rfl
  all_goals
    simp only [List.cons.injEq, Prod.mk.injEq] at starts
    obtain ⟨⟨rfl, -⟩, -⟩ := starts
    exact ⟨rfl, by simp⟩

/-- No expression starts at a closing bracket. -/
theorem Primary.not_close {g : Bool} {ts : Tokens} {x : Expr} {r : Tokens}
    (primary : Primary g ts x r) (o : Nat) (rest : Tokens) : ts ≠ (.sym "]", o) :: rest := by
  cases primary <;> simp

theorem Unary.not_close {g : Bool} {ts : Tokens} {e : Expr} {r : Tokens} (unary : Unary g ts e r)
    (o : Nat) (rest : Tokens) : ts ≠ (.sym "]", o) :: rest := by
  cases unary with
  | not neg _ _ =>
    intro same
    simp only [List.cons.injEq, Prod.mk.injEq] at same
    obtain ⟨⟨rfl, -⟩, -⟩ := same
    cases neg
  | neg _ => simp
  | accessed primary _ => exact primary.not_close o rest

theorem Level.not_close {g : Bool} {k : Nat} {ts : Tokens} {e : Expr} {r : Tokens} :
    Level g k ts e r → ∀ o rest, ts ≠ (.sym "]", o) :: rest
  | .unary operand => operand.not_close
  | .chain _ _ first _ => first.not_close

theorem access_of_ends (ends : Ends 6 ((tok, o) :: rest)) : tok ≠ .sym "." ∧ tok ≠ .sym "[" := by
  constructor
  · rintro rfl
    cases ends
  · rintro rfl
    cases ends

end Follow

/-- An expression of a tighter level is one of every looser level, with no operators after it. -/
theorem Level.of_tighter {g : Bool} {j k : Nat} {ts : Tokens} {e : Expr} {r : Tokens}
    (tighter : Level g j ts e r) (low : 0 < k) (le : k ≤ j) : Level g k ts e r := by
  induction h : j - k generalizing k with
  | zero =>
    obtain rfl : k = j := by omega
    exact tighter
  | succ m step =>
    have high : k < 6 := by
      cases tighter with
      | unary _ => omega
      | chain _ high _ _ => omega
    exact .chain low high (step (by omega) (by omega) (by omega)) .stop

theorem Level.six_iff {g : Bool} {ts r : Tokens} {e : Expr} : Level g 6 ts e r ↔ Unary g ts e r := by
  constructor
  · intro level
    cases level with
    | unary u => exact u
    | chain _ high _ _ => omega
  · exact .unary

theorem Level.chain_iff {g : Bool} {k : Nat} (low : 0 < k) (high : k < 6) {ts r : Tokens}
    {e : Expr} : Level g k ts e r ↔ ∃ x r₁, Level g (k + 1) ts x r₁ ∧ Tail g k x r₁ e r := by
  constructor
  · intro level
    cases level with
    | unary _ => omega
    | chain _ _ first tail => exact ⟨_, _, first, tail⟩
  · rintro ⟨x, r₁, first, tail⟩
    exact .chain low high first tail

end Grammar

namespace Parser

/-- A reading's result with the tokens it leaves as a plain list. -/
def plain {α : Type} {P : Tokens → Prop} (read : Except SyntaxError (α × Subtype P)) :
    Except SyntaxError (α × Tokens) :=
  read.map fun (a, r) => (a, r.1)

section Plain

variable {α β : Type} {P : Tokens → Prop}

@[simp] theorem plain_ok (a : α) (r : Subtype P) : plain (.ok (a, r)) = .ok (a, r.1) := rfl

@[simp] theorem plain_error (e : SyntaxError) : plain (.error e : Except _ (α × Subtype P)) = .error e :=
  rfl

theorem plain_eq_ok {read : Except SyntaxError (α × Subtype P)} {a : α} {r : Tokens} :
    plain read = .ok (a, r) ↔ ∃ h, read = .ok (a, ⟨r, h⟩) := by
  rcases read with e | ⟨b, ⟨r', h⟩⟩
  · simp [plain, Except.map]
  · simp only [plain_ok, Except.ok.injEq, Prod.mk.injEq, Subtype.mk.injEq]
    constructor
    · rintro ⟨rfl, rfl⟩
      exact ⟨h, rfl, rfl⟩
    · rintro ⟨_, rfl, rfl⟩
      exact ⟨rfl, rfl⟩

theorem length_of_plain {read : Except SyntaxError (α × Subtype P)} {a : α} {r : Tokens}
    (read_ok : plain read = .ok (a, r)) : P r := by
  obtain ⟨h, -⟩ := plain_eq_ok.1 read_ok
  exact h

theorem map_eq_ok {x : Except SyntaxError α} {f : α → β} {b : β} :
    x.map f = .ok b ↔ ∃ a, x = .ok a ∧ f a = b := by
  rcases x with e | a <;> simp [Except.map]

theorem bind_eq_ok {x : Except SyntaxError α} {f : α → Except SyntaxError β} {b : β} :
    x.bind f = .ok b ↔ ∃ a, x = .ok a ∧ f a = .ok b := by
  rcases x with e | a <;> simp [Except.bind]

end Plain

section Equations

variable (stop : Nat)

theorem expect_eq_ok {s : String} {ts : Tokens} {r : {r : Tokens // r.length < ts.length}}
    (closed : expect stop s ts = .ok r) : ∃ o, ts = (.sym s, o) :: r.1 := by
  unfold expect at closed
  split at closed
  · split at closed
    · rename_i t _ rest _
      cases closed
      exact ⟨_, by rw [eq_of_beq ‹t == s›]⟩
    · cases closed
  · cases closed

theorem expect_sym (s : String) (o : Nat) (r : Tokens) :
    ∃ h, expect stop s ((.sym s, o) :: r) = .ok ⟨r, h⟩ :=
  ⟨by simp, by simp [expect]⟩

theorem skip?_eq_some {s : String} {ts : Tokens} {r : {r : Tokens // r.length < ts.length}}
    (found : skip? s ts = some r) : ∃ o, ts = (.sym s, o) :: r.1 := by
  unfold skip? at found
  split at found
  · split at found
    · rename_i t _ rest _
      cases found
      exact ⟨_, by rw [eq_of_beq ‹t == s›]⟩
    · cases found
  · cases found

theorem plain_expression (p : Nat) (ts : Tokens) :
    plain (expression stop p ts) =
      (plain (unary stop ts)).bind fun (x, r) => plain (climb stop p x r) := by
  rw [expression]
  rcases unary stop ts with e | ⟨x, r, _⟩
  · rfl
  · dsimp only [plain_ok, Except.bind]
    rcases climb stop p x r with e | ⟨y, r', _⟩ <;> rfl

theorem plain_climb_nil (p : Nat) (x : Expr) : plain (climb stop p x []) = .ok (x, []) := by
  rw [climb]; rfl

theorem plain_climb_stop {p : Nat} (x : Expr) {tok : Token} (o : Nat) (rest : Tokens)
    (below : ∀ op, binaryOf tok = some op → op.precedence < p) :
    plain (climb stop p x ((tok, o) :: rest)) = .ok (x, (tok, o) :: rest) := by
  rw [climb]
  cases bin : binaryOf tok with
  | none => rfl
  | some op => simp only [below op bin, if_true]; rfl

theorem plain_climb_op {p : Nat} (x : Expr) {tok : Token} (o : Nat) (rest : Tokens) {op : BinOp}
    (bin : binaryOf tok = some op) (le : p ≤ op.precedence) :
    plain (climb stop p x ((tok, o) :: rest)) =
      (plain (expression stop (op.precedence + 1) rest)).bind
        fun (y, r) => plain (climb stop p (.binary op x y) r) := by
  rw [climb]
  simp only [bin, show ¬ op.precedence < p by omega, if_false]
  rcases expression stop (op.precedence + 1) rest with e | ⟨y, r, _⟩
  · rfl
  · dsimp only [plain_ok, Except.bind]
    rcases climb stop p (.binary op x y) r with e | ⟨z, r', _⟩ <;> rfl

/-- Reading operators from level `p` on is reading those of levels above `p` first, then those
of level `p`. -/
theorem plain_climb_split (p : Nat) (x : Expr) (ts : Tokens) :
    plain (climb stop p x ts) =
      (plain (climb stop (p + 1) x ts)).bind fun (y, r) => plain (climb stop p y r) := by
  match ts with
  | [] => rw [plain_climb_nil stop (p + 1)]; rfl
  | (tok, o) :: rest =>
    cases bin : binaryOf tok with
    | none =>
      have below : ∀ q op, binaryOf tok = some op → op.precedence < q := by simp [bin]
      rw [plain_climb_stop stop x o rest (below (p + 1))]
      rfl
    | some op =>
      by_cases lt : op.precedence < p
      · have below : ∀ q, p ≤ q → ∀ op', binaryOf tok = some op' → op'.precedence < q := by
          intro q le op' bin'
          rw [bin, Option.some.injEq] at bin'
          subst bin'
          omega
        rw [plain_climb_stop stop x o rest (below (p + 1) (by omega))]
        rfl
      by_cases same : op.precedence = p
      · have below : ∀ op', binaryOf tok = some op' → op'.precedence < p + 1 := by
          intro op' bin'
          rw [bin, Option.some.injEq] at bin'
          subst bin'
          omega
        rw [plain_climb_stop stop x o rest below]
        rfl
      · rw [plain_climb_op stop x o rest bin (by omega), plain_climb_op stop x o rest bin (by omega)]
        rcases read : plain (expression stop (op.precedence + 1) rest) with e | ⟨y, r⟩
        · rfl
        · have shorter : r.length < rest.length + 1 := by
            have := length_of_plain read
            omega
          exact plain_climb_split p (.binary op x y) r
-- the recursion of `climb` goes on to the tokens left after a right operand, fewer than `ts`
termination_by ts.length

/-- No operator has precedence zero: reading from level 0 is reading from level 1. -/
theorem plain_climb_zero (x : Expr) (ts : Tokens) :
    plain (climb stop 0 x ts) = plain (climb stop 1 x ts) := by
  match ts with
  | [] => rw [plain_climb_nil, plain_climb_nil]
  | (tok, o) :: rest =>
    cases bin : binaryOf tok with
    | none =>
      have below : ∀ q op, binaryOf tok = some op → op.precedence < q := by simp [bin]
      rw [plain_climb_stop stop x o rest (below 0), plain_climb_stop stop x o rest (below 1)]
    | some op =>
      have pos : 1 ≤ op.precedence := by cases op <;> decide
      rw [plain_climb_op stop x o rest bin (by omega), plain_climb_op stop x o rest bin pos]
      rcases read : plain (expression stop (op.precedence + 1) rest) with e | ⟨y, r⟩
      · rfl
      · have shorter : r.length < rest.length + 1 := by
          have := length_of_plain read
          omega
        exact plain_climb_zero (.binary op x y) r
termination_by ts.length

/-- No operator has precedence six or more. -/
theorem plain_climb_high {p : Nat} (high : 6 ≤ p) (x : Expr) (ts : Tokens) :
    plain (climb stop p x ts) = .ok (x, ts) := by
  match ts with
  | [] => exact plain_climb_nil stop p x
  | (tok, o) :: rest =>
    refine plain_climb_stop stop x o rest fun op _ => ?_
    have : op.precedence ≤ 5 := by cases op <;> decide
    omega

theorem plain_expression_succ (p : Nat) (ts : Tokens) :
    plain (expression stop p ts) =
      (plain (expression stop (p + 1) ts)).bind fun (x, r) => plain (climb stop p x r) := by
  rw [plain_expression, plain_expression]
  rcases plain (unary stop ts) with e | ⟨x, r⟩
  · rfl
  · exact plain_climb_split stop p x r

theorem plain_expression_zero (ts : Tokens) :
    plain (expression stop 0 ts) = plain (expression stop 1 ts) := by
  rw [plain_expression, plain_expression]
  rcases plain (unary stop ts) with e | ⟨x, r⟩
  · rfl
  · exact plain_climb_zero stop x r

theorem plain_expression_six (ts : Tokens) :
    plain (expression stop 6 ts) = plain (unary stop ts) := by
  rw [plain_expression]
  rcases plain (unary stop ts) with e | ⟨x, r⟩
  · rfl
  · exact plain_climb_high stop (Nat.le_refl 6) x r

theorem plain_negation (ts : Tokens) :
    plain (negation stop ts) = (plain (expression stop 3 ts)).map fun (e, r) => (.unary .not e, r) := by
  rw [negation]
  rcases expression stop 3 ts with e | ⟨e, r, _⟩ <;> rfl

theorem plain_unary_not {tok : Token} (o : Nat) (rest : Tokens) (neg : Grammar.negates tok = true) :
    plain (unary stop ((tok, o) :: rest)) = plain (negation stop rest) := by
  unfold Grammar.negates at neg
  split at neg
  · rw [unary]
  · rw [unary]
  · cases neg

theorem plain_unary_minus (o : Nat) (rest : Tokens) :
    plain (unary stop ((.sym "-", o) :: rest)) =
      (plain (unary stop rest)).map fun (e, r) => (.unary .neg e, r) := by
  rw [unary]
  rcases unary stop rest with e | ⟨e, r, _⟩ <;> rfl

theorem plain_unary_of_primary {ts : Tokens}
    (head : ∀ tok o rest, ts = (tok, o) :: rest → Grammar.negates tok = false ∧ tok ≠ .sym "-") :
    plain (unary stop ts) = (plain (primary stop ts)).bind fun (x, r) => plain (accesses stop x r) := by
  unfold unary
  split
  · cases (head _ _ _ rfl).1
  · cases (head _ _ _ rfl).1
  · exact absurd rfl (head _ _ _ rfl).2
  · rw [accessChain]
    rcases primary stop _ with e | ⟨x, r, _⟩
    · rfl
    · dsimp only [plain_ok, Except.bind]
      rcases accesses stop x r with e | ⟨y, r', _⟩ <;> rfl

end Equations

theorem plain_of_eq {α : Type} {P : Tokens → Prop} {read : Except SyntaxError (α × Subtype P)} {a : α}
    {r : Tokens} {h : P r} (eq : read = .ok (a, ⟨r, h⟩)) : plain read = .ok (a, r) := by
  rw [eq]; rfl

open Grammar

/-- The reading functions agree with the grammar, its negations greedy, on every list of fewer
than `n` tokens. Each result is also as long as it can be: no operator of its level, and no
access, comes next. -/
structure Faithful (stop n : Nat) : Prop where
  expression {ts : Tokens} {p : Nat} {e : Expr} {r : Tokens} : ts.length < n → 0 < p → p ≤ 6 →
    (plain (expression stop p ts) = .ok (e, r) ↔ Level true p ts e r ∧ Ends p r)
  climb {ts : Tokens} {p : Nat} {x e : Expr} {r : Tokens} : ts.length < n → Ends (p + 1) ts →
    (plain (climb stop p x ts) = .ok (e, r) ↔ Tail true p x ts e r ∧ Ends p r)
  unary {ts : Tokens} {e : Expr} {r : Tokens} : ts.length < n →
    (plain (unary stop ts) = .ok (e, r) ↔ Unary true ts e r ∧ Ends 6 r)
  accesses {ts : Tokens} {x e : Expr} {r : Tokens} : ts.length < n →
    (plain (accesses stop x ts) = .ok (e, r) ↔ Access true x ts e r ∧ Ends 6 r)
  items {ts : Tokens} {acc xs : List Expr} {r : Tokens} : ts.length < n →
    (plain (items stop ts acc) = .ok (xs, r) ↔ ∃ ys, Items true ts ys r ∧ xs = acc.reverse ++ ys)
  entries {ts : Tokens} {acc es : List (String × Expr)} {r : Tokens} : ts.length < n →
    (plain (entries stop ts acc) = .ok (es, r) ↔
      ∃ ys, Entries true ts ys r ∧ es = acc.reverse ++ ys)

namespace Faithful

variable {stop n : Nat}

theorem mono {m : Nat} (ih : Faithful stop n) (le : m ≤ n) : Faithful stop m where
  expression short := ih.expression (by omega)
  climb short := ih.climb (by omega)
  unary short := ih.unary (by omega)
  accesses short := ih.accesses (by omega)
  items short := ih.items (by omega)
  entries short := ih.entries (by omega)

/-- A whole expression, as the reader asks for one in brackets, is one of level 1. -/
theorem expression_zero (ih : Faithful stop n) {ts : Tokens} (short : ts.length < n) {e : Expr}
    {r : Tokens} : plain (Parser.expression stop 0 ts) = .ok (e, r) ↔ Level true 1 ts e r ∧ Ends 1 r := by
  rw [plain_expression_zero]
  exact ih.expression short (by decide) (by decide)

end Faithful

section Agreement

variable {stop : Nat}

/-- Where no operator of level `p` or tighter comes next, no operator is read. -/
theorem plain_climb_of_ends {p : Nat} (x : Expr) {ts : Tokens} (ends : Ends p ts) :
    plain (climb stop p x ts) = .ok (x, ts) := by
  rcases ts with _ | ⟨⟨tok, o⟩, rest⟩
  · exact plain_climb_nil stop p x
  · exact plain_climb_stop stop x o rest fun op bin => precedence_lt_of_ends ends bin

theorem primary_iff {ts : Tokens} (ih : Faithful stop ts.length) {e : Expr} {r : Tokens} :
    plain (primary stop ts) = .ok (e, r) ↔ Primary true ts e r := by
  constructor
  · intro read
    rw [plain_eq_ok] at read
    obtain ⟨fewer, read⟩ := read
    unfold primary at read
    split at read
    · cases read
    · cases read
      exact .number
    · cases read
      exact .string
    · rename_i word _ _
      split at read
      next yes =>
        cases read
        obtain rfl := eq_of_beq yes
        exact .trueWord
      split at read
      next no =>
        cases read
        obtain rfl := eq_of_beq no
        exact .falseWord
      split at read
      next nothing =>
        cases read
        rcases Bool.or_eq_true_iff.1 nothing with null | none
        · obtain rfl := eq_of_beq null
          exact .nullWord
        · obtain rfl := eq_of_beq none
          exact .noneWord
      split at read
      · cases read
      next yes no nothing keyword =>
        cases read
        refine .var ?_
        simp only [Bool.or_eq_true, beq_iff_eq, not_or] at yes no nothing keyword
        simp [keywords, yes, no, nothing, keyword]
    · rename_i rest
      split at read
      · cases read
      · rename_i inner r₁ _ parsed
        split at read
        · cases read
        · rename_i closed
          cases read
          obtain ⟨_, closes⟩ := expect_eq_ok stop closed
          have parsed := plain_of_eq parsed
          rw [closes] at parsed
          exact .paren ((ih.expression_zero (Nat.lt_succ_self _)).1 parsed).1
    · rename_i rest
      split at read
      · cases read
      · rename_i parsed
        cases read
        obtain ⟨ys, listed, rfl⟩ := (ih.items (Nat.lt_succ_self _)).1 (plain_of_eq parsed)
        exact .list listed
    · rename_i rest
      split at read
      · cases read
      · rename_i parsed
        cases read
        obtain ⟨ys, listed, rfl⟩ := (ih.entries (Nat.lt_succ_self _)).1 (plain_of_eq parsed)
        exact .map listed
    · cases read
  · intro derived
    cases derived with
    | number | string | trueWord | falseWord | nullWord | noneWord => rw [primary]; rfl
    | var free =>
      simp only [keywords, List.mem_cons, List.not_mem_nil, not_or] at free
      rw [primary]
      simp [free]
    | paren inner =>
      obtain ⟨_, parsed⟩ := plain_eq_ok.1 ((ih.expression_zero (Nat.lt_succ_self _)).2 ⟨inner, rfl⟩)
      rw [primary, parsed]
      rfl
    | list listed =>
      obtain ⟨_, parsed⟩ := plain_eq_ok.1 ((ih.items (Nat.lt_succ_self _)).2 ⟨_, listed, rfl⟩)
      rw [primary, parsed]
      rfl
    | map listed =>
      obtain ⟨_, parsed⟩ := plain_eq_ok.1 ((ih.entries (Nat.lt_succ_self _)).2 ⟨_, listed, rfl⟩)
      rw [primary, parsed]
      rfl

theorem accesses_iff {ts : Tokens} (ih : Faithful stop ts.length) {x e : Expr} {r : Tokens} :
    plain (accesses stop x ts) = .ok (e, r) ↔ Access true x ts e r ∧ Ends 6 r := by
  constructor
  · intro read
    rw [plain_eq_ok] at read
    obtain ⟨fewer, read⟩ := read
    unfold accesses at read
    split at read
    · split at read
      · split at read
        · cases read
        · rename_i found
          cases read
          obtain ⟨accessed, ends⟩ := (ih.accesses (by simp only [List.length_cons]; omega)).1 (plain_of_eq found)
          exact ⟨.field accessed, ends⟩
      · split at read
        · split at read
          · cases read
          · rename_i found
            cases read
            obtain ⟨accessed, ends⟩ := (ih.accesses (by simp only [List.length_cons]; omega)).1 (plain_of_eq found)
            exact ⟨.index ‹Decimal.isIntegral _ = true› accessed, ends⟩
        · cases read
      · cases read
    · split at read
      · cases read
      · rename_i parsed
        split at read
        · cases read
        · rename_i closed
          split at read
          · cases read
          · rename_i found
            cases read
            obtain ⟨_, closes⟩ := expect_eq_ok stop closed
            have parsed := plain_of_eq parsed
            rw [closes] at parsed
            have shorter := length_of_plain parsed
            obtain ⟨key, _⟩ := (ih.expression_zero (Nat.lt_succ_self _)).1 parsed
            obtain ⟨accessed, ends⟩ :=
              (ih.accesses (by simp only [List.length_cons] at shorter ⊢; omega)).1 (plain_of_eq found)
            exact ⟨.key key accessed, ends⟩
    · rename_i notDot notBracket
      cases read
      refine ⟨.stop, ?_⟩
      rcases ts with _ | ⟨⟨tok, o⟩, rest⟩
      · trivial
      · exact ends_six (fun dot => notDot o rest (by rw [dot]))
          (fun bracket => notBracket o rest (by rw [bracket]))
  · rintro ⟨accessed, ends⟩
    cases accessed with
    | stop =>
      rcases ts with _ | ⟨⟨tok, o⟩, rest⟩
      · unfold accesses; rfl
      · obtain ⟨dot, bracket⟩ := access_of_ends ends
        rw [accesses]
        · rfl
        all_goals
          intro _ _ same
          simp only [List.cons.injEq, Prod.mk.injEq] at same
        · exact dot same.1.1
        · exact bracket same.1.1
    | field accessed =>
      obtain ⟨_, found⟩ :=
        plain_eq_ok.1 ((ih.accesses (by simp only [List.length_cons]; omega)).2 ⟨accessed, ends⟩)
      rw [accesses, found]
      rfl
    | index integral accessed =>
      obtain ⟨_, found⟩ :=
        plain_eq_ok.1 ((ih.accesses (by simp only [List.length_cons]; omega)).2 ⟨accessed, ends⟩)
      rw [accesses, if_pos integral, found]
      rfl
    | key key accessed =>
      have parsed := (ih.expression_zero (Nat.lt_succ_self _)).2 ⟨key, rfl⟩
      have shorter := length_of_plain parsed
      obtain ⟨_, found⟩ := plain_eq_ok.1
        ((ih.accesses (by simp only [List.length_cons] at shorter ⊢; omega)).2 ⟨accessed, ends⟩)
      obtain ⟨_, parsed⟩ := plain_eq_ok.1 parsed
      rw [accesses, parsed]
      simp only [expect, beq_self_eq_true, if_true]
      rw [found]
      rfl

theorem unary_iff {ts : Tokens} (ih : Faithful stop ts.length) {e : Expr} {r : Tokens} :
    plain (unary stop ts) = .ok (e, r) ↔ Unary true ts e r ∧ Ends 6 r := by
  constructor
  · intro read
    rcases ts with _ | ⟨⟨tok, o⟩, rest⟩
    · rw [plain_unary_of_primary stop (by intro _ _ _ empty; cases empty)] at read
      obtain ⟨_, found, _⟩ := bind_eq_ok.1 read
      nomatch (primary_iff ih).1 found
    by_cases neg : negates tok = true
    · rw [plain_unary_not stop o rest neg, plain_negation] at read
      obtain ⟨⟨operand, _⟩, parsed, same⟩ := map_eq_ok.1 read
      cases same
      obtain ⟨level, ends⟩ := (ih.expression (by simp) (by decide) (by decide)).1 parsed
      exact ⟨.not neg level fun _ => ends, ends.mono (by decide)⟩
    by_cases minus : tok = .sym "-"
    · subst minus
      rw [plain_unary_minus] at read
      obtain ⟨⟨operand, _⟩, found, same⟩ := map_eq_ok.1 read
      cases same
      obtain ⟨inner, ends⟩ := (ih.unary (by simp)).1 found
      exact ⟨.neg inner, ends⟩
    have head : ∀ tok' o' rest', (tok, o) :: rest = (tok', o') :: rest' →
        negates tok' = false ∧ tok' ≠ .sym "-" := by
      intro tok' o' rest' same
      simp only [List.cons.injEq, Prod.mk.injEq] at same
      obtain ⟨⟨rfl, -⟩, -⟩ := same
      exact ⟨by simpa using neg, minus⟩
    rw [plain_unary_of_primary stop head] at read
    obtain ⟨⟨x, r₁⟩, found, accessed⟩ := bind_eq_ok.1 read
    obtain ⟨accessed, ends⟩ := (ih.accesses (length_of_plain found)).1 accessed
    exact ⟨.accessed ((primary_iff ih).1 found) accessed, ends⟩
  · rintro ⟨derived, ends⟩
    cases derived with
    | not neg level greedy =>
      have parsed := (ih.expression (by simp) (by decide) (by decide)).2 ⟨level, greedy rfl⟩
      rw [plain_unary_not stop _ _ neg, plain_negation, parsed]
      rfl
    | neg inner =>
      rw [plain_unary_minus, (ih.unary (by simp)).2 ⟨inner, ends⟩]
      rfl
    | accessed primary accessed =>
      have found := (primary_iff ih).2 primary
      rw [plain_unary_of_primary stop primary.head_not_prefix, found]
      exact (ih.accesses (length_of_plain found)).2 ⟨accessed, ends⟩

theorem climb_iff {ts : Tokens} (ih : Faithful stop ts.length) {p : Nat} {x e : Expr} {r : Tokens}
    (ends₀ : Ends (p + 1) ts) :
    plain (climb stop p x ts) = .ok (e, r) ↔ Tail true p x ts e r ∧ Ends p r := by
  constructor
  · intro read
    rcases ts with _ | ⟨⟨tok, o⟩, rest⟩
    · rw [plain_climb_nil] at read
      cases read
      exact ⟨.stop, trivial⟩
    by_cases above : ∃ op, binaryOf tok = some op ∧ p ≤ op.precedence
    · obtain ⟨op, bin, le⟩ := above
      -- an operator of level above `p` would have ended the operand before it
      have same : op.precedence = p := by
        have := precedence_lt_of_ends ends₀ bin
        omega
      rw [plain_climb_op stop x o rest bin le, bind_eq_ok] at read
      obtain ⟨⟨y, r₁⟩, right, more⟩ := read
      rw [same] at right
      obtain ⟨level, ends₁⟩ :=
        (ih.expression (by simp) (by omega) (by have := level_le_five (operator_of_binaryOf bin); omega)).1 right
      have shorter := length_of_plain right
      obtain ⟨tail, ends⟩ := (ih.climb (by simp only [List.length_cons]; omega) ends₁).1 more
      exact ⟨.more (by rw [operator_of_binaryOf bin, same]) level tail, ends⟩
    · have below : ∀ op, binaryOf tok = some op → op.precedence < p := by
        intro op bin
        exact Nat.lt_of_not_le fun le => above ⟨op, bin, le⟩
      rw [plain_climb_stop stop x o rest below] at read
      cases read
      exact ⟨.stop, ends_of_precedence_lt ends₀ below⟩
  · rintro ⟨tail, ends⟩
    cases tail with
    | stop => exact plain_climb_of_ends x ends
    | more op level tail =>
      obtain ⟨bin, same⟩ := binaryOf_of_operator op
      have ends₁ := tail.ends_succ ends
      have right := (ih.expression (by simp) (by omega)
        (by have := level_le_five op; omega)).2 ⟨level, ends₁⟩
      rw [plain_climb_op stop x _ _ bin (by omega), same, right]
      exact (ih.climb (by have := length_of_plain right; simp only [List.length_cons]; omega) ends₁).2
        ⟨tail, ends⟩

theorem expression_iff {ts : Tokens} (ih : Faithful stop ts.length) {p : Nat} (low : 0 < p)
    (high : p ≤ 6) {e : Expr} {r : Tokens} :
    plain (expression stop p ts) = .ok (e, r) ↔ Level true p ts e r ∧ Ends p r := by
  -- from the tightest level down: level `p` reads one of level `p + 1`, then its own operators
  induction h : 6 - p generalizing p e r with
  | zero =>
    obtain rfl : p = 6 := by omega
    rw [plain_expression_six, unary_iff ih, Level.six_iff]
  | succ m step =>
    rw [plain_expression_succ, bind_eq_ok, Level.chain_iff low (by omega)]
    constructor
    · rintro ⟨⟨x, r₁⟩, first, more⟩
      obtain ⟨level, ends₁⟩ := (step (by omega) (by omega) (by omega)).1 first
      obtain ⟨tail, ends⟩ := (ih.climb (length_of_plain first) ends₁).1 more
      exact ⟨⟨x, r₁, level, tail⟩, ends⟩
    · rintro ⟨⟨x, r₁, level, tail⟩, ends⟩
      have ends₁ := tail.ends_succ ends
      have first := (step (by omega) (by omega) (by omega)).2 ⟨level, ends₁⟩
      exact ⟨(x, r₁), first, (ih.climb (length_of_plain first) ends₁).2 ⟨tail, ends⟩⟩

theorem items_iff {ts : Tokens} (ih : Faithful stop ts.length)
    (whole : ∀ {e r}, plain (expression stop 0 ts) = .ok (e, r) ↔ Level true 1 ts e r ∧ Ends 1 r)
    {acc xs : List Expr} {r : Tokens} :
    plain (items stop ts acc) = .ok (xs, r) ↔ ∃ ys, Items true ts ys r ∧ xs = acc.reverse ++ ys := by
  constructor
  · intro read
    rw [plain_eq_ok] at read
    obtain ⟨fewer, read⟩ := read
    unfold items at read
    split at read
    · cases read
      exact ⟨[], .close, by simp⟩
    · split at read
      · cases read
      · rename_i item r₁ _ parsed
        split at read
        · rename_i r₂ _ comma
          dsimp only at read
          split at read
          · cases read
          · rename_i found
            cases read
            obtain ⟨_, commaAt⟩ := skip?_eq_some comma
            have parsed := plain_of_eq parsed
            rw [commaAt] at parsed
            have shorter := length_of_plain parsed
            obtain ⟨ys, listed, rfl⟩ :=
              (ih.items (by simp only [List.length_cons] at shorter; omega)).1 (plain_of_eq found)
            exact ⟨item :: ys, .more (whole.1 parsed).1 listed, by simp⟩
        · rename_i noComma
          split at read
          · cases read
          · rename_i closed
            cases read
            obtain ⟨_, closes⟩ := expect_eq_ok stop closed
            have parsed := plain_of_eq parsed
            rw [closes] at parsed
            exact ⟨[item], .last (whole.1 parsed).1, by simp⟩
  · rintro ⟨ys, listed, rfl⟩
    cases listed with
    | close =>
      rw [items]
      simp
    | last level =>
      obtain ⟨_, parsed⟩ := plain_eq_ok.1 (whole.2 ⟨level, rfl⟩)
      rw [items, parsed]
      · simp [skip?, expect]
      · exact fun o rest => level.not_close o rest
    | more level listed =>
      have parsed := whole.2 ⟨level, rfl⟩
      have shorter := length_of_plain parsed
      obtain ⟨_, found⟩ := plain_eq_ok.1
        ((ih.items (by simp only [List.length_cons] at shorter; omega)).2 ⟨_, listed, rfl⟩)
      obtain ⟨_, parsed⟩ := plain_eq_ok.1 parsed
      rw [items, parsed]
      · simp only [skip?, beq_self_eq_true, if_true]
        rw [found]
        simp
      · exact fun o rest => level.not_close o rest

theorem entries_iff {ts : Tokens} (ih : Faithful stop ts.length) {acc es : List (String × Expr)}
    {r : Tokens} :
    plain (entries stop ts acc) = .ok (es, r) ↔ ∃ ys, Entries true ts ys r ∧ es = acc.reverse ++ ys := by
  constructor
  · intro read
    rw [plain_eq_ok] at read
    obtain ⟨fewer, read⟩ := read
    unfold entries at read
    split at read
    · cases read
      exact ⟨[], .close, by simp⟩
    · cases read
    · rename_i tok _ rest _
      dsimp only at read
      split at read
      · cases read
      rename_i key named
      have keyed : keyOf tok = some key := by cases tok <;> simp_all [keyOf]
      split at read
      · cases read
      rename_i r₁ _ colon
      obtain ⟨_, colonAt⟩ := expect_eq_ok stop colon
      rw [colonAt]
      have short₁ : r₁.length < rest.length := by simp [colonAt]
      split at read
      · cases read
      rename_i value r₂ _ parsed
      have parsed := plain_of_eq parsed
      split at read
      · rename_i r₃ _ comma
        split at read
        · cases read
        rename_i found
        cases read
        obtain ⟨_, commaAt⟩ := skip?_eq_some comma
        rw [commaAt] at parsed
        have shorter := length_of_plain parsed
        obtain ⟨ys, listed, rfl⟩ :=
          (ih.entries (by simp only [List.length_cons] at shorter ⊢; omega)).1 (plain_of_eq found)
        exact ⟨(key, value) :: ys,
          .more keyed ((ih.expression_zero (by simp only [List.length_cons]; omega)).1 parsed).1 listed, by simp⟩
      · split at read
        · cases read
        rename_i closed
        cases read
        obtain ⟨_, closes⟩ := expect_eq_ok stop closed
        rw [closes] at parsed
        exact ⟨[(key, value)], .last keyed ((ih.expression_zero (by simp only [List.length_cons]; omega)).1 parsed).1,
          by simp⟩
  · rintro ⟨ys, listed, rfl⟩
    cases listed with
    | close =>
      rw [entries]
      simp
    | @last tok o₁ o₂ ts k v o₃ r keyed level =>
      obtain ⟨_, parsed⟩ := plain_eq_ok.1 ((ih.expression_zero (by simp only [List.length_cons]; omega)).2 ⟨level, rfl⟩)
      obtain ⟨_, colon⟩ := expect_sym stop ":" o₂ ts
      cases tok <;> simp only [keyOf, reduceCtorEq, Option.some.injEq] at keyed
      all_goals
        subst keyed
        rw [entries, colon]
        dsimp only
        rw [parsed]
        simp [expect, skip?]
    | @more tok o₁ o₂ ts k v o₃ r₁ es r keyed level listed =>
      have parsed := (ih.expression_zero (by simp only [List.length_cons]; omega)).2 ⟨level, rfl⟩
      have shorter := length_of_plain parsed
      obtain ⟨_, found⟩ := plain_eq_ok.1
        ((ih.entries (by simp only [List.length_cons] at shorter ⊢; omega)).2 ⟨_, listed, rfl⟩)
      obtain ⟨_, parsed⟩ := plain_eq_ok.1 parsed
      obtain ⟨_, colon⟩ := expect_sym stop ":" o₂ ts
      cases tok <;> simp only [keyOf, reduceCtorEq, Option.some.injEq] at keyed
      all_goals
        subst keyed
        rw [entries, colon]
        dsimp only
        rw [parsed]
        simp only [skip?, beq_self_eq_true, if_true]
        rw [found]
        simp

end Agreement

theorem Faithful.succ {stop n : Nat} (ih : Faithful stop n) : Faithful stop (n + 1) := by
  have shorter : ∀ {ts : Tokens}, ts.length < n + 1 → Faithful stop ts.length :=
    fun short => ih.mono (by omega)
  exact {
    expression := fun short low high => expression_iff (shorter short) low high
    climb := fun short ends => climb_iff (shorter short) ends
    unary := fun short => unary_iff (shorter short)
    accesses := fun short => accesses_iff (shorter short)
    items := fun short => items_iff (shorter short) fun {_ _} => by
      rw [plain_expression_zero]
      exact expression_iff (shorter short) (by decide) (by decide)
    entries := fun short => entries_iff (shorter short) }

theorem faithful (stop : Nat) : ∀ n, Faithful stop n
  | 0 => {
      expression := fun short => absurd short (Nat.not_lt_zero _)
      climb := fun short => absurd short (Nat.not_lt_zero _)
      unary := fun short => absurd short (Nat.not_lt_zero _)
      accesses := fun short => absurd short (Nat.not_lt_zero _)
      items := fun short => absurd short (Nat.not_lt_zero _)
      entries := fun short => absurd short (Nat.not_lt_zero _) }
  | n + 1 => (faithful stop n).succ

/-- The reader of a whole expression reads `e` from `ts` and leaves `r` exactly when the grammar,
its negations greedy, derives `e` from `ts` with `r` left, and no operator and no access comes
next in `r`. -/
theorem expression_ok_iff (stop : Nat) (ts : Tokens) (e : Expr) (r : Tokens) :
    plain (expression stop 0 ts) = .ok (e, r) ↔ Level true 1 ts e r ∧ Ends 1 r :=
  (faithful stop (ts.length + 1)).expression_zero (Nat.lt_succ_self _)

end Parser

/-- A text reads as every expression its tokens derive in the grammar with greedy negations. -/
theorem Expr.parse_eq_ok_of_derives {source : String} {ts : Tokens} {e : Expr}
    (lexed : Lexer.tokenize source.toList 0 = .ok ts) (derived : Grammar.Level true 1 ts e []) :
    Expr.parse source = .ok e := by
  obtain ⟨_, found⟩ := Parser.plain_eq_ok.1
    ((Parser.expression_ok_iff source.utf8ByteSize ts e []).2 ⟨derived, trivial⟩)
  unfold Expr.parse
  rw [lexed]
  dsimp only
  rw [found]

theorem Expr.derives_of_parse_eq_ok {source : String} {e : Expr} (parsed : Expr.parse source = .ok e) :
    ∃ ts, Lexer.tokenize source.toList 0 = .ok ts ∧ Grammar.Level true 1 ts e [] := by
  unfold Expr.parse at parsed
  cases lexed : Lexer.tokenize source.toList 0 with
  | error err =>
    rw [lexed] at parsed
    cases parsed
  | ok ts =>
    rw [lexed] at parsed
    dsimp only at parsed
    split at parsed
    · cases parsed
    · rename_i found
      cases parsed
      exact ⟨ts, rfl, ((Parser.expression_ok_iff _ ts e []).1 (Parser.plain_of_eq found)).1⟩
    · cases parsed

/-- A text reads as `e` exactly when its tokens derive `e` in the grammar of expressions in which
the operand of every negation reaches as far as a comparison can. -/
theorem Expr.parse_ok_iff_derives (source : String) (e : Expr) :
    Expr.parse source = .ok e ↔
      ∃ ts, Lexer.tokenize source.toList 0 = .ok ts ∧ Grammar.Level true 1 ts e [] :=
  ⟨Expr.derives_of_parse_eq_ok, fun ⟨_, lexed, derived⟩ => Expr.parse_eq_ok_of_derives lexed derived⟩

-- tokens compare, so that the tokens of a fixed text can be computed
deriving instance DecidableEq for Token

/-- Read as a context-free grammar, the layers also give `not a == b` as `(not a) == b`, and the
reader does not: its negation takes the whole comparison. -/
theorem Expr.parse_negation_takes_comparison :
    ¬ ∀ source e, Expr.parse source = .ok e ↔
      ∃ ts, Lexer.tokenize source.toList 0 = .ok ts ∧ Grammar.Level false 1 ts e [] := by
  intro claimed
  have lexed : Lexer.tokenize "not a == b".toList 0 =
      .ok [(.ident "not", 0), (.ident "a", 4), (.sym "==", 6), (.ident "b", 9)] := by
    have computed : (Lexer.tokenize "not a == b".toList 0).toOption =
        some [(.ident "not", 0), (.ident "a", 4), (.sym "==", 6), (.ident "b", 9)] := by
      decide +kernel
    revert computed
    cases Lexer.tokenize "not a == b".toList 0 <;> simp [Except.toOption]
  have name : ∀ g (word : String) (rest : Tokens) (o : Nat), word ∉ Grammar.keywords →
      Grammar.Unary g ((.ident word, o) :: rest) (.var word) rest :=
    fun _ _ _ _ free => .accessed (.var free) .stop
  -- the reader's tree: the negation takes the comparison `a == b`
  have compared : Grammar.Level true 3 [(.ident "a", 4), (.sym "==", 6), (.ident "b", 9)]
      (.binary .eq (.var "a") (.var "b")) [] :=
    .chain (by decide) (by decide) ((Grammar.Level.unary (name _ "a" _ 4 (by decide))).of_tighter
      (by decide) (by decide))
      (.more rfl ((Grammar.Level.unary (name _ "b" [] 9 (by decide))).of_tighter (by decide) (by decide))
        .stop)
  have read := Expr.parse_eq_ok_of_derives lexed
    ((Grammar.Level.unary (.not rfl compared fun _ => trivial)).of_tighter (by decide) (by decide))
  -- the layers also derive `(not a) == b`: the operand of `not` stops before `==`
  have negated : Grammar.Unary false
      [(.ident "not", 0), (.ident "a", 4), (.sym "==", 6), (.ident "b", 9)]
      (.unary .not (.var "a")) [(.sym "==", 6), (.ident "b", 9)] :=
    .not rfl ((Grammar.Level.unary (name _ "a" _ 4 (by decide))).of_tighter (by decide) (by decide))
      (by intro h; cases h)
  have misread : Grammar.Level false 3
      [(.ident "not", 0), (.ident "a", 4), (.sym "==", 6), (.ident "b", 9)]
      (.binary .eq (.unary .not (.var "a")) (.var "b")) [] :=
    .chain (by decide) (by decide) ((Grammar.Level.unary negated).of_tighter (by decide) (by decide))
      (.more rfl ((Grammar.Level.unary (name _ "b" [] 9 (by decide))).of_tighter (by decide) (by decide))
        .stop)
  have parsed := (claimed _ _).2 ⟨_, lexed, misread.of_tighter (by decide) (by decide)⟩
  rw [read] at parsed
  cases parsed

end PromptPipeline
