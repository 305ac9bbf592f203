import PromptPipeline.Proofs.NumberText
import PromptPipeline.Expr.Eval
import Mathlib
/-!
Loose equality is an equivalence.

`Value.looseEq`, the `==` of expressions, compares in one of three ways: as doubles when both
sides read as numbers, as texts when both are scalars, and structurally otherwise. `Value.tier`
says which way a value takes part in, and loose equality is agreement of tiers
(`looseEq_eq_agree`), which is an equivalence on the tiers of well-formed values. The two things
that could break transitivity are ruled out there: a double is never NaN, and a number never
meets a text, since the text of a numeric scalar reads as a number again
(`Value.asNumber?_str_write`) and so never equals the text of a scalar that does not.
-/
namespace PromptPipeline

namespace Decimal

/-! ### Doubles under `==`

`==` on doubles is equality, except that NaN equals nothing and the two zeros equal each other. -/

theorem float_beq_comm (x y : Float) : (x == y) = (y == x) := by
  rw [Bool.eq_iff_iff, Float.beq_iff_ne_nan_and_eq, Float.beq_iff_ne_nan_and_eq]
  grind

theorem float_beq_trans {x y z : Float} (xy : x == y) (yz : y == z) : x == z := by
  rw [Float.beq_iff_ne_nan_and_eq] at xy yz ⊢
  -- a case split on which of the equations are between the two zeros
  grind

theorem float_beq_self {x : Float} (finite : isFinite x) : x == x :=
  Float.beq_self_iff.mpr (ne_nan_of_isFinite finite)

end Decimal

namespace Number

theorem beq_symm : (a b : Number) → a.beq b = b.beq a
  | .int i, .int j => by simp only [beq]; exact Bool.beq_comm
  | .float x, .float y => by simp only [beq]; exact Decimal.float_beq_comm x y
  | .int _, .float _ | .float _, .int _ => rfl

theorem beq_trans {a b c : Number} (ab : a.beq b) (bc : b.beq c) : a.beq c := by
  cases a <;> cases b <;> cases c <;>
    simp only [beq, beq_iff_eq, Bool.false_eq_true] at ab bc ⊢
  · exact ab.trans bc
  · exact Decimal.float_beq_trans ab bc

theorem beq_self : (n : Number) → n.WellFormed → n.beq n
  | .int _, _ => by simp [beq]
  | .float _, finite => by simp only [beq]; exact Decimal.float_beq_self finite

theorem isFinite_toFloat : (n : Number) → n.WellFormed → Decimal.isFinite n.toFloat
  | .int _, ⟨lo, hi⟩ => Decimal.isFinite_ofInt (by omega)
  | .float _, finite => finite

end Number

namespace Value

mutual
/-- Whether the numbers inside a value are those of JSON data: integers in the range of a signed
or unsigned 64-bit word and finite doubles. -/
def wellFormed : Value → Bool
  | .num n => decide n.WellFormed
  | .list items => wellFormedItems items
  | .map entries => wellFormedEntries entries
  | _ => true
def wellFormedItems : List Value → Bool
  | [] => true
  | v :: vs => v.wellFormed && wellFormedItems vs
def wellFormedEntries : List (String × Value) → Bool
  | [] => true
  | (_, v) :: rest => v.wellFormed && wellFormedEntries rest
end

/-! ### Structural equality

Symmetric and transitive on all values, and reflexive on well-formed ones; each proof follows the
mutual recursion of `beq`. -/

theorem bEq_eq_beq (a b : Value) : (a == b) = a.beq b := rfl

mutual
theorem beq_symm : (a b : Value) → a.beq b = b.beq a
  | .null, b => by cases b <;> rfl
  | .bool x, b => by
    cases b <;> simp only [beq]
    exact Bool.beq_comm
  | .num x, b => by
    cases b <;> simp only [beq]
    exact Number.beq_symm x _
  | .str x, b => by
    cases b <;> simp only [beq]
    exact Bool.beq_comm
  | .list xs, b => by
    cases b <;> simp only [beq]
    exact beqItems_symm xs _
  | .map xs, b => by
    cases b <;> simp only [beq]
    exact beqEntries_symm xs _
theorem beqItems_symm : (xs ys : List Value) → beqItems xs ys = beqItems ys xs
  | [], ys => by cases ys <;> rfl
  | _ :: _, [] => rfl
  | x :: xs, y :: ys => by simp only [beqItems, beq_symm x y, beqItems_symm xs ys]
theorem beqEntries_symm : (xs ys : List (String × Value)) → beqEntries xs ys = beqEntries ys xs
  | [], ys => by cases ys <;> rfl
  | _ :: _, [] => rfl
  | (k, x) :: xs, (l, y) :: ys => by
    have keys : (k == l) = (l == k) := Bool.beq_comm
    simp only [beqEntries, keys, beq_symm x y, beqEntries_symm xs ys]
end

mutual
theorem beq_trans : (a b c : Value) → a.beq b → b.beq c → a.beq c
  | .null, b, c, ab, bc => by
    cases b <;> cases c <;> simp only [beq, Bool.false_eq_true] at ab bc ⊢
  | .bool _, b, c, ab, bc => by
    cases b <;> cases c <;> simp only [beq, beq_iff_eq, Bool.false_eq_true] at ab bc ⊢
    exact ab.trans bc
  | .num _, b, c, ab, bc => by
    cases b <;> cases c <;> simp only [beq, Bool.false_eq_true] at ab bc ⊢
    exact Number.beq_trans ab bc
  | .str _, b, c, ab, bc => by
    cases b <;> cases c <;> simp only [beq, beq_iff_eq, Bool.false_eq_true] at ab bc ⊢
    exact ab.trans bc
  | .list xs, b, c, ab, bc => by
    cases b <;> cases c <;> simp only [beq, Bool.false_eq_true] at ab bc ⊢
    exact beqItems_trans xs _ _ ab bc
  | .map xs, b, c, ab, bc => by
    cases b <;> cases c <;> simp only [beq, Bool.false_eq_true] at ab bc ⊢
    exact beqEntries_trans xs _ _ ab bc
termination_by structural a => a
theorem beqItems_trans :
    (xs ys zs : List Value) → beqItems xs ys → beqItems ys zs → beqItems xs zs
  | [], ys, zs, ab, bc => by
    cases ys <;> cases zs <;> simp only [beqItems, Bool.false_eq_true] at ab bc ⊢
  | _ :: _, [], _, ab, _ => by simp only [beqItems, Bool.false_eq_true] at ab
  | _ :: _, _ :: _, [], _, bc => by simp only [beqItems, Bool.false_eq_true] at bc
  | x :: xs, y :: ys, z :: zs, ab, bc => by
    simp only [beqItems, Bool.and_eq_true] at ab bc ⊢
    exact ⟨beq_trans x y z ab.1 bc.1, beqItems_trans xs ys zs ab.2 bc.2⟩
termination_by structural xs => xs
theorem beqEntries_trans : (xs ys zs : List (String × Value)) →
    beqEntries xs ys → beqEntries ys zs → beqEntries xs zs
  | [], ys, zs, ab, bc => by
    cases ys <;> cases zs <;> simp only [beqEntries, Bool.false_eq_true] at ab bc ⊢
  | _ :: _, [], _, ab, _ => by simp only [beqEntries, Bool.false_eq_true] at ab
  | _ :: _, _ :: _, [], _, bc => by simp only [beqEntries, Bool.false_eq_true] at bc
  | (_, x) :: xs, (_, y) :: ys, (_, z) :: zs, ab, bc => by
    simp only [beqEntries, Bool.and_eq_true, beq_iff_eq] at ab bc ⊢
    exact ⟨⟨ab.1.1.trans bc.1.1, beq_trans x y z ab.1.2 bc.1.2⟩,
      beqEntries_trans xs ys zs ab.2 bc.2⟩
termination_by structural xs => xs
end

mutual
theorem beq_self : (a : Value) → a.wellFormed → a.beq a
  | .null, _ | .bool _, _ | .str _, _ => by simp [beq]
  | .num n, wf => by
    simp only [wellFormed, decide_eq_true_eq] at wf
    simp only [beq]
    exact n.beq_self wf
  | .list xs, wf => by simp only [wellFormed] at wf; simp only [beq]; exact beqItems_self xs wf
  | .map xs, wf => by simp only [wellFormed] at wf; simp only [beq]; exact beqEntries_self xs wf
theorem beqItems_self : (xs : List Value) → wellFormedItems xs → beqItems xs xs
  | [], _ => rfl
  | x :: xs, wf => by
    simp only [wellFormedItems, Bool.and_eq_true] at wf
    simp only [beqItems, beq_self x wf.1, beqItems_self xs wf.2, Bool.and_self]
theorem beqEntries_self : (xs : List (String × Value)) → wellFormedEntries xs → beqEntries xs xs
  | [], _ => rfl
  | (_, x) :: xs, wf => by
    simp only [wellFormedEntries, Bool.and_eq_true] at wf
    simp only [beqEntries, beq_self_eq_true, beq_self x wf.1, beqEntries_self xs wf.2,
      Bool.and_self]
end

/-! ### The three readings of loose equality -/

/-- How a value takes part in loose equality: as a double, for a number or a string that reads
as one; as its text, for any other scalar; or as a whole, for null, lists and maps. -/
inductive Tier where
  | number (x : Float)
  | text (s : String)
  | whole (v : Value)

/-- The tier of a value. -/
def tier (v : Value) : Tier :=
  match v.asNumber?, v.scalarText? with
  | some x, _ => .number x
  | none, some s => .text s
  | none, none => .whole v

/-- Two tiers agree when they are of one kind and equal as such. -/
def Tier.agree : Tier → Tier → Bool
  | .number x, .number y => x == y
  | .text s, .text t => s == t
  | .whole v, .whole w => v == w
  | _, _ => false

namespace Tier

theorem agree_symm : (s t : Tier) → s.agree t = t.agree s
  | .number x, .number y => Decimal.float_beq_comm x y
  | .text _, .text _ => Bool.beq_comm
  | .whole v, .whole w => beq_symm v w
  | .number _, .text _ | .number _, .whole _ | .text _, .number _ | .text _, .whole _
  | .whole _, .number _ | .whole _, .text _ => rfl

theorem agree_trans {s t u : Tier} (st : s.agree t) (tu : t.agree u) : s.agree u := by
  cases s <;> cases t <;> cases u <;>
    simp only [agree, beq_iff_eq, Bool.false_eq_true] at st tu ⊢
  · exact Decimal.float_beq_trans st tu
  · exact st.trans tu
  · exact beq_trans _ _ _ st tu

end Tier

section Readings

variable {a b c v : Value} {x y : Float} {s t : String}

theorem tier_of_asNumber? (hA : v.asNumber? = some x) : tier v = .number x := by
  simp [tier, hA]

theorem tier_of_scalarText? (hA : v.asNumber? = none) (hS : v.scalarText? = some s) :
    tier v = .text s := by
  simp [tier, hA, hS]

theorem tier_of_structural (hA : v.asNumber? = none) (hS : v.scalarText? = none) :
    tier v = .whole v := by
  simp [tier, hA, hS]

theorem looseEq_of_asNumber? (hA : a.asNumber? = some x) (hB : b.asNumber? = some y) :
    a.looseEq b = (x == y) := by
  unfold looseEq
  split <;> simp_all [asNumber?]

theorem looseEq_of_scalarText? (hAB : a.asNumber? = none ∨ b.asNumber? = none)
    (hS : a.scalarText? = some s) (hT : b.scalarText? = some t) : a.looseEq b = (s == t) := by
  unfold looseEq
  split
  all_goals rcases hAB with hA | hB <;> simp_all [scalarText?]

theorem looseEq_of_structural (hAB : a.asNumber? = none ∨ b.asNumber? = none)
    (hST : a.scalarText? = none ∨ b.scalarText? = none) : a.looseEq b = (a == b) := by
  unfold looseEq
  split
  · rfl
  · cases b <;> simp_all [bEq_eq_beq, beq]
  · cases a <;> simp_all [bEq_eq_beq, beq]
  · rcases hAB with hA | hB <;> rcases hST with hS | hT <;> simp_all

/-! ### Numbers never meet texts -/

theorem scalarText?_of_asNumber? (hA : v.asNumber? = some x) : v.scalarText?.isSome := by
  cases v <;> simp_all [asNumber?, scalarText?]

theorem isFinite_of_asNumber? (wf : v.wellFormed) (hA : v.asNumber? = some x) :
    Decimal.isFinite x := by
  cases v with
  | num n =>
    simp only [wellFormed, decide_eq_true_eq] at wf
    simp only [asNumber?, Option.some.injEq] at hA
    exact hA ▸ n.isFinite_toFloat wf
  | str s =>
    rcases read : Decimal.ofString? (Text.trim s) with _ | y
    · simp [asNumber?, read] at hA
    · by_cases finite : Decimal.isFinite y
      · simp only [asNumber?, read, finite, if_true, Option.some.injEq] at hA
        exact hA ▸ finite
      · simp [asNumber?, read, finite] at hA
  | _ => simp [asNumber?] at hA

/-- The text of a scalar that reads as a number reads as a number again. -/
theorem asNumber?_str_of_numeric (wf : v.wellFormed) (hA : v.asNumber?.isSome)
    (hS : v.scalarText? = some s) : (str s).asNumber?.isSome := by
  cases v with
  | num n =>
    simp only [wellFormed, decide_eq_true_eq] at wf
    simp only [scalarText?, Option.some.injEq] at hS
    exact hS ▸ asNumber?_str_write wf
  | str t =>
    simp only [scalarText?, Option.some.injEq] at hS
    exact hS ▸ hA
  | _ => simp [asNumber?] at hA

theorem asNumber?_str_word {w : String} (visible : ∀ c ∈ w.toList, Text.isBlank c = false)
    (unread : (Decimal.ofString? w).isNone) : (str w).asNumber? = none := by
  rw [Option.isNone_iff_eq_none] at unread
  simp [asNumber?, Text.trim_eq_self visible, unread]

/-- The text of a scalar that does not read as a number does not read as one either. -/
theorem asNumber?_str_of_not_numeric (hA : v.asNumber? = none) (hS : v.scalarText? = some s) :
    (str s).asNumber? = none := by
  cases v with
  | str t =>
    simp only [scalarText?, Option.some.injEq] at hS
    exact hS ▸ hA
  | bool b =>
    simp only [scalarText?, Option.some.injEq] at hS
    subst hS
    cases b
    · exact asNumber?_str_word (by simp [Text.isBlank_eq_false]) (by decide +kernel)
    · exact asNumber?_str_word (by simp [Text.isBlank_eq_false]) (by decide +kernel)
  | num n => simp [asNumber?] at hA
  | _ => simp [scalarText?] at hS

theorem beq_eq_false_of_scalarText? (hS : a.scalarText?.isSome) (hT : b.scalarText? = none) :
    a.beq b = false := by
  cases a <;> cases b <;> simp_all [scalarText?, beq]

/-- A value that reads as a number is loosely equal to no value that does not, either way round:
against a text they compare as two texts, of which only the first reads as a number. -/
theorem looseEq_number_other (wf : a.wellFormed) (hA : a.asNumber? = some x)
    (hB : b.asNumber? = none) : a.looseEq b = false ∧ b.looseEq a = false := by
  obtain ⟨s, hS⟩ := Option.isSome_iff_exists.mp (scalarText?_of_asNumber? hA)
  rcases hT : b.scalarText? with _ | t
  · have differ : a.beq b = false := beq_eq_false_of_scalarText? (by simp [hS]) hT
    rw [looseEq_of_structural (.inr hB) (.inr hT), looseEq_of_structural (.inl hB) (.inl hT),
      bEq_eq_beq, bEq_eq_beq, beq_symm b a]
    exact ⟨differ, differ⟩
  · have differ : s ≠ t := by
      rintro rfl
      have numeric := asNumber?_str_of_numeric wf (by simp [hA]) hS
      rw [asNumber?_str_of_not_numeric hB hT] at numeric
      contradiction
    rw [looseEq_of_scalarText? (.inr hB) hS hT, looseEq_of_scalarText? (.inl hB) hT hS]
    simp [differ, Ne.symm differ]

/-! ### Loose equality as agreement of tiers -/

theorem agree_number (hA : v.asNumber? = none) (y : Float) :
    (tier v).agree (.number y) = false := by
  rcases hS : v.scalarText? with _ | s
  · rw [tier_of_structural hA hS]; rfl
  · rw [tier_of_scalarText? hA hS]; rfl

/-- On well-formed values, loose equality is agreement of tiers. -/
theorem looseEq_eq_agree (ha : a.wellFormed) (hb : b.wellFormed) :
    a.looseEq b = (tier a).agree (tier b) := by
  rcases hA : a.asNumber? with _ | x <;> rcases hB : b.asNumber? with _ | y
  · -- neither reads as a number: texts of scalars, everything else structurally
    rcases hS : a.scalarText? with _ | s <;> rcases hT : b.scalarText? with _ | t
    · rw [looseEq_of_structural (.inl hA) (.inl hS), tier_of_structural hA hS,
        tier_of_structural hB hT]
      rfl
    · rw [looseEq_of_structural (.inl hA) (.inl hS), tier_of_structural hA hS,
        tier_of_scalarText? hB hT, bEq_eq_beq, beq_symm]
      exact beq_eq_false_of_scalarText? (by simp [hT]) hS
    · rw [looseEq_of_structural (.inr hB) (.inr hT), tier_of_scalarText? hA hS,
        tier_of_structural hB hT, bEq_eq_beq]
      exact beq_eq_false_of_scalarText? (by simp [hS]) hT
    · rw [looseEq_of_scalarText? (.inl hA) hS hT, tier_of_scalarText? hA hS,
        tier_of_scalarText? hB hT]
      rfl
  · rw [(looseEq_number_other hb hB hA).2, tier_of_asNumber? hB, agree_number hA]
  · rw [(looseEq_number_other ha hA hB).1, tier_of_asNumber? hA, Tier.agree_symm,
      agree_number hB]
  · rw [looseEq_of_asNumber? hA hB, tier_of_asNumber? hA, tier_of_asNumber? hB]
    rfl

theorem agree_tier_self (wf : v.wellFormed) : (tier v).agree (tier v) := by
  rcases hA : v.asNumber? with _ | x
  · rcases hS : v.scalarText? with _ | s
    · rw [tier_of_structural hA hS]
      exact beq_self v wf
    · rw [tier_of_scalarText? hA hS]
      exact beq_self_eq_true s
  · rw [tier_of_asNumber? hA]
    exact Decimal.float_beq_self (isFinite_of_asNumber? wf hA)

theorem looseEq_self (wf : v.wellFormed) : v.looseEq v := by
  rw [looseEq_eq_agree wf wf]
  exact agree_tier_self wf

theorem looseEq_comm (ha : a.wellFormed) (hb : b.wellFormed) : a.looseEq b = b.looseEq a := by
  rw [looseEq_eq_agree ha hb, looseEq_eq_agree hb ha, Tier.agree_symm]

theorem looseEq_trans (ha : a.wellFormed) (hb : b.wellFormed) (hc : c.wellFormed)
    (ab : a.looseEq b) (bc : b.looseEq c) : a.looseEq c := by
  rw [looseEq_eq_agree ha hb] at ab
  rw [looseEq_eq_agree hb hc] at bc
  rw [looseEq_eq_agree ha hc]
  exact Tier.agree_trans ab bc

end Readings

end Value

namespace Expr

/-- `a != b` evaluates as `not (a == b)`. -/
theorem eval_ne (lookup : String → Except EvalError Value) (lhs rhs : Expr) :
    eval lookup (.binary .ne lhs rhs) = eval lookup (.unary .not (.binary .eq lhs rhs)) := by
  -- neither operator short-circuits: both evaluate the two sides, then compare
  rw [eval.eq_11 lookup .ne lhs rhs nofun nofun, eval, eval.eq_11 lookup .eq lhs rhs nofun nofun]
  cases eval lookup lhs <;> cases eval lookup rhs <;> rfl

end Expr

/-- Loose equality is an equivalence on well-formed values, and `!=` is its negation. -/
theorem Value.looseEq_equivalence :
    Equivalence (fun a b : {v : Value // v.wellFormed} => a.1.looseEq b.1) ∧
      ∀ lookup lhs rhs, Expr.eval lookup (.binary .ne lhs rhs) =
        Expr.eval lookup (.unary .not (.binary .eq lhs rhs)) := by
  refine ⟨⟨fun a => ?_, fun {a b} ab => ?_, fun {a b c} ab bc => ?_⟩, Expr.eval_ne⟩
  · exact looseEq_self a.2
  · rwa [looseEq_comm b.2 a.2]
  · exact looseEq_trans a.2 b.2 c.2 ab bc

end PromptPipeline
