import PromptPipeline.Expr.Eval
import PromptPipeline.Expr.Parser
import PromptPipeline.Proofs.Layers
import PromptPipeline.Proofs.LooseEquality
import PromptPipeline.Proofs.Whole
/-!
Numbers as values.

The expression language computes with doubles and stores a result as a value: `Value.ofNumber?`
refuses a double that is not finite, keeps an integral double below `2^63` in magnitude as the
integer it equals, and keeps every other double as it is. The edge is strict: `2^63` is
integral, but no signed 64-bit integer holds it, so it stays a double.

`Value.Stores x v` says that `v` holds the double `x` in this way: `x` is finite, `v` reads back
as a double equal to `x` under `==`, and `v` is an integer exactly when `x` is integral and
below `2^63` in magnitude, that integer being the exact value of `x`. Reading the integer back
rounds it to the nearest double, which is `x` again since an integral double has at most 53
significant bits (`Decimal.ofInt_truncate_beq`); the two zeros are equal under `==`, so
negative zero reads back too.

Main statement: `Value.numbers_hold_doubles`, for `ofNumber?`, number literals, the arithmetic
operators and negation.
-/
namespace PromptPipeline.Decimal

open Float.Model.UnpackedFloat

section Bits

/-- Doubles with the same parts are the same double: the parts spell out every bit. -/
theorem Binary.ofFloat_inj {x y : Float} (same : Binary.ofFloat x = Binary.ofFloat y) : x = y := by
  have hx := x.toBits.toNat_lt
  have hy := y.toBits.toNat_lt
  have bits : x.toBits.toNat = y.toBits.toNat := by
    unfold Binary.ofFloat Binary.exponentField at same
    dsimp only at same
    split at same <;> split at same <;>
      simp only [Binary.mk.injEq, decide_eq_decide, Nat.pow_eq] at * <;> omega
  exact Float.toBits_inj.mp (UInt64.toNat_inj.mp bits)

/-- The parts that `Binary.ofFloat` reads off a finite double: a significand below `2^53`, an
exponent of at least `-1074`, and a full 53-bit significand above the least exponent. -/
structure Binary.Normal (b : Binary) : Prop where
  narrow : b.significand < 2 ^ 53
  least : -1074 ≤ b.exponent
  full : b.exponent = -1074 ∨ 2 ^ 52 ≤ b.significand

theorem Binary.normal_ofFloat {x : Float} (finite : isFinite x) : (Binary.ofFloat x).Normal := by
  obtain ⟨narrow, -⟩ := Binary.ofFloat_bounds finite
  refine ⟨narrow, ?_, ?_⟩ <;> unfold Binary.ofFloat <;> dsimp only <;> split
  · exact le_rfl
  · simp only; omega
  · exact .inl rfl
  · exact .inr (by simp only [Nat.pow_eq]; omega)

/-- Of two normal magnitudes with one value, the one at the lower exponent is not lower: it would
need a significand of more than 53 bits. -/
theorem exponent_eq_of_scale {sa sb : Nat} {ea eb : Int} (narrow : sa < 2 ^ 53) (least : -1074 ≤ ea)
    (full : eb = -1074 ∨ 2 ^ 52 ≤ sb) (le : ea ≤ eb) (same : (sa : ℚ) * 2 ^ ea = sb * 2 ^ eb) :
    ea = eb := by
  obtain ⟨d, rfl⟩ : ∃ d : Nat, eb = ea + d := ⟨(eb - ea).toNat, by omega⟩
  have scaled : sa = sb * 2 ^ d := by
    rw [zpow_add₀ (by norm_num), zpow_natCast, mul_comm ((2 : ℚ) ^ ea), ← mul_assoc] at same
    exact_mod_cast mul_right_cancel₀ (zpow_ne_zero ea (by norm_num)) same
  rcases Nat.eq_zero_or_pos d with rfl | pos
  · simp
  · have high : 2 ^ 52 ≤ sb := full.resolve_left (by omega)
    have : 2 ≤ 2 ^ d := Nat.le_self_pow (by omega) 2
    have : 2 ^ 52 * 2 ≤ sb * 2 ^ d := Nat.mul_le_mul high this
    omega

/-- Normal parts with one nonzero value are the same parts: the value fixes the sign, and then the
exponent and the significand. -/
theorem Binary.eq_of_value_eq {a b : Binary} (na : a.Normal) (nb : b.Normal) (same : a.value = b.value)
    (nonzero : a.value ≠ 0) : a = b := by
  obtain ⟨negA, sa, ea⟩ := a
  obtain ⟨negB, sb, eb⟩ := b
  simp only [Binary.value] at same nonzero
  have magnitude : (sa : ℚ) * 2 ^ ea = sb * 2 ^ eb ∧ negA = negB := by
    have posA : 0 ≤ (sa : ℚ) * 2 ^ ea := by positivity
    have posB : 0 ≤ (sb : ℚ) * 2 ^ eb := by positivity
    cases negA <;> cases negB <;> simp only [Bool.false_eq_true, if_false, if_true, one_mul, neg_mul,
      neg_inj, ne_eq, neg_eq_zero, and_true, and_false, Bool.true_eq_false] at same nonzero ⊢
    · exact same
    · exact absurd (by linarith : (sa : ℚ) * 2 ^ ea = 0) nonzero
    · exact absurd (by linarith : (sa : ℚ) * 2 ^ ea = 0) nonzero
    · exact same
  obtain ⟨scale, rfl⟩ := magnitude
  have exponent : ea = eb := by
    rcases le_total ea eb with le | ge
    · exact exponent_eq_of_scale na.narrow na.least nb.full le scale
    · exact (exponent_eq_of_scale nb.narrow nb.least na.full ge scale.symm).symm
  subst exponent
  have : (sa : ℚ) = sb := mul_right_cancel₀ (zpow_ne_zero ea (by norm_num)) scale
  rw [Binary.mk.injEq]
  exact ⟨rfl, by exact_mod_cast this, rfl⟩

/-- A double is the double of its bits read back. -/
theorem eq_ofBits {x : Float} {u : UInt64} (bits : x.toBits.toNat = u.toNat) : x = Float.ofBits u := by
  rw [← UInt64.toNat_inj.mp bits, Float.ofBits_toBits]

/-- A finite double of value zero is one of the two zeros: no exponent field and no fraction,
only the sign bit. -/
theorem zero_of_value {x : Float} (zero : (Binary.ofFloat x).value = 0) :
    x = Float.ofBits 0 ∨ x = Float.ofBits 0x8000000000000000 := by
  have empty : (Binary.ofFloat x).significand = 0 := by
    have power : (2 : ℚ) ^ (Binary.ofFloat x).exponent ≠ 0 := zpow_ne_zero _ two_ne_zero
    have sign : ((if (Binary.ofFloat x).negative then -1 else 1) : ℚ) ≠ 0 := by split <;> norm_num
    simp only [Binary.value] at zero
    exact_mod_cast (mul_eq_zero.mp ((mul_eq_zero.mp zero).resolve_right power)).resolve_left sign
  have bits := x.toBits.toNat_lt
  unfold Binary.ofFloat Binary.exponentField at empty
  dsimp only at empty
  split at empty <;> simp only [Nat.pow_eq] at * <;> [skip; omega]
  rcases Nat.lt_or_ge x.toBits.toNat (2 ^ 63) with low | high
  · exact .inl (eq_ofBits (by simp; omega))
  · exact .inr (eq_ofBits (by simp; omega))

/-- Two finite doubles of one value are equal under `==`: the same double, or the two zeros. -/
theorem beq_of_value_eq {x y : Float} (fx : isFinite x) (fy : isFinite y)
    (same : (Binary.ofFloat x).value = (Binary.ofFloat y).value) : (x == y) = true := by
  by_cases zero : (Binary.ofFloat x).value = 0
  · rcases zero_of_value zero with rfl | rfl <;>
      rcases zero_of_value (same ▸ zero) with rfl | rfl <;> decide +kernel
  · rw [Binary.ofFloat_inj (Binary.eq_of_value_eq (Binary.normal_ofFloat fx)
      (Binary.normal_ofFloat fy) same zero)]
    exact float_beq_self fy

/-! ### Negation -/

theorem unpackMantissa_pack_neg (f : Float.Model.UnpackedFloat) :
    unpackMantissa (pack Float.Model.Format.binary64 f.neg) =
      unpackMantissa (pack Float.Model.Format.binary64 f) := by
  cases f with
  | notANumber => rfl
  | infinity s => simp [neg, pack, packedInfinity]
  | zero s => simp [neg, pack, packedZero]
  | finite s m e hm =>
    simp only [neg, pack]
    split <;> (try split) <;> simp [packedInfinity]

/-- Negation turns the sign bit of every number other than NaN. -/
theorem unpackSign_pack_neg {f : Float.Model.UnpackedFloat} (number : f ≠ .notANumber) :
    (unpackSign (pack Float.Model.Format.binary64 f.neg)).toNat +
      (unpackSign (pack Float.Model.Format.binary64 f)).toNat = 1 := by
  have turned (s : Float.Model.UnpackedFloat.Sign) : (-s).toBitVec.toNat + s.toBitVec.toNat = 1 := by
    cases s <;> rfl
  cases f with
  | notANumber => exact absurd rfl number
  | infinity s => simpa [neg, pack, packedInfinity] using turned s
  | zero s => simpa [neg, pack, packedZero] using turned s
  | finite s m e hm =>
    simp only [neg, pack]
    split <;> (try split) <;> simpa [packedInfinity] using turned s

/-- The three fields of the bits of a double, as numbers. -/
theorem fields_toNat (b : BitVec Float.Model.Format.binary64.numBits) :
    (unpackMantissa b).toNat = b.toNat % 2 ^ 52 ∧
      (unpackExponent b).toNat = b.toNat / 2 ^ 52 % 2 ^ 11 ∧
      (unpackSign b).toNat = b.toNat / 2 ^ 63 := by
  have bound : b.toNat < 2 ^ 64 := b.isLt
  refine ⟨?_, ?_, ?_⟩
  · simp [unpackMantissa_def, Float.Model.Format.binary64]
  · simp [unpackExponent_def, Float.Model.Format.binary64, Nat.shiftRight_eq_div_pow]
  · simp [unpackSign_def, Float.Model.Format.binary64, Nat.shiftRight_eq_div_pow]
    omega

/-- Negating a finite double turns its sign bit and keeps its exponent field and its fraction. -/
theorem toBits_neg {y : Float} (finite : isFinite y) :
    (-y).toBits.toNat % 2 ^ 63 = y.toBits.toNat % 2 ^ 63 ∧
      (-y).toBits.toNat / 2 ^ 63 + y.toBits.toNat / 2 ^ 63 = 1 := by
  let f := unpack Float.Model.Format.binary64 y.toBits.toBitVec
  have packed : pack Float.Model.Format.binary64 f = y.toBits.toBitVec :=
    pack_unpack_of_valid y.toModel.valid
  have negated : pack Float.Model.Format.binary64 f.neg = (-y).toBits.toBitVec := rfl
  have number : f ≠ .notANumber := by
    intro nan
    have bits : y.toBits.toBitVec = packedNaN Float.Model.Format.binary64 := by rw [← packed, nan]; rfl
    have field : Binary.exponentField y = 2047 := by rw [Binary.exponentField_eq, bits]; decide
    simp [isFinite, field] at finite
  have mantissa := congrArg BitVec.toNat (unpackMantissa_pack_neg f)
  have exponent := congrArg BitVec.toNat (unpackExponent_pack_neg f)
  have sign := unpackSign_pack_neg number
  rw [negated, packed] at mantissa exponent sign
  rw [(fields_toNat _).1, (fields_toNat _).1] at mantissa
  rw [(fields_toNat _).2.1, (fields_toNat _).2.1] at exponent
  rw [(fields_toNat _).2.2, (fields_toNat _).2.2] at sign
  have hy := y.toBits.toNat_lt
  have hn := (-y).toBits.toNat_lt
  simp only [UInt64.toNat_toBitVec] at mantissa exponent sign
  omega

/-- The parts of a negated finite double: the other sign, the same significand and exponent. -/
theorem Binary.ofFloat_neg {y : Float} (finite : isFinite y) :
    Binary.ofFloat (-y) = ⟨!(Binary.ofFloat y).negative, (Binary.ofFloat y).significand,
      (Binary.ofFloat y).exponent⟩ := by
  obtain ⟨low, sign⟩ := toBits_neg finite
  have fraction : (-y).toBits.toNat % 2 ^ 52 = y.toBits.toNat % 2 ^ 52 := by omega
  have negative : decide ((-y).toBits.toNat ≥ 2 ^ 63) = !decide (y.toBits.toNat ≥ 2 ^ 63) := by
    have hy := y.toBits.toNat_lt
    have hn := (-y).toBits.toNat_lt
    by_cases high : y.toBits.toNat ≥ 2 ^ 63 <;> simp only [high, decide_true, decide_false,
      Bool.not_true, Bool.not_false, decide_eq_true_eq, decide_eq_false_iff_not] <;> omega
  unfold Binary.ofFloat
  simp only [Binary.exponentField_neg, Nat.pow_eq, fraction, negative]
  split <;> rfl

theorem Binary.value_neg {y : Float} (finite : isFinite y) :
    (Binary.ofFloat (-y)).value = -(Binary.ofFloat y).value := by
  rw [Binary.ofFloat_neg finite]
  simp only [Binary.value]
  cases (Binary.ofFloat y).negative <;> simp

end Bits

/-! ### Integers as doubles -/

/-- Parts of a natural number at a nonnegative exponent, written into a finite double, keep their
value. -/
theorem value_toFloat_nat {q : Nat} {e : Int} (narrow : q ≤ 2 ^ 53) (nonneg : 0 ≤ e)
    (finite : isFinite (Binary.toFloat ⟨false, q, e⟩)) :
    (Binary.ofFloat (Binary.toFloat ⟨false, q, e⟩)).value = ((q * 2 ^ e.toNat : ℕ) : ℤ) := by
  rw [Binary.value_ofFloat_toFloat _ narrow (by simp only; omega) finite]
  exact Binary.value_of_nonneg q nonneg

/-- The double nearest to a natural number of at most 53 significant bits is that number: the bits
that rounding drops are all zero. -/
theorem value_roundNat {n m k : Nat} (rep : n = m * 2 ^ k) (narrow : m < 2 ^ 53)
    (small : n < 2 ^ 1023) : (Binary.ofFloat (ofInt.roundNat n)).value = n := by
  have finite := isFinite_roundNat small
  unfold ofInt.roundNat at finite ⊢
  split
  · rename_i exact
    rw [if_pos exact] at finite
    simp only [Nat.pow_eq] at exact
    rw [value_toFloat_nat exact.le le_rfl finite]
    simp
  rename_i wide
  rw [if_neg wide] at finite
  simp only [Nat.pow_eq] at wide finite ⊢
  have nonzero : n ≠ 0 := by omega
  have logWide : 53 ≤ n.log2 := (Nat.le_log2 nonzero).mpr (by omega)
  -- the dropped bits lie below the factor `2^k` of `n`
  have logSmall : n.log2 < 53 + k := by
    rw [Nat.log2_lt nonzero, rep, Nat.pow_add]
    exact Nat.mul_lt_mul_of_pos_right narrow (Nat.two_pow_pos k)
  have shiftLe : n.log2 - 52 ≤ k := by omega
  have divides : 2 ^ (n.log2 - 52) ∣ n :=
    (Nat.pow_dvd_pow 2 shiftLe).trans ⟨m, by rw [rep, Nat.mul_comm]⟩
  have exactly : n % 2 ^ (n.log2 - 52) = 0 := Nat.mod_eq_zero_of_dvd divides
  -- nothing is dropped, so nothing is rounded up
  simp only [exactly, gt_iff_lt, Nat.not_lt_zero, (Nat.two_pow_pos _).ne, decide_false,
    Bool.false_or, Bool.false_and, Bool.false_eq_true, if_false] at finite ⊢
  have quotient : n / 2 ^ (n.log2 - 52) < 2 ^ 53 := by
    rw [Nat.div_lt_iff_lt_mul (Nat.two_pow_pos _), ← Nat.pow_add]
    exact Nat.lt_of_lt_of_le Nat.lt_log2_self (Nat.pow_le_pow_right (by decide) (by omega))
  rw [value_toFloat_nat quotient.le (by omega) finite, Int.toNat_natCast,
    Nat.div_mul_cancel divides]
  rfl

/-- The double nearest to an integer of at most 53 significant bits is that integer. -/
theorem value_ofInt {i : Int} {m k : Nat} (rep : i.natAbs = m * 2 ^ k) (narrow : m < 2 ^ 53)
    (small : i.natAbs < 2 ^ 1023) : (Binary.ofFloat (ofInt i)).value = i := by
  unfold ofInt
  split
  · rename_i nonneg
    have size : i.toNat = i.natAbs := by omega
    rw [size, value_roundNat rep narrow small, ← Int.cast_natCast, Int.natAbs_of_nonneg nonneg]
  · rename_i negative
    have size : (-i).toNat = i.natAbs := by omega
    rw [Binary.value_neg (isFinite_roundNat (by omega)), size, value_roundNat rep narrow small]
    have opposite : (i.natAbs : ℤ) = -i := by omega
    rw [← Int.cast_natCast, opposite, Int.cast_neg, neg_neg]

/-- The integer part of an integral double is its exact value: at a negative exponent the dropped
bits are zero. -/
theorem truncate_value {x : Float} (whole : isIntegral x) :
    ((truncate x : ℤ) : ℚ) = (Binary.ofFloat x).value := by
  unfold isIntegral at whole
  unfold truncate
  generalize Binary.ofFloat x = b at whole ⊢
  obtain ⟨negative, q, e⟩ := b
  simp only [Bool.and_eq_true, Bool.or_eq_true, decide_eq_true_eq, Nat.pow_eq] at whole ⊢
  have magnitude : ((if e ≥ 0 then q * 2 ^ e.toNat else q / 2 ^ (-e).toNat : ℕ) : ℚ) = q * 2 ^ e := by
    split
    · rename_i nonneg
      push_cast
      rw [← zpow_natCast, Int.toNat_of_nonneg nonneg]
    · rename_i neg
      have divides : 2 ^ (-e).toNat ∣ q :=
        Nat.dvd_of_mod_eq_zero (whole.2.resolve_left neg)
      rw [Nat.cast_div divides (by positivity)]
      have he : e = -(((-e).toNat : ℕ) : ℤ) := by omega
      conv_rhs => rw [he, zpow_neg, zpow_natCast]
      push_cast
      ring
  simp only [Binary.value]
  split <;> simp only [Int.cast_neg, Int.cast_natCast, magnitude] <;> ring

/-- The integer part of a finite double has at most 53 significant bits. -/
theorem truncate_parts {x : Float} (finite : isFinite x) :
    ∃ m k, (truncate x).natAbs = m * 2 ^ k ∧ m < 2 ^ 53 := by
  have narrow := (Binary.normal_ofFloat finite).narrow
  unfold truncate
  generalize Binary.ofFloat x = b at narrow ⊢
  obtain ⟨negative, q, e⟩ := b
  simp only [Nat.pow_eq] at narrow ⊢
  have size : ∃ m k, (if e ≥ 0 then q * 2 ^ e.toNat else q / 2 ^ (-e).toNat) = m * 2 ^ k ∧
      m < 2 ^ 53 := by
    split
    · exact ⟨q, e.toNat, rfl, narrow⟩
    · exact ⟨_, 0, (Nat.mul_one _).symm, lt_of_le_of_lt (Nat.div_le_self _ _) narrow⟩
  obtain ⟨m, k, eq, small⟩ := size
  refine ⟨m, k, ?_, small⟩
  split <;> simp only [eq, Int.natAbs_neg, Int.natAbs_natCast]

/-- An integral double below `2^63` in magnitude, stored as its integer and read back as a double,
is equal to itself under `==`. -/
theorem ofInt_truncate_beq {x : Float} (whole : isIntegral x) (small : (truncate x).natAbs < 2 ^ 63) :
    (ofInt (truncate x) == x) = true := by
  have finite : isFinite x := by
    unfold isIntegral at whole
    exact (Bool.and_eq_true _ _ ▸ whole).1
  obtain ⟨m, k, rep, narrow⟩ := truncate_parts finite
  -- the exponent stays a variable until the end, so that `2 ^ 1023` is never evaluated
  have wider : ∀ k, 63 ≤ k → 2 ^ 63 ≤ 2 ^ k := fun _ le => Nat.pow_le_pow_right (by decide) le
  have below : (truncate x).natAbs < 2 ^ 1023 := lt_of_lt_of_le small (wider 1023 (by decide))
  apply beq_of_value_eq (isFinite_ofInt below) finite
  rw [value_ofInt rep narrow below, truncate_value whole]

end PromptPipeline.Decimal

namespace PromptPipeline

/-- The value `v` holds the double `x` as the expression language holds numbers: `x` is finite, `v`
reads back as a double equal to `x`, and `v` is the integer of `x`'s exact value when `x` is
integral and below `2^63` in magnitude, and the double `x` itself otherwise. -/
structure Value.Stores (x : Float) (v : Value) : Prop where
  finite : Decimal.isFinite x
  readsBack : ∃ m, v.asNumber? = some m ∧ (m == x) = true
  exact : Decimal.isIntegral x ∧ |(Decimal.Binary.ofFloat x).value| < 2 ^ 63 →
    ∃ i : Int, v = .num (.int i) ∧ (i : ℚ) = (Decimal.Binary.ofFloat x).value
  double : ¬ (Decimal.isIntegral x ∧ |(Decimal.Binary.ofFloat x).value| < 2 ^ 63) →
    v = .num (.float x)

namespace Value

theorem abs_cast_lt_iff {i : Int} : |(i : ℚ)| < 2 ^ 63 ↔ i.natAbs < 2 ^ 63 := by
  rw [← Int.cast_abs, Int.abs_eq_natAbs]
  exact_mod_cast Iff.rfl

theorem ofNumber?_eq_none_iff (x : Float) : ofNumber? x = none ↔ Decimal.isFinite x = false := by
  unfold ofNumber?
  split
  · rename_i infinite
    simpa using infinite
  · rename_i finite
    simp only [Bool.not_eq_true', Bool.not_eq_false] at finite
    split <;> simp [finite]

/-- What `ofNumber?` builds holds the double it was given. -/
theorem stores_of_ofNumber? {x : Float} {v : Value} (built : ofNumber? x = some v) : v.Stores x := by
  unfold ofNumber? at built
  split at built
  · cases built
  rename_i finite
  simp only [Bool.not_eq_true', Bool.not_eq_false] at finite
  split at built
  · -- an integer: its value is the double's, and it reads back as the double
    rename_i small
    simp only [Bool.and_eq_true, decide_eq_true_eq, Nat.pow_eq] at small
    obtain ⟨whole, below⟩ := small
    cases built
    have value := Decimal.truncate_value whole
    refine ⟨finite, ⟨_, rfl, Decimal.ofInt_truncate_beq whole below⟩, fun _ => ⟨_, rfl, value⟩,
      fun wide => absurd ⟨whole, ?_⟩ wide⟩
    rw [← value]
    exact abs_cast_lt_iff.mpr below
  · -- a double: it reads back as itself
    rename_i wide
    cases built
    refine ⟨finite, ⟨x, rfl, Decimal.float_beq_self finite⟩, fun ⟨whole, below⟩ => ?_, fun _ => rfl⟩
    rw [← Decimal.truncate_value whole] at below
    simp only [Bool.and_eq_true, decide_eq_true_eq, Nat.pow_eq, not_and] at wide
    exact absurd (abs_cast_lt_iff.mp below) (wide whole)

end Value

/-- A number literal is what `ofNumber?` builds from its double, and `null` for an infinite one. -/
theorem Parser.numberLiteral_eq (x : Float) : numberLiteral x = (Value.ofNumber? x).getD .null := by
  unfold numberLiteral Value.ofNumber?
  split
  · rfl
  · split <;> rfl

/-- A number literal holds the double it was read as. -/
theorem Parser.numberLiteral_stores {x : Float} {n : Number} (lit : numberLiteral x = .num n) :
    (Value.num n).Stores x := by
  rw [numberLiteral_eq] at lit
  cases built : Value.ofNumber? x with
  | none =>
    rw [built] at lit
    cases lit
  | some v =>
    rw [built, Option.getD_some] at lit
    subst lit
    exact Value.stores_of_ofNumber? built

theorem Expr.finite_eq_ok {x : Float} {op : String} {v : Value} :
    Expr.finite x op = .ok v ↔ Value.ofNumber? x = some v := by
  unfold Expr.finite
  split <;> simp_all

/-- The double that an arithmetic operator computes from two doubles; `+` for the operators that
compute no double. -/
def BinOp.onDoubles : BinOp → Float → Float → Float
  | .sub, a, b => a - b
  | .mul, a, b => a * b
  | .div, a, b => a / b
  | .rem, a, b => Decimal.truncatedRemainder a b
  | _, a, b => a + b

namespace Expr

/-- What arithmetic on two doubles gives is what `ofNumber?` builds from the double it computes. -/
theorem arithmetic_eq_ok {op : BinOp} {a b : Float} {v : Value} (computed : arithmetic op a b = .ok v) :
    Value.ofNumber? (op.onDoubles a b) = some v := by
  cases op <;> simp only [arithmetic, BinOp.onDoubles] at computed ⊢
  case div | rem =>
    split at computed
    · cases computed
    · exact finite_eq_ok.mp computed
  all_goals exact finite_eq_ok.mp computed

/-- A number that an arithmetic operator gives is what `ofNumber?` builds from the double computed
from its two operands read as doubles: joining lists or texts gives no number. -/
theorem applyBinary_num {op : BinOp} (arith : op ∈ [BinOp.add, .sub, .mul, .div, .rem])
    {l r : Value} {n : Number} (applied : applyBinary op l r = .ok (.num n)) :
    ∃ a b, l.asNumber? = some a ∧ r.asNumber? = some b ∧
      Value.ofNumber? (op.onDoubles a b) = some (.num n) := by
  simp only [List.mem_cons, List.not_mem_nil, or_false] at arith
  rcases arith with rfl | rfl | rfl | rfl | rfl
  · dsimp only [applyBinary] at applied
    split at applied
    · rename_i a b la rb
      exact ⟨a, b, la, rb, finite_eq_ok.mp applied⟩
    · split at applied <;> cases applied
  all_goals
    dsimp only [applyBinary] at applied
    split at applied
    · cases applied
    rename_i a la
    split at applied
    · cases applied
    rename_i b rb
    exact ⟨a, b, la, rb, arithmetic_eq_ok applied⟩

theorem eval_binary_arith {lookup : String → Except EvalError Value} {op : BinOp}
    (arith : op ∈ [BinOp.add, .sub, .mul, .div, .rem]) (lhs rhs : Expr) :
    eval lookup (.binary op lhs rhs) = (do
      let l ← eval lookup lhs
      let r ← eval lookup rhs
      applyBinary op l r) := by
  simp only [List.mem_cons, List.not_mem_nil, or_false] at arith
  -- the general case of `eval`, once `and` and `or` are ruled out
  rcases arith with rfl | rfl | rfl | rfl | rfl <;> rw [eval] <;> intro same <;> cases same

/-- A number that evaluating an arithmetic operator gives holds the double that the operator
computes from the values of its operands. -/
theorem eval_arithmetic_stores {lookup : String → Except EvalError Value} {op : BinOp}
    (arith : op ∈ [BinOp.add, .sub, .mul, .div, .rem]) {lhs rhs : Expr} {n : Number}
    (evaluated : eval lookup (.binary op lhs rhs) = .ok (.num n)) :
    ∃ l r a b, eval lookup lhs = .ok l ∧ eval lookup rhs = .ok r ∧ l.asNumber? = some a ∧
      r.asNumber? = some b ∧ (Value.num n).Stores (op.onDoubles a b) := by
  rw [eval_binary_arith arith] at evaluated
  obtain ⟨l, left, rest⟩ := bind_eq_ok evaluated
  obtain ⟨r, right, applied⟩ := bind_eq_ok rest
  obtain ⟨a, b, la, rb, built⟩ := applyBinary_num arith applied
  exact ⟨l, r, a, b, left, right, la, rb, Value.stores_of_ofNumber? built⟩

/-- A number that evaluating a negation gives holds the negated double of its operand. -/
theorem eval_negation_stores {lookup : String → Except EvalError Value} {operand : Expr}
    {n : Number} (evaluated : eval lookup (.unary .neg operand) = .ok (.num n)) :
    ∃ v y, eval lookup operand = .ok v ∧ v.asNumber? = some y ∧ (Value.num n).Stores (-y) := by
  rw [eval] at evaluated
  obtain ⟨v, operated, negated⟩ := bind_eq_ok evaluated
  split at negated
  · rename_i y read
    exact ⟨v, y, operated, read, Value.stores_of_ofNumber? (finite_eq_ok.mp negated)⟩
  · cases negated

end Expr

theorem Value.numbers_hold_doubles :
    (∀ x, Value.ofNumber? x = none ↔ Decimal.isFinite x = false) ∧
    (∀ x v, Value.ofNumber? x = some v → v.Stores x) ∧
    (∀ x n, Parser.numberLiteral x = .num n → (Value.num n).Stores x) ∧
    (∀ lookup op lhs rhs n, op ∈ [BinOp.add, .sub, .mul, .div, .rem] →
      Expr.eval lookup (.binary op lhs rhs) = .ok (.num n) →
      ∃ l r a b, Expr.eval lookup lhs = .ok l ∧ Expr.eval lookup rhs = .ok r ∧
        l.asNumber? = some a ∧ r.asNumber? = some b ∧ (Value.num n).Stores (op.onDoubles a b)) ∧
    (∀ lookup operand n, Expr.eval lookup (.unary .neg operand) = .ok (.num n) →
      ∃ v y, Expr.eval lookup operand = .ok v ∧ v.asNumber? = some y ∧
        (Value.num n).Stores (-y)) :=
  ⟨Value.ofNumber?_eq_none_iff, fun _ _ => Value.stores_of_ofNumber?,
    fun _ _ => Parser.numberLiteral_stores, fun _ _ _ _ _ arith => Expr.eval_arithmetic_stores arith,
    fun _ _ _ => Expr.eval_negation_stores⟩

/-- `2^63` is integral but stays a double, and `1 + 2` evaluates to the integer `3`. -/
theorem Value.numbers_hold_doubles_at_edge :
    Value.ofNumber? (Float.ofBits 0x43E0000000000000) =
        some (.num (.float (Float.ofBits 0x43E0000000000000))) ∧
      (Value.num (.float (Float.ofBits 0x43E0000000000000))).Stores
        (Float.ofBits 0x43E0000000000000) ∧
      Expr.eval (fun _ => .ok .null) (.binary .add (.lit (.ofInt 1)) (.lit (.ofInt 2))) =
        .ok (.num (.int 3)) ∧
      (Value.num (.int 3)).Stores (Decimal.ofInt 1 + Decimal.ofInt 2) := by
  have finite : Decimal.isFinite (Float.ofBits 0x43E0000000000000) = true := by decide +kernel
  have whole : Decimal.isIntegral (Float.ofBits 0x43E0000000000000) = true := by decide +kernel
  have wide : Decimal.truncate (Float.ofBits 0x43E0000000000000) = 9223372036854775808 := by
    decide +kernel
  have edge : Value.ofNumber? (Float.ofBits 0x43E0000000000000) =
      some (.num (.float (Float.ofBits 0x43E0000000000000))) := by
    unfold Value.ofNumber?
    rw [finite, whole, wide]
    rfl
  have sumFinite : Decimal.isFinite (Decimal.ofInt 1 + Decimal.ofInt 2) = true := by decide +kernel
  have sumWhole : Decimal.isIntegral (Decimal.ofInt 1 + Decimal.ofInt 2) = true := by decide +kernel
  have three : Decimal.truncate (Decimal.ofInt 1 + Decimal.ofInt 2) = 3 := by decide +kernel
  have sum : Expr.eval (fun _ => .ok .null) (.binary .add (.lit (.ofInt 1)) (.lit (.ofInt 2))) =
      .ok (.num (.int 3)) := by
    rw [Expr.eval_binary_arith (by simp)]
    show Expr.finite (Decimal.ofInt 1 + Decimal.ofInt 2) "+" = _
    rw [Expr.finite_eq_ok]
    unfold Value.ofNumber?
    rw [sumFinite, sumWhole, three]
    rfl
  obtain ⟨l, r, a, b, left, right, la, rb, stored⟩ :=
    Value.numbers_hold_doubles.2.2.2.1 _ _ _ _ _ (by simp) sum
  simp only [Expr.eval, Except.ok.injEq] at left right
  subst left right
  simp only [Value.ofInt, Value.asNumber?, Number.toFloat, Option.some.injEq] at la rb
  subst la rb
  exact ⟨edge, Value.numbers_hold_doubles.2.1 _ _ edge, sum, stored⟩

end PromptPipeline
