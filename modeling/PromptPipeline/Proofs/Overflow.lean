import PromptPipeline.Decimal.Nearest
import Mathlib
/-!
Finite results of rounding.

The doubles that the library builds from exact numbers (`Binary.toFloat` from a significand and
an exponent, `nearestRatio` and `nearest` from a fraction or a decimal, `ofInt` from an integer)
are finite as long as the exact value stays below the overflow threshold, half-way between the
largest double `(2^53 - 1) · 2^971` and `2^1024`. Values are compared as rationals: a double's
parts `m` and `e` stand for `m · 2^e`, a decimal's digits `d` and exponent `g` for `d · 10^g`.

The facts about bits rest on the logical model of `Float`: reading bits back gives them
unchanged unless they spell a NaN, and negation changes the sign bit only.
-/
namespace PromptPipeline.Decimal

open Float.Model.UnpackedFloat

/-- The least value that rounds to infinity: half-way from the largest double to `2^1024`. -/
def overflow : ℚ := 2 ^ 1024 - 2 ^ 970

section Bits

theorem toBits_ofBits_of_ne (u : UInt64) (h : u.toNat / 2 ^ 52 % 2 ^ 11 ≠ 2047) :
    (Float.ofBits u).toBits = u := by
  have notNaN : @isNaNBits Float.Model.Format.binary64 u.toBitVec = false := by
    simp only [isNaNBits, unpackExponent_def, decide_eq_false_iff_not, not_and]
    intro ones
    have := congrArg BitVec.toNat ones
    simp [Float.Model.Format.binary64] at this
    omega
  have packed := @pack_unpack Float.Model.Format.binary64 u.toBitVec (by decide)
  rw [notNaN] at packed
  simp only [Bool.false_eq_true, if_false] at packed
  exact UInt64.toBitVec_inj.mp packed

/-- The exponent field of bits made of a sign, an exponent field below 2047 and a fraction. -/
theorem Binary.exponentField_ofBits {n : Nat} (sign k f : Nat) (signed : sign = 0 ∨ sign = 2 ^ 63)
    (hk : k < 2047) (hf : f < 2 ^ 52) (hn : n = sign + k * 2 ^ 52 + f) :
    Binary.exponentField (Float.ofBits (UInt64.ofNat n)) = k := by
  have fits : n < 2 ^ 64 := by omega
  have bits : (UInt64.ofNat n).toNat = n := UInt64.toNat_ofNat_of_lt' fits
  have field : n / 2 ^ 52 % 2 ^ 11 = k := by omega
  rw [Binary.exponentField, toBits_ofBits_of_ne _ (by rw [bits]; omega), bits]
  exact field

theorem isFinite_ofBits {n : Nat} (sign k f : Nat) (signed : sign = 0 ∨ sign = 2 ^ 63)
    (hk : k < 2047) (hf : f < 2 ^ 52) (hn : n = sign + k * 2 ^ 52 + f) :
    isFinite (Float.ofBits (UInt64.ofNat n)) := by
  simp only [isFinite, Binary.exponentField_ofBits sign k f signed hk hf hn]
  simpa using Nat.ne_of_lt hk

theorem unpackExponent_pack_neg (f : Float.Model.UnpackedFloat) :
    unpackExponent (pack Float.Model.Format.binary64 f.neg) =
      unpackExponent (pack Float.Model.Format.binary64 f) := by
  cases f with
  | notANumber => rfl
  | infinity s => simp [neg, pack, packedInfinity, unpackExponent_packComponents]
  | zero s => simp [neg, pack, packedZero, unpackExponent_packComponents]
  | finite s m e hm =>
    simp only [neg, pack]
    split <;> (try split) <;> simp [packedInfinity, unpackExponent_packComponents]

theorem Binary.exponentField_eq (x : Float) : Binary.exponentField x =
    (@unpackExponent Float.Model.Format.binary64 x.toBits.toBitVec).toNat := by
  simp [Binary.exponentField, unpackExponent_def, Float.Model.Format.binary64,
    Nat.shiftRight_eq_div_pow]

/-- Negation leaves the exponent field alone. -/
theorem Binary.exponentField_neg (y : Float) :
    Binary.exponentField (-y) = Binary.exponentField y := by
  rw [Binary.exponentField_eq, Binary.exponentField_eq]
  show (unpackExponent (pack Float.Model.Format.binary64
    (unpack Float.Model.Format.binary64 y.toModel.toBits.toBitVec).neg)).toNat = _
  rw [unpackExponent_pack_neg, pack_unpack_of_valid y.toModel.valid]
  rfl

@[simp]
theorem isFinite_neg (y : Float) : isFinite (-y) = isFinite y := by
  simp only [isFinite, Binary.exponentField_neg]

theorem ne_nan_of_isFinite {x : Float} (finite : isFinite x) : x ≠ Float.nan := by
  rintro rfl
  have nan : isFinite Float.nan = false := by decide +kernel
  rw [nan] at finite
  contradiction

end Bits

section Powers

/-- An integer power as the code forms it, from the powers of the two halves of its exponent. -/
theorem zpow_eq_pow_div {a : ℚ} (z : ℤ) : a ^ z = a ^ z.toNat / a ^ (-z).toNat := by
  rcases le_or_gt 0 z with nonneg | neg
  · rw [Int.toNat_of_nonpos (show -z ≤ 0 by omega), pow_zero, div_one, ← zpow_natCast,
      Int.toNat_of_nonneg nonneg]
  · rw [Int.toNat_of_nonpos (show z ≤ 0 by omega), pow_zero, one_div, ← zpow_natCast,
      Int.toNat_of_nonneg (show 0 ≤ -z by omega), ← zpow_neg, neg_neg]

/-- A positive ratio lies within a factor two of the power of two of its logarithms. -/
theorem ratio_bounds {num den : Nat} (hnum : num ≠ 0) (hden : den ≠ 0) :
    (2 : ℚ) ^ ((num.log2 : ℤ) - den.log2 - 1) ≤ (num : ℚ) / den ∧
      (num : ℚ) / den < 2 ^ ((num.log2 : ℤ) - den.log2 + 1) := by
  have numLow : (2 : ℚ) ^ num.log2 ≤ num := by exact_mod_cast Nat.log2_self_le hnum
  have numHigh : (num : ℚ) < 2 ^ (num.log2 + 1) := by exact_mod_cast Nat.lt_log2_self
  have denLow : (2 : ℚ) ^ den.log2 ≤ den := by exact_mod_cast Nat.log2_self_le hden
  have denHigh : (den : ℚ) < 2 ^ (den.log2 + 1) := by exact_mod_cast Nat.lt_log2_self
  have denPos : (0 : ℚ) < den := by exact_mod_cast Nat.pos_of_ne_zero hden
  constructor
  · rw [le_div_iff₀ denPos]
    calc (2 : ℚ) ^ ((num.log2 : ℤ) - den.log2 - 1) * den
        ≤ 2 ^ ((num.log2 : ℤ) - den.log2 - 1) * 2 ^ ((den.log2 + 1 : ℕ) : ℤ) := by
          rw [zpow_natCast]; gcongr
      _ = 2 ^ num.log2 := by
          rw [← zpow_add₀ (by norm_num), ← zpow_natCast]; congr 1; push_cast; ring
      _ ≤ num := numLow
  · rw [div_lt_iff₀ denPos]
    calc (num : ℚ) < 2 ^ (num.log2 + 1) := numHigh
      _ = 2 ^ ((num.log2 : ℤ) - den.log2 + 1) * 2 ^ ((den.log2 : ℕ) : ℤ) := by
          rw [← zpow_add₀ (by norm_num), ← zpow_natCast]; congr 1; push_cast; ring
      _ ≤ 2 ^ ((num.log2 : ℤ) - den.log2 + 1) * den := by rw [zpow_natCast]; gcongr

theorem div_le_ratio (top : Nat) {bot : Nat} (pos : 0 < bot) :
    ((top / bot : ℕ) : ℚ) ≤ top / bot := by
  rw [le_div_iff₀ (by exact_mod_cast pos)]
  exact_mod_cast Nat.div_mul_le_self top bot

/-- A remainder of at least half the divisor puts the ratio half a unit above the quotient. -/
theorem div_add_half_le_ratio {top bot : Nat} (pos : 0 < bot) (up : bot ≤ 2 * (top % bot)) :
    ((top / bot : ℕ) : ℚ) + 1 / 2 ≤ top / bot := by
  have parts : (top : ℚ) = bot * (top / bot : ℕ) + (top % bot : ℕ) := by
    exact_mod_cast (Nat.div_add_mod top bot).symm
  have half : (bot : ℚ) ≤ 2 * (top % bot : ℕ) := by exact_mod_cast up
  rw [le_div_iff₀ (by exact_mod_cast pos)]
  nlinarith

/-- Every power of two up to `2^1023` lies below the threshold. -/
theorem two_pow_lt_overflow {k : Nat} (small : k ≤ 1023) : (2 : ℚ) ^ k < overflow := by
  have upTo : (2 : ℚ) ^ k ≤ 2 ^ 1023 := pow_le_pow_right₀ (by norm_num) small
  have gap : (2 : ℚ) ^ 970 < 2 ^ 1023 := pow_lt_pow_right₀ (by norm_num) (by norm_num)
  have twice : (2 : ℚ) ^ 1024 = 2 ^ 1023 + 2 ^ 1023 := by rw [pow_succ, mul_two]
  calc (2 : ℚ) ^ k ≤ 2 ^ 1023 := upTo
    _ = 2 ^ 1023 + 2 ^ 1023 - 2 ^ 1023 := (add_sub_cancel_right _ _).symm
    _ < 2 ^ 1023 + 2 ^ 1023 - 2 ^ 970 := sub_lt_sub_left gap _
    _ = overflow := by rw [overflow, twice]

/-- Normalising moves a significand below `2^53` up by at most the bits it lacks: it stays below
`2^53`. -/
theorem shifted_lt {m shift : Nat} (nonzero : m ≠ 0) (hm : m < 2 ^ 53) (fewer : shift ≤ 52 - m.log2) :
    m * 2 ^ shift < 2 ^ 53 := by
  have top : m < 2 ^ (m.log2 + 1) := Nat.lt_log2_self
  have narrow : m.log2 < 53 := (Nat.log2_lt nonzero).mpr hm
  calc m * 2 ^ shift < 2 ^ (m.log2 + 1) * 2 ^ shift :=
        Nat.mul_lt_mul_of_pos_right top (Nat.two_pow_pos _)
    _ = 2 ^ (m.log2 + 1 + shift) := (Nat.pow_add _ _ _).symm
    _ ≤ 2 ^ 53 := Nat.pow_le_pow_right (by decide) (by omega)

/-- Moving a significand up and its exponent down by as many places keeps its value. -/
theorem shifted_value (m shift : Nat) (e : Int) :
    ((m * 2 ^ shift : Nat) : ℚ) * 2 ^ (e - shift) = m * 2 ^ e := by
  rw [zpow_sub₀ (by norm_num), zpow_natCast]
  push_cast
  field_simp

end Powers

/-- A significand below `2^54` with a value below `2^1024` gives a finite double: the value
fixes the exponent field below 2047, and a value too small for a normal double is subnormal. -/
theorem Binary.isFinite_toFloat (b : Binary) (small : b.significand < 2 ^ 54)
    (below : (b.significand : ℚ) * 2 ^ b.exponent < 2 ^ 1024) : isFinite b.toFloat := by
  obtain ⟨negative, q, e⟩ := b
  simp only at small below
  -- the carry out of rounding is folded into the exponent first
  obtain ⟨m, e, carried, hm, le⟩ : ∃ m e', (if q ≥ Nat.pow 2 53 then (q / 2, e + 1) else (q, e)) =
      (m, e') ∧ m < 2 ^ 53 ∧ (m : ℚ) * 2 ^ e' ≤ q * 2 ^ e := by
    split
    · refine ⟨_, _, rfl, by omega, ?_⟩
      rw [zpow_add_one₀ (by norm_num)]
      have : ((q / 2 : Nat) : ℚ) * 2 ≤ q := by exact_mod_cast Nat.div_mul_le_self q 2
      nlinarith [zpow_pos (by norm_num : (0 : ℚ) < 2) e]
    · exact ⟨_, _, rfl, by simp only [Nat.pow_eq] at *; omega, le_refl _⟩
  have signed : (if negative then Nat.pow 2 63 else 0) = 0 ∨
      (if negative then Nat.pow 2 63 else 0) = 2 ^ 63 := by
    cases negative <;> simp
  simp only [toFloat, carried]
  split
  · exact isFinite_ofBits _ 0 0 signed (by decide) (by decide) (by simp)
  rename_i nonzero
  generalize (if negative then Nat.pow 2 63 else 0) = sign at signed ⊢
  have fewer : min (52 - m.log2) (e + 1074).toNat ≤ 52 - m.log2 := Nat.min_le_left _ _
  generalize min (52 - m.log2) (e + 1074).toNat = shift at fewer ⊢
  -- normalising shifts the significand up to 53 bits at most and keeps the value
  have within := shifted_lt nonzero hm fewer
  have same := shifted_value m shift e
  simp only [Nat.pow_eq] at *
  split
  · exact isFinite_ofBits sign 0 _ signed (by decide) ‹_› (by simp)
  split
  · rename_i normal overflow
    have large : (2 : ℚ) ^ 1024 ≤ ((m * 2 ^ shift : Nat) : ℚ) * 2 ^ (e - shift) := by
      calc (2 : ℚ) ^ 1024 = 2 ^ 52 * 2 ^ ((972 : ℕ) : ℤ) := by rw [zpow_natCast, ← pow_add]
        _ ≤ ((m * 2 ^ shift : Nat) : ℚ) * 2 ^ (e - shift) := by
          apply mul_le_mul (by exact_mod_cast Nat.le_of_not_lt normal)
            (zpow_le_zpow_right₀ (by norm_num) (by omega)) (by positivity) (by positivity)
    rw [same] at large
    exact absurd (large.trans le) (not_le.mpr below)
  · exact isFinite_ofBits sign _ _ signed (by omega) (by omega) rfl

section Rounding

variable {x : ℚ} {q : Nat} {e : Int}

/-- Below the threshold, rounding down stays below `2^1024`. -/
theorem floor_lt_pow (below : x < overflow) (floor : (q : ℚ) * 2 ^ e ≤ x) :
    (q : ℚ) * 2 ^ e < 2 ^ 1024 := by
  have gap : (0 : ℚ) < 2 ^ 970 := by positivity
  exact (floor.trans_lt below).trans (sub_lt_self _ gap)

/-- Below the threshold, rounding up from the upper half of a unit stays below `2^1024` when
the quotient has 53 bits wherever the exponent exceeds 971: a carry to `2^1024` needs a value of
at least `(2^53 - 1/2) · 2^971`, which is the threshold. -/
theorem round_up_lt_pow (below : x < overflow) (floor : (q : ℚ) * 2 ^ e ≤ x)
    (half : ((q : ℚ) + 1 / 2) * 2 ^ e ≤ x) (normal : 972 ≤ e → 2 ^ 52 ≤ q) :
    ((q : ℚ) + 1) * 2 ^ e < 2 ^ 1024 := by
  -- the powers of two involved are multiples of `u = 2^970`
  obtain ⟨u, hu⟩ : ∃ u : ℚ, u = 2 ^ 970 := ⟨_, rfl⟩
  have big : (2 : ℚ) ^ 1024 = 2 ^ 54 * u := by rw [hu, ← pow_add]
  have twice : (2 : ℚ) ^ ((971 : ℕ) : ℤ) = 2 * u := by rw [zpow_natCast, hu, pow_succ, mul_comm]
  have four : (2 : ℚ) ^ ((972 : ℕ) : ℤ) = 4 * u := by
    rw [zpow_natCast, hu, show 972 = 2 + 970 from rfl, pow_add]; norm_num
  have below' : x < 2 ^ 54 * u - u := by rw [← big, hu]; exact below
  have uPos : 0 < u := by rw [hu]; positivity
  clear hu
  rw [big]
  by_contra large
  have large := not_lt.mp large
  have beyond : 2 ^ ((971 : ℕ) : ℤ) < (2 : ℚ) ^ e := by
    rw [twice]; linarith only [half, below', large]
  have e972 : 972 ≤ e := by
    have := (zpow_lt_zpow_iff_right₀ (by norm_num : (1 : ℚ) < 2)).mp beyond
    omega
  have scale : 4 * u ≤ (2 : ℚ) ^ e := by
    calc 4 * u = 2 ^ ((972 : ℕ) : ℤ) := four.symm
      _ ≤ 2 ^ e := zpow_le_zpow_right₀ (by norm_num) (by omega)
  have wide : (2 : ℚ) ^ 52 ≤ q := by exact_mod_cast normal e972
  have wideScale := mul_le_mul_of_nonneg_right wide (by positivity : (0 : ℚ) ≤ 2 ^ e)
  linarith only [wideScale, floor, scale, below', uPos]

end Rounding

/-- The double nearest to a fraction below the threshold is finite. -/
theorem isFinite_nearestRatio (negative : Bool) {num den : Nat} (hnum : num ≠ 0) (hden : den ≠ 0)
    (below : (num : ℚ) / den < overflow) : isFinite (nearestRatio negative num den) := by
  unfold nearestRatio
  extract_lets b e0 top bottom
  have ratio := ratio_bounds hnum hden
  set x : ℚ := (num : ℚ) / den with hx
  have he0 : e0 = max (b - 53) (-1074) := rfl
  have bottomPos : 0 < bottom := Nat.mul_pos (Nat.pos_of_ne_zero hden) (Nat.two_pow_pos _)
  have bottomQ : (0 : ℚ) < bottom := by exact_mod_cast bottomPos
  -- the first scaling puts the ratio below `2^54`, and from `2^52` up unless subnormal
  have scaled : (top : ℚ) / bottom = x * 2 ^ (-e0) := by
    simp only [top, bottom, Nat.pow_eq, hx, zpow_eq_pow_div (-e0), neg_neg]
    push_cast
    field_simp
  have upper : x * 2 ^ (-e0) < 2 ^ 54 := by
    calc x * 2 ^ (-e0) < 2 ^ (b + 1) * 2 ^ (-e0) := by gcongr; exact ratio.2
      _ = 2 ^ (b + 1 - e0) := by rw [← zpow_add₀ (by norm_num), sub_eq_add_neg]
      _ ≤ 2 ^ ((54 : ℕ) : ℤ) := zpow_le_zpow_right₀ (by norm_num) (by omega)
      _ = 2 ^ 54 := zpow_natCast _ _
  have lower (normal : e0 = b - 53) : 2 ^ 52 ≤ x * 2 ^ (-e0) := by
    calc (2 : ℚ) ^ 52 = 2 ^ ((52 : ℕ) : ℤ) := (zpow_natCast _ _).symm
      _ = 2 ^ (b - 1) * 2 ^ (-e0) := by
          rw [← zpow_add₀ (by norm_num), normal, show b - 1 + -(b - 53) = ((52 : ℕ) : ℤ) by omega]
      _ ≤ x * 2 ^ (-e0) := by gcongr; exact ratio.1
  have quotHigh : top / bottom < 2 ^ 54 := by
    rw [Nat.div_lt_iff_lt_mul bottomPos]
    have : (top : ℚ) < 2 ^ 54 * bottom := by rw [← div_lt_iff₀ bottomQ, scaled]; exact upper
    exact_mod_cast this
  have quotLow (normal : e0 = b - 53) : 2 ^ 52 ≤ top / bottom := by
    rw [Nat.le_div_iff_mul_le bottomPos]
    have : (2 : ℚ) ^ 52 * bottom ≤ top := by rw [← le_div_iff₀ bottomQ, scaled]; exact lower normal
    exact_mod_cast this
  -- a quotient from `2^53` up is halved once more, so that it has 53 bits
  obtain ⟨e, bot, halved, exact, quot, normalQuot, near, botPos⟩ : ∃ e bot,
      (if top / bottom ≥ Nat.pow 2 53 then (e0 + 1, 2 * bottom) else (e0, bottom)) = (e, bot) ∧
      (top : ℚ) / bot = x * 2 ^ (-e) ∧ top / bot < 2 ^ 53 ∧ (e0 = b - 53 → 2 ^ 52 ≤ top / bot) ∧
      (e = e0 ∨ e = e0 + 1) ∧ 0 < bot := by
    split
    · rename_i carry
      have halve : top / (2 * bottom) = top / bottom / 2 := by
        rw [Nat.div_div_eq_div_mul, Nat.mul_comm]
      refine ⟨_, _, rfl, ?_, ?_, ?_, .inr rfl, by omega⟩
      · calc (top : ℚ) / ((2 * bottom : ℕ) : ℚ) = top / bottom / 2 := by push_cast; ring
          _ = x * 2 ^ (-(e0 + 1)) := by
            rw [scaled, neg_add, zpow_add₀ (by norm_num), zpow_neg_one]; ring
      · rw [halve]; omega
      · intro _; rw [halve]; simp only [Nat.pow_eq] at carry; omega
    · rename_i small
      exact ⟨_, _, rfl, scaled, by simp only [Nat.pow_eq] at small; omega, quotLow, .inl rfl,
        bottomPos⟩
  rw [halved]
  dsimp only
  have atScale {y : ℚ} (le : y ≤ x * 2 ^ (-e)) : y * 2 ^ e ≤ x := by
    calc y * 2 ^ e ≤ x * 2 ^ (-e) * 2 ^ e := mul_le_mul_of_nonneg_right le (by positivity)
      _ = x := by rw [mul_assoc, ← zpow_add₀ (by norm_num), neg_add_cancel, zpow_zero, mul_one]
  have floor := atScale (exact ▸ div_le_ratio top botPos)
  apply Binary.isFinite_toFloat
  · dsimp only
    split <;> omega
  dsimp only
  split
  · rename_i up
    have half := atScale (exact ▸ div_add_half_le_ratio botPos (by simp at up; omega))
    push_cast
    exact round_up_lt_pow below floor half (fun e972 => normalQuot (by omega))
  · exact floor_lt_pow below floor

/-- A number has at least `digitCount n - 1` decimal places before its leading digit. -/
theorem pow_digitCount_le {n : Nat} (nonzero : n ≠ 0) : 10 ^ (digitCount n - 1) ≤ n := by
  by_cases single : digitCount n - 1 = 0
  · rw [single]; omega
  · by_contra small
    have short := (Nat.length_toDigits_le_iff (by decide) (by omega)).mpr (Nat.lt_of_not_le small)
    simp only [digitCount] at single short
    omega

/-- The double nearest to a decimal below the threshold is finite. -/
theorem isFinite_nearest (negative : Bool) (digits : Nat) (exponent : Int)
    (below : (digits : ℚ) * 10 ^ exponent < overflow) :
    isFinite (nearest negative digits exponent) := by
  unfold nearest
  extract_lets size
  split
  · exact Binary.isFinite_toFloat _ (by simp) (by simp)
  rename_i nonzero
  have nonzero : digits ≠ 0 := by simp at nonzero; omega
  split
  · -- more than 310 integral digits are at least `10^310`, far beyond the threshold
    rename_i large
    have large : (digitCount digits : ℤ) + exponent > 310 := large
    have lead : (10 : ℚ) ^ (digitCount digits - 1) ≤ digits := by
      exact_mod_cast pow_digitCount_le nonzero
    have huge : overflow < 10 ^ ((310 : ℕ) : ℤ) := by
      have : (2 : ℕ) ^ 1024 < 10 ^ 310 := by decide +kernel
      rw [overflow, zpow_natCast]
      have gap : (0 : ℚ) < 2 ^ 970 := by positivity
      exact (sub_lt_self _ gap).trans (by exact_mod_cast this)
    have : (10 : ℚ) ^ ((310 : ℕ) : ℤ) ≤ digits * 10 ^ exponent := by
      calc (10 : ℚ) ^ ((310 : ℕ) : ℤ) ≤ 10 ^ (((digitCount digits - 1 : ℕ) : ℤ) + exponent) :=
            zpow_le_zpow_right₀ (by norm_num) (by omega)
        _ = 10 ^ (digitCount digits - 1) * 10 ^ exponent := by
            rw [zpow_add₀ (by norm_num), zpow_natCast]
        _ ≤ digits * 10 ^ exponent := by gcongr
    exact absurd (this.trans_lt below) (not_lt.mpr huge.le)
  · apply isFinite_nearestRatio negative (by simp [nonzero]) (by simp)
    rw [show ((digits * Nat.pow 10 exponent.toNat : ℕ) : ℚ) / (Nat.pow 10 (-exponent).toNat : ℕ) =
        digits * 10 ^ exponent by simp only [Nat.pow_eq, zpow_eq_pow_div exponent]; push_cast; ring]
    exact below

/-- The double nearest to a natural number below `2^1023` is finite. -/
theorem isFinite_roundNat {n : Nat} (small : n < 2 ^ 1023) : isFinite (ofInt.roundNat n) := by
  unfold ofInt.roundNat
  split
  · rename_i exact
    apply Binary.isFinite_toFloat
    · simp only [Nat.pow_eq] at exact; dsimp only; omega
    · dsimp only
      rw [zpow_zero, mul_one]
      have cast : (n : ℚ) < 2 ^ 1023 := by exact_mod_cast small
      exact cast.trans (pow_lt_pow_right₀ (by norm_num) (by norm_num))
  rename_i wide
  extract_lets shift q r half rounded
  have nonzero : n ≠ 0 := by simp only [Nat.pow_eq] at wide; omega
  have logWide : 53 ≤ n.log2 := (Nat.le_log2 nonzero).mpr (by simp only [Nat.pow_eq] at wide; omega)
  have logSmall : n.log2 < 1023 := by rw [Nat.log2_lt nonzero]; exact small
  -- dropping `shift` bits leaves a 53-bit quotient
  have quot : q < 2 ^ 53 := by
    simp only [q, shift, Nat.pow_eq]
    rw [Nat.div_lt_iff_lt_mul (Nat.two_pow_pos _), ← Nat.pow_add]
    exact Nat.lt_of_lt_of_le Nat.lt_log2_self (Nat.pow_le_pow_right (by decide) (by omega))
  have roundedLe : rounded ≤ 2 ^ 53 := by simp only [rounded]; split <;> omega
  apply Binary.isFinite_toFloat
  · dsimp only; omega
  · dsimp only
    calc (rounded : ℚ) * 2 ^ (shift : ℤ)
        ≤ 2 ^ 53 * 2 ^ shift := by rw [zpow_natCast]; gcongr; exact_mod_cast roundedLe
      _ = 2 ^ (53 + shift) := (pow_add _ _ _).symm
      _ < 2 ^ 1024 := pow_lt_pow_right₀ (by norm_num) (by simp only [shift]; omega)

/-- The double nearest to an integer of magnitude below `2^1023` is finite. -/
theorem isFinite_ofInt {i : Int} (small : i.natAbs < 2 ^ 1023) : isFinite (ofInt i) := by
  unfold ofInt
  split
  · exact isFinite_roundNat (by omega)
  · rw [isFinite_neg]
    exact isFinite_roundNat (by omega)

end PromptPipeline.Decimal
