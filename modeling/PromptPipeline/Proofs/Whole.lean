import PromptPipeline.Proofs.Overflow
/-!
Whole doubles.

The exact value of a double is `± significand · 2^exponent`, with the parts that `Binary.ofFloat`
reads off its bits. Writing parts into bits with `Binary.toFloat` and reading them back keeps
that value whenever the parts need no rounding, so a finite double built from parts of integral
value is whole. The double nearest to a natural number is built so (`nearest_nat_parts`): it is
whole exactly when it is finite (`isIntegral_nearest_nat`).
-/
namespace PromptPipeline.Decimal

/-- The exact value of a double's parts. -/
def Binary.value (b : Binary) : ℚ :=
  (if b.negative then -1 else 1) * b.significand * 2 ^ b.exponent

section Bits

/-- Reading back bits made of a sign, an exponent field below 2047 and a fraction: a zero field
gives a subnormal, any other a normal double with its hidden bit. -/
theorem Binary.ofFloat_ofBits {n : Nat} (sign k f : Nat) (signed : sign = 0 ∨ sign = 2 ^ 63)
    (hk : k < 2047) (hf : f < 2 ^ 52) (hn : n = sign + k * 2 ^ 52 + f) :
    Binary.ofFloat (Float.ofBits (UInt64.ofNat n)) =
      if k = 0 then ⟨sign = 2 ^ 63, f, -1074⟩ else ⟨sign = 2 ^ 63, f + 2 ^ 52, (k : Int) - 1075⟩ := by
  have fits : n < 2 ^ 64 := by omega
  have bits : (UInt64.ofNat n).toNat = n := UInt64.toNat_ofNat_of_lt' fits
  have field := Binary.exponentField_ofBits sign k f signed hk hf hn
  have read : (Float.ofBits (UInt64.ofNat n)).toBits.toNat = n := by
    rw [toBits_ofBits_of_ne _ (by rw [bits]; omega), bits]
  have fraction : n % 2 ^ 52 = f := by omega
  have negative : decide (n ≥ 2 ^ 63) = decide (sign = 2 ^ 63) := by
    rcases signed with rfl | rfl <;> simp <;> omega
  unfold Binary.ofFloat
  simp only [read, field, Nat.pow_eq, fraction, negative]

/-- Infinite bits: the exponent field all ones and no fraction. -/
theorem not_isFinite_infinity (sign : Nat) (signed : sign = 0 ∨ sign = 2 ^ 63) :
    isFinite (Float.ofBits (UInt64.ofNat (sign + 2047 * 2 ^ 52))) = false := by
  rcases signed with rfl | rfl <;> decide +kernel

end Bits

/-- Writing parts that need no rounding into bits and reading them back keeps their value: a
significand of at most `2^53` (the carry out of rounding, halved exactly), an exponent of at least
`-1074`, and a finite result. -/
theorem Binary.value_ofFloat_toFloat (b : Binary) (small : b.significand ≤ 2 ^ 53)
    (low : -1074 ≤ b.exponent) (finite : isFinite b.toFloat) :
    (Binary.ofFloat b.toFloat).value = b.value := by
  obtain ⟨negative, q, e⟩ := b
  simp only at small low
  -- the carry `2^53` is halved without loss
  obtain ⟨m, e', carried, hm, low', same⟩ : ∃ m e', (if q ≥ Nat.pow 2 53 then (q / 2, e + 1)
      else (q, e)) = (m, e') ∧ m < 2 ^ 53 ∧ -1074 ≤ e' ∧ (m : ℚ) * 2 ^ e' = q * 2 ^ e := by
    split
    · rename_i carry
      have top : q = 2 ^ 53 := by simp only [Nat.pow_eq] at carry; omega
      refine ⟨_, _, rfl, by omega, by omega, ?_⟩
      rw [zpow_add_one₀ (by norm_num), top]
      norm_num
      ring
    · exact ⟨_, _, rfl, by simp only [Nat.pow_eq] at *; omega, low, rfl⟩
  have signed : (if negative then 2 ^ 63 else 0) = 0 ∨ (if negative then 2 ^ 63 else 0) = 2 ^ 63 := by
    cases negative <;> simp
  have signOf : decide ((if negative then 2 ^ 63 else 0) = 2 ^ 63) = negative := by
    cases negative <;> simp
  simp only [toFloat, carried, Nat.pow_eq] at finite ⊢
  split
  · -- nothing but the sign
    rename_i zero
    subst zero
    have empty : q = 0 := by
      have : (q : ℚ) * 2 ^ e = 0 := by rw [← same]; simp
      rcases mul_eq_zero.mp this with h | h
      · exact_mod_cast h
      · exact absurd h (by positivity)
    rw [Binary.ofFloat_ofBits _ 0 0 signed (by decide) (by decide) (by simp)]
    simp [Binary.value, empty]
  rename_i nonzero
  split at finite
  · exact absurd ‹_› nonzero
  have fewer : min (52 - m.log2) (e' + 1074).toNat ≤ 52 - m.log2 := Nat.min_le_left _ _
  have within : min (52 - m.log2) (e' + 1074).toNat ≤ (e' + 1074).toNat := Nat.min_le_right _ _
  have either : min (52 - m.log2) (e' + 1074).toNat = 52 - m.log2 ∨
      min (52 - m.log2) (e' + 1074).toNat = (e' + 1074).toNat := by omega
  generalize min (52 - m.log2) (e' + 1074).toNat = shift at fewer within either finite ⊢
  -- normalising shifts the significand to at most 53 bits and keeps the value
  have bound := shifted_lt nonzero hm fewer
  have kept := shifted_value m shift e'
  have value : Binary.value ⟨negative, q, e⟩ = (if negative then -1 else 1) * (m * 2 ^ e') := by
    simp only [Binary.value, same, mul_assoc]
  split
  · -- a subnormal: the shift stopped at the least exponent
    rename_i subnormal
    have least : e' - shift = -1074 := by
      have full : shift ≠ 52 - m.log2 := by
        intro full
        have lead : 2 ^ m.log2 ≤ m := Nat.log2_self_le nonzero
        have : 2 ^ 52 ≤ m * 2 ^ shift := by
          calc 2 ^ 52 = 2 ^ m.log2 * 2 ^ shift := by
                rw [← Nat.pow_add, full]; congr 1; have := (Nat.log2_lt nonzero).mpr hm; omega
            _ ≤ m * 2 ^ shift := Nat.mul_le_mul_right _ lead
        omega
      omega
    rw [Binary.ofFloat_ofBits _ 0 _ signed (by decide) subnormal (by simp), if_pos rfl, value,
      signOf]
    simp only [Binary.value]
    rw [← kept, least, mul_assoc]
  · rename_i normal
    rw [if_neg normal] at finite
    split at finite
    · rw [not_isFinite_infinity _ signed] at finite
      cases finite
    rename_i inRange
    have biased : 1 ≤ e' - shift + 1075 := by omega
    rw [if_neg inRange, Binary.ofFloat_ofBits _ (e' - shift + 1075).toNat (m * 2 ^ shift - 2 ^ 52) signed
      (by omega) (by omega) rfl, if_neg (by omega), value, signOf]
    simp only [Binary.value]
    have unbiased : ((e' - shift + 1075).toNat : Int) - 1075 = e' - shift := by omega
    rw [← kept, Nat.sub_add_cancel (Nat.le_of_not_lt normal), unbiased, mul_assoc]

/-- Parts at a nonnegative exponent have the value of a natural number. -/
theorem Binary.value_of_nonneg (q : Nat) {e : Int} (nonneg : 0 ≤ e) :
    (⟨false, q, e⟩ : Binary).value = ((q * 2 ^ e.toNat : ℕ) : ℤ) := by
  simp only [Binary.value, Bool.false_eq_true, if_false, one_mul]
  push_cast
  rw [← zpow_natCast, Int.toNat_of_nonneg nonneg]

/-- A finite double whose exact value is an integer is whole: at a negative exponent the
significand is that integer scaled up by the missing power of two. -/
theorem isIntegral_of_value {x : Float} (finite : isFinite x) {z : ℤ}
    (whole : (Binary.ofFloat x).value = z) : isIntegral x := by
  unfold isIntegral
  rw [Bool.and_eq_true]
  refine ⟨finite, ?_⟩
  generalize Binary.ofFloat x = parts at whole ⊢
  obtain ⟨negative, q, e⟩ := parts
  simp only [Bool.or_eq_true, decide_eq_true_eq, Nat.pow_eq]
  rcases le_or_gt 0 e with nonneg | neg
  · exact .inl nonneg
  right
  simp only [Binary.value] at whole ⊢
  have he : e = -(((-e).toNat : ℕ) : ℤ) := by omega
  rw [he, zpow_neg, zpow_natCast] at whole
  obtain ⟨w, scaled⟩ : ∃ w : ℤ, (q : ℚ) = w * 2 ^ (-e).toNat := by
    refine ⟨if negative then -z else z, ?_⟩
    cases negative
    · simp only [Bool.false_eq_true, if_false, one_mul] at whole ⊢
      rw [← whole]
      field_simp
    · simp only [if_true, neg_mul, one_mul] at whole ⊢
      push_cast
      rw [← whole]
      field_simp
  have cast : (q : ℤ) = ((2 ^ (-e).toNat : ℕ) : ℤ) * w := by
    push_cast
    exact_mod_cast scaled.trans (mul_comm _ _)
  exact Nat.mod_eq_zero_of_dvd (Int.natCast_dvd_natCast.mp ⟨w, cast⟩)

/-- The parts of the double nearest to a positive natural number: at most 53 bits are kept
exactly, scaled up to 54 bits and halved once without remainder; more bits are rounded at a
nonnegative exponent. Either way the parts have an integral value. -/
theorem nearestRatio_nat_parts {n : Nat} (nonzero : n ≠ 0) :
    ∃ b : Binary, nearestRatio false n 1 = b.toFloat ∧ b.significand ≤ 2 ^ 53 ∧
      -1074 ≤ b.exponent ∧ ∃ z : ℤ, b.value = z := by
  unfold nearestRatio
  extract_lets b e0 top bottom
  have one : Nat.log2 1 = 0 := Nat.log2_two_pow (n := 0)
  have hb : b = n.log2 := by simp [b, one]
  have he0 : e0 = max (b - 53) (-1074) := rfl
  have narrow : n < 2 ^ (n.log2 + 1) := Nat.lt_log2_self
  have lead : 2 ^ n.log2 ≤ n := Nat.log2_self_le nonzero
  by_cases few : n.log2 < 53
  · have hTop : top = 2 * (n * 2 ^ (52 - n.log2)) := by
      simp only [top, Nat.pow_eq]
      rw [show (-e0).toNat = 52 - n.log2 + 1 by omega, Nat.pow_succ]
      ring
    have hBottom : bottom = 1 := by
      simp only [bottom, Nat.pow_eq]
      rw [show e0.toNat = 0 by omega]
    have carry : top / bottom ≥ Nat.pow 2 53 := by
      have wide : 2 ^ 53 = 2 * (2 ^ n.log2 * 2 ^ (52 - n.log2)) := by
        rw [← Nat.pow_add, ← Nat.pow_succ']
        congr 1
        omega
      rw [hBottom, Nat.div_one, hTop, Nat.pow_eq, wide]
      exact Nat.mul_le_mul_left _ (Nat.mul_le_mul_right _ lead)
    rw [if_pos carry]
    dsimp only
    rw [hTop, hBottom, Nat.mul_div_mul_left _ _ (by decide), Nat.div_one, Nat.mul_mod_mul_left,
      Nat.mod_one]
    rw [if_neg (by simp)]
    refine ⟨_, rfl, ?_, by dsimp only; omega, n, ?_⟩
    · calc n * 2 ^ (52 - n.log2) ≤ 2 ^ (n.log2 + 1) * 2 ^ (52 - n.log2) :=
            Nat.mul_le_mul_right _ narrow.le
        _ = 2 ^ 53 := by rw [← Nat.pow_add]; congr 1; omega
    · have he : e0 + 1 = -((52 - n.log2 : ℕ) : ℤ) := by omega
      simp only [Binary.value, Bool.false_eq_true, if_false, one_mul, he, zpow_neg, zpow_natCast]
      push_cast
      field_simp
  · -- more bits: rounded at a nonnegative exponent
    have hTop : top = n := by
      simp only [top, Nat.pow_eq]
      rw [show (-e0).toNat = 0 by omega, Nat.pow_zero, Nat.mul_one]
    have hBottom : bottom = 2 ^ (n.log2 - 53) := by
      simp only [bottom, Nat.pow_eq]
      rw [show e0.toNat = n.log2 - 53 by omega, Nat.one_mul]
    have quotHigh : top / bottom < 2 ^ 54 := by
      rw [hTop, hBottom, Nat.div_lt_iff_lt_mul (Nat.two_pow_pos _), ← Nat.pow_add]
      calc n < 2 ^ (n.log2 + 1) := narrow
        _ = 2 ^ (54 + (n.log2 - 53)) := by congr 1; omega
    obtain ⟨e, bot, halved, quot, nonneg⟩ : ∃ e bot,
        (if top / bottom ≥ Nat.pow 2 53 then (e0 + 1, 2 * bottom) else (e0, bottom)) = (e, bot) ∧
        top / bot < 2 ^ 53 ∧ 0 ≤ e := by
      split
      · have halve : top / (2 * bottom) = top / bottom / 2 := by
          rw [Nat.div_div_eq_div_mul, Nat.mul_comm]
        exact ⟨_, _, rfl, by rw [halve]; omega, by omega⟩
      · rename_i small
        exact ⟨_, _, rfl, by simp only [Nat.pow_eq] at small; omega, by omega⟩
    rw [halved]
    dsimp only
    refine ⟨_, rfl, ?_, by dsimp only; omega, _, Binary.value_of_nonneg _ nonneg⟩
    dsimp only
    split <;> omega

/-- The double nearest to a natural number is built from parts of integral value that need no
rounding when read back: zero, the parts of an infinity, or those of `nearestRatio_nat_parts`. -/
theorem nearest_nat_parts (n : Nat) :
    ∃ b : Binary, nearest false n 0 = b.toFloat ∧ b.significand ≤ 2 ^ 53 ∧
      -1074 ≤ b.exponent ∧ ∃ z : ℤ, b.value = z := by
  unfold nearest
  extract_lets size
  split
  · exact ⟨_, rfl, Nat.zero_le _, by dsimp only; omega, _, Binary.value_of_nonneg 0 le_rfl⟩
  rename_i nonzero
  split
  · exact ⟨_, rfl, Nat.le_refl _, by dsimp only; omega, _, Binary.value_of_nonneg _ (by omega)⟩
  · have nonzero : n ≠ 0 := by simp at nonzero; omega
    simpa [Nat.pow_eq] using nearestRatio_nat_parts nonzero

/-- The double nearest to a natural number is whole exactly when it is finite. -/
theorem isIntegral_nearest_nat (n : Nat) :
    isIntegral (nearest false n 0) = isFinite (nearest false n 0) := by
  obtain ⟨b, built, small, low, z, whole⟩ := nearest_nat_parts n
  cases finite : isFinite (nearest false n 0)
  · simp [isIntegral, finite]
  · rw [built] at finite ⊢
    exact isIntegral_of_value finite ((Binary.value_ofFloat_toFloat b small low finite).trans whole)

end PromptPipeline.Decimal
