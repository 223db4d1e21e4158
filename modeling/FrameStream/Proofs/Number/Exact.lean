import FrameStream.Proofs.Number.Integers

/-!
# Exact numbers

A number with no more bits than a format has precision is a number of the format, if its exponent is in range
(`Finite.exists_of_bits`); the powers of ten up to the twenty-second are such numbers in double precision
(`exists_round_powerOfTen`).  A product or quotient of numbers of the format is the nearest number to the exact product
or quotient of their values (`Finite.times_eq_ofRatio`, `Finite.dividedBy_eq_ofRatio`).
-/

namespace FrameStream

variable {F : FloatFormat}

/-! ### Numbers of a format -/

/-- The mantissa is filled up with zeros; one of all bits and one more is a power of two. -/
theorem Finite.exists_of_bits {m : Nat} {e : Int} (bits : m ≤ 2 ^ F.precision) (positive : 0 < F.precision)
    (low : F.minExponent + F.precision ≤ e) (high : e < F.maxExponent) :
    ∃ x : Finite F, x.negative = false ∧ x.magnitude.value = m * (2 : ℚ) ^ e := by
  rcases Nat.eq_zero_or_pos m with rfl | some_bit
  · have canonical : F.Canonical 0 F.minExponent := ⟨Nat.two_pow_pos _, le_rfl, by omega, .inr rfl⟩
    exact ⟨⟨false, _, _, canonical⟩, rfl, by simp [value_magnitude]⟩
  rcases bits.lt_or_eq with fits | full
  · have size : m.log2 < F.precision := (Nat.log2_lt some_bit.ne').2 fits
    obtain ⟨zeros, filled⟩ : ∃ zeros, F.precision = m.log2 + 1 + zeros := ⟨F.precision - m.log2 - 1, by omega⟩
    have canonical : F.Canonical (m * 2 ^ zeros) (e - zeros) := by
      refine ⟨?_, by omega, by omega, .inl ?_⟩
      · rw [Nat.pow_eq, filled, Nat.pow_add]
        exact Nat.mul_lt_mul_of_pos_right Nat.lt_log2_self (Nat.two_pow_pos zeros)
      · rw [Nat.pow_eq, filled, show m.log2 + 1 + zeros - 1 = m.log2 + zeros by omega, Nat.pow_add]
        exact Nat.mul_le_mul_right _ (Nat.log2_self_le some_bit.ne')
    refine ⟨⟨false, _, _, canonical⟩, rfl, ?_⟩
    rw [value_magnitude, zpow_sub₀ two_ne_zero, zpow_natCast]
    push_cast
    field_simp
  · have canonical : F.Canonical (2 ^ (F.precision - 1)) (e + 1) := by
      refine ⟨?_, by omega, by omega, .inl le_rfl⟩
      exact Nat.pow_lt_pow_right one_lt_two (by omega)
    refine ⟨⟨false, _, _, canonical⟩, rfl, ?_⟩
    rw [value_magnitude, full, ← Nat.two_pow_pred_mul_two positive, zpow_add_one₀ two_ne_zero]
    push_cast
    ring

/-- What has the value of a number of the format is rounded to such a number. -/
theorem Binary.exists_ofRatio_of_bits {r : Ratio} (den : 0 < r.den) {m : Nat} {e : Int} (value : r.value = m * 2 ^ e)
    (bits : m ≤ 2 ^ F.precision) (positive : 0 < F.precision) (low : F.minExponent + F.precision ≤ e)
    (high : e < F.maxExponent) :
    ∃ x : Finite F, ofRatio F false r = .finite x ∧ x.negative = false ∧ x.magnitude.value = r.value := by
  obtain ⟨x, sign, same⟩ := Finite.exists_of_bits bits positive low high
  have rounded := x.ofRatio_of_value_eq den (value.trans (same.symm.trans x.value_magnitude))
  rw [sign] at rounded
  exact ⟨x, rounded, sign, same.trans value.symm⟩

/-- The power of five in it has no more than 53 bits. -/
theorem exists_round_powerOfTen {k : Nat} (small : k ≤ 22) :
    ∃ x : Finite double, (⟨1, k⟩ : Decimal).round double false = .finite x ∧ x.negative = false ∧
      x.magnitude.value = 10 ^ k := by
  have value : (⟨1, k⟩ : Decimal).ratio.value = 10 ^ k := by
    rw [Decimal.value_ratio, Nat.cast_one, one_mul, zpow_natCast]
  have split : (⟨1, k⟩ : Decimal).ratio.value = (5 ^ k : Nat) * (2 : ℚ) ^ (k : Int) := by
    rw [value, zpow_natCast, Nat.cast_pow, ← mul_pow]
    norm_num
  have bits : 5 ^ k ≤ 2 ^ double.precision :=
    calc 5 ^ k ≤ 5 ^ 22 := Nat.pow_le_pow_right (by decide) small
      _ ≤ 2 ^ double.precision := by decide
  have low : double.minExponent + double.precision ≤ k := by
    change (-1074 : Int) + 53 ≤ k
    omega
  have high : (k : Int) < double.maxExponent := by
    change (k : Int) < 971
    omega
  obtain ⟨x, rounded, sign, same⟩ :=
    Binary.exists_ofRatio_of_bits (Decimal.den_ratio_pos _) split bits (by decide) low high
  exact ⟨x, (Decimal.round_eq_ofRatio _ _).trans rounded, sign, same.trans value⟩

/-! ### Products and quotients -/

namespace Finite

variable {x y : Finite F} {r : Ratio}

theorem den_magnitude_pos (x : Finite F) : 0 < x.magnitude.den := Ratio.den_scale_pos two_pos one_pos _

theorem times_eq_ofRatio (den : 0 < r.den) (value : r.value = x.magnitude.value * y.magnitude.value) :
    x.times y = .ofRatio F (x.negative != y.negative) r := by
  apply Binary.ofRatio_congr (Nat.mul_pos x.den_magnitude_pos y.den_magnitude_pos) den
  rw [value]
  simp only [Ratio.value, Nat.cast_mul]
  exact (div_mul_div_comm _ _ _ _).symm

theorem dividedBy_eq_ofRatio (divisor : y.magnitude.value ≠ 0) (den : 0 < r.den)
    (value : r.value = x.magnitude.value / y.magnitude.value) :
    x.dividedBy y = .ofRatio F (x.negative != y.negative) r := by
  have num : y.magnitude.num ≠ 0 := fun zero => divisor ((Ratio.value_eq_zero_iff y.den_magnitude_pos).2 zero)
  apply Binary.ofRatio_congr (Nat.mul_pos x.den_magnitude_pos (Nat.pos_of_ne_zero num)) den
  rw [value]
  simp only [Ratio.value, Nat.cast_mul]
  exact (div_div_div_eq _ _ _ _).symm

end Finite

end FrameStream
