import FrameStream.Proofs.Number.Rounding

/-!
# Integers in a binary format

An integer with more bits than a format has precision is rounded to a multiple of a power of two: to the nearest one,
and half way between two of them to the one with the even factor (`Binary.exists_ofInt`).
-/

namespace FrameStream

namespace Ratio

variable {r : Ratio}

/-- The nearest integer is one of the two next to the ratio. -/
theorem nearest_eq_or (r : Ratio) : r.nearest = r.num / r.den ∨ r.nearest = r.num / r.den + 1 := by
  unfold nearest
  dsimp only
  split
  · exact .inl rfl
  · split
    · exact .inr rfl
    · omega

/-- The nearest integer is no further than a half, and even if it is that far. -/
theorem nearest_spec (den : 0 < r.den) :
    2 * |(r.nearest * r.den : ℤ) - r.num| ≤ r.den ∧
      (2 * |(r.nearest * r.den : ℤ) - r.num| = r.den → Even r.nearest) := by
  have rest : r.num % r.den < r.den := Nat.mod_lt _ den
  have whole : (r.num : ℤ) = (r.num / r.den : Nat) * r.den + (r.num % r.den : Nat) := by
    exact_mod_cast (Nat.div_add_mod' r.num r.den).symm
  have below : |((r.num / r.den : Nat) * r.den : ℤ) - r.num| = (r.num % r.den : Nat) := by
    rw [abs_sub_comm, abs_of_nonneg] <;> omega
  have above : |((r.num / r.den + 1 : Nat) * r.den : ℤ) - r.num| = r.den - (r.num % r.den : Nat) := by
    rw [Nat.cast_add_one, add_mul, one_mul, abs_of_nonneg] <;> omega
  unfold nearest
  dsimp only
  split
  · rw [below]
    exact ⟨by omega, fun tie => by omega⟩
  · split
    · rw [above]
      exact ⟨by omega, fun tie => by omega⟩
    · -- half way: the even one of the two
      rcases Nat.mod_two_eq_zero_or_one (r.num / r.den) with even | odd
      · rw [even, Nat.add_zero, below]
        exact ⟨by omega, fun _ => Nat.even_iff.2 even⟩
      · rw [odd, above]
        exact ⟨by omega, fun _ => Nat.even_iff.2 (by omega)⟩

theorem log2_of_bounds {n t : Nat} (low : 2 ^ t ≤ n) (high : n < 2 ^ (t + 1)) : (⟨n, 1⟩ : Ratio).log2 = t := by
  have positive : 0 < n := (Nat.two_pow_pos t).trans_le low
  have value : (⟨n, 1⟩ : Ratio).value = n := by simp [Ratio.value]
  rw [log2_eq_log positive one_pos, value]
  apply log_eq_of_bounds
  · exact_mod_cast positive
  · exact_mod_cast low
  · exact_mod_cast high

end Ratio

variable {F : FloatFormat}

theorem Finite.value_magnitude (x : Finite F) : x.magnitude.value = x.mantissa * (2 : ℚ) ^ x.exponent := by
  rw [magnitude, Ratio.value_scale two_pos, zpow_neg, div_inv_eq_mul]
  simp [Ratio.value]

namespace Binary

variable {n e : Nat}

/-- The mantissa of an integer that has `e` bits more than the format has precision.  It may be rounded up to one bit
more, and is halved then. -/
private theorem ofInt_of_bounds (low : 2 ^ (F.precision - 1 + e) ≤ n) (high : n < 2 ^ (F.precision + e))
    (positive : 0 < F.precision) (least : F.minExponent ≤ 0) :
    let k := (⟨n, 2 ^ e⟩ : Ratio).nearest
    ofInt F n =
      if k = 2 ^ F.precision then
        if h : F.Canonical (2 ^ (F.precision - 1)) (e + 1) then .finite ⟨false, _, _, h⟩ else .infinite false
      else if h : F.Canonical k e then .finite ⟨false, _, _, h⟩ else .infinite false := by
  intro k
  have num : n ≠ 0 := ((Nat.two_pow_pos (F.precision - 1 + e)).trans_le low).ne'
  have order : (⟨n, 1⟩ : Ratio).log2 = ((F.precision - 1 + e : Nat) : ℤ) := by
    apply Ratio.log2_of_bounds low
    rwa [show F.precision - 1 + e + 1 = F.precision + e by omega]
  have exponent : max ((⟨n, 1⟩ : Ratio).log2 - ((F.precision : Int) - 1)) F.minExponent = e := by omega
  have scaled : (⟨n, 1⟩ : Ratio).scale 2 e = ⟨n, 2 ^ e⟩ := by
    rw [Ratio.scale, if_pos (Int.natCast_nonneg e), Int.toNat_natCast, one_mul]
    rfl
  have sign : decide ((n : ℤ) < 0) = false := by simp
  rw [ofInt, ofRatio, Int.natAbs_natCast, sign]
  dsimp only
  rw [if_neg num, exponent, scaled]
  simp only [Nat.pow_eq]
  split <;> rfl

/-- An integer that has `e` bits more than the format has precision is rounded to a multiple of `2 ^ e`. -/
theorem exists_ofInt (low : 2 ^ (F.precision - 1 + e) ≤ n) (high : n < 2 ^ (F.precision + e))
    (positive : 0 < F.precision) (least : F.minExponent ≤ 0) (most : e + 1 ≤ F.maxExponent) :
    ∃ x : Finite F, ofInt F n = .finite x ∧ x.negative = false ∧
      x.magnitude.value = (⟨n, 2 ^ e⟩ : Ratio).nearest * 2 ^ e := by
  rw [ofInt_of_bounds low high positive least]
  set k := (⟨n, 2 ^ e⟩ : Ratio).nearest
  have bits : 2 ^ (F.precision - 1) ≤ k ∧ k ≤ 2 ^ F.precision := by
    have floor_low : 2 ^ (F.precision - 1) ≤ n / 2 ^ e := by
      rwa [Nat.le_div_iff_mul_le (Nat.two_pow_pos e), ← Nat.pow_add]
    have floor_high : n / 2 ^ e < 2 ^ F.precision := by
      rwa [Nat.div_lt_iff_lt_mul (Nat.two_pow_pos e), ← Nat.pow_add]
    have next : k = n / 2 ^ e ∨ k = n / 2 ^ e + 1 := Ratio.nearest_eq_or _
    omega
  by_cases carry : k = 2 ^ F.precision
  · have canonical : F.Canonical (2 ^ (F.precision - 1)) (e + 1) := by
      refine ⟨?_, by omega, most, .inl le_rfl⟩
      exact Nat.pow_lt_pow_right one_lt_two (by omega)
    rw [if_pos carry, dif_pos canonical]
    refine ⟨_, rfl, rfl, ?_⟩
    rw [Finite.value_magnitude, carry, ← Nat.two_pow_pred_mul_two positive, zpow_add_one₀ two_ne_zero, zpow_natCast]
    push_cast
    ring
  · have canonical : F.Canonical k e := ⟨lt_of_le_of_ne bits.2 carry, by omega, by omega, .inl bits.1⟩
    rw [if_neg carry, dif_pos canonical]
    refine ⟨_, rfl, rfl, ?_⟩
    rw [Finite.value_magnitude, zpow_natCast]

end Binary

end FrameStream
