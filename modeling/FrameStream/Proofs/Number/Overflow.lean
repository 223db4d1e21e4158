import FrameStream.Proofs.Number.Integers

/-!
# The limit of a binary format

A ratio rounds to a finite number of a format exactly if it is less than half a unit above the greatest one
(`Binary.exists_ofRatio_iff`).  Half way between the greatest number and the power of two behind it the even neighbour
is that power, so that the limit itself rounds to infinity.
-/

namespace FrameStream

namespace Ratio

variable {r : Ratio} {n : Nat}

/-! ### The nearest integer against a bound -/

theorem abs_nearest_sub_value (den : 0 < r.den) : |(r.nearest : ℚ) - r.value| ≤ 1 / 2 := by
  have den' : (0 : ℚ) < r.den := by exact_mod_cast den
  have near : 2 * |(r.nearest * r.den : ℚ) - r.num| ≤ r.den := by exact_mod_cast (nearest_spec den).1
  rw [value, sub_div' den'.ne', abs_div, abs_of_pos den', div_le_div_iff₀ den' two_pos]
  linarith

/-- An integer and a half is rounded to an even number. -/
theorem even_nearest (den : 0 < r.den) (half : |(r.nearest : ℚ) - r.value| = 1 / 2) : Even r.nearest := by
  have den' : (0 : ℚ) < r.den := by exact_mod_cast den
  apply (nearest_spec den).2
  rw [value, sub_div' den'.ne', abs_div, abs_of_pos den', div_eq_div_iff den'.ne' two_ne_zero] at half
  have tie : 2 * |(r.nearest * r.den : ℚ) - r.num| = r.den := by linarith
  exact_mod_cast tie

theorem nearest_le (den : 0 < r.den) (h : r.value ≤ n) : r.nearest ≤ n := by
  have near := (abs_le.1 (abs_nearest_sub_value den)).2
  have : (r.nearest : ℚ) < n + 1 := by linarith
  exact Nat.lt_succ_iff.1 (by exact_mod_cast this)

theorem le_nearest (den : 0 < r.den) (h : n ≤ r.value) : n ≤ r.nearest := by
  have near := (abs_le.1 (abs_nearest_sub_value den)).1
  have : (n : ℚ) < r.nearest + 1 := by linarith
  exact Nat.lt_succ_iff.1 (by exact_mod_cast this)

/-- What is rounded below an even number is less than a half below it. -/
theorem nearest_lt_iff (den : 0 < r.den) (even : Even n) : r.nearest < n ↔ r.value < n - 1 / 2 := by
  obtain ⟨low, high⟩ := abs_le.1 (abs_nearest_sub_value den)
  constructor
  · intro below
    have step : (r.nearest : ℚ) + 1 ≤ n := by exact_mod_cast below
    refine lt_of_le_of_ne (by linarith) ?_
    intro tie
    have next : (r.nearest : ℚ) + 1 = n := by linarith
    have half : |(r.nearest : ℚ) - r.value| = 1 / 2 := by
      rw [show (r.nearest : ℚ) - r.value = -(1 / 2) by linarith, abs_neg, abs_of_pos one_half_pos]
    have odd : ¬ Even (r.nearest + 1) := by
      rw [Nat.even_add_one, not_not]
      exact even_nearest den half
    exact odd (by rwa [show r.nearest + 1 = n by exact_mod_cast next])
  · intro below
    have : (r.nearest : ℚ) < n := by linarith
    exact_mod_cast this

end Ratio

/-! ### The limit -/

variable {F : FloatFormat}

/-- Half a unit above the greatest number of the format. -/
def FloatFormat.limit (F : FloatFormat) : ℚ := (2 ^ F.precision - 1 / 2) * 2 ^ F.maxExponent

namespace FloatFormat

theorem limit_lt (F : FloatFormat) : F.limit < 2 ^ (F.precision + F.maxExponent) := by
  rw [zpow_add₀ two_ne_zero, zpow_natCast, limit]
  gcongr
  linarith

theorem le_limit (positive : 0 < F.precision) : 2 ^ (F.precision + F.maxExponent - 1) ≤ F.limit := by
  have bits : (2 : ℚ) ≤ 2 ^ F.precision := le_self_pow₀ one_le_two positive.ne'
  rw [zpow_sub_one₀ two_ne_zero, zpow_add₀ two_ne_zero, zpow_natCast, mul_right_comm, limit]
  gcongr
  linarith

end FloatFormat

namespace Binary

variable {r : Ratio} {negative : Bool}

/-- The exponent to which a ratio is rounded: the mantissa has all its bits there unless the exponent is the least. -/
private theorem exponent_spec (den : 0 < r.den) :
    let e := if r.num = 0 then F.minExponent else max (r.log2 - ((F.precision : Int) - 1)) F.minExponent
    F.minExponent ≤ e ∧ r.value < 2 ^ (F.precision + e) ∧
      (e = F.minExponent ∨ 2 ^ (F.precision + e - 1) ≤ r.value) := by
  intro e
  by_cases num : r.num = 0
  · have least : e = F.minExponent := if_pos num
    have zero : r.value = 0 := (Ratio.value_eq_zero_iff den).2 num
    rw [zero]
    exact ⟨least.ge, by positivity, .inl least⟩
  · have positive := Ratio.value_pos (Nat.pos_of_ne_zero num) den
    have order : r.log2 = Int.log 2 r.value := Ratio.log2_eq_log (Nat.pos_of_ne_zero num) den
    have exponent : e = max (r.log2 - ((F.precision : Int) - 1)) F.minExponent := if_neg num
    refine ⟨exponent ▸ le_max_right _ _, ?_, ?_⟩
    · have above : r.log2 < F.precision + e := by omega
      rw [order] at above
      exact_mod_cast (Int.lt_zpow_iff_log_lt (b := 2) one_lt_two positive).2 above
    · by_cases least : e = F.minExponent
      · exact .inl least
      · have below : F.precision + e - 1 ≤ r.log2 := by omega
        rw [order] at below
        exact .inr (by exact_mod_cast (Int.zpow_le_iff_le_log (b := 2) one_lt_two positive).2 below)

private theorem exists_finite_iff {m : Nat} {e : Int} :
    (∃ x, (if h : F.Canonical m e then Binary.finite ⟨negative, m, e, h⟩ else .infinite negative) = .finite x) ↔
      F.Canonical m e := by
  constructor
  · rintro ⟨x, same⟩
    by_contra h
    rw [dif_neg h] at same
    cases same
  · intro h
    exact ⟨_, dif_pos h⟩

/-- A ratio rounds to a finite number unless its exponent, with the carry of the mantissa, is too great. -/
private theorem exists_ofRatio_iff_exponent (negative : Bool) (den : 0 < r.den) (positive : 0 < F.precision) :
    ∃ e : Int, F.minExponent ≤ e ∧ r.value < 2 ^ (F.precision + e) ∧
      (e = F.minExponent ∨ 2 ^ (F.precision + e - 1) ≤ r.value) ∧ (r.scale 2 e).nearest ≤ 2 ^ F.precision ∧
      ((∃ x, ofRatio F negative r = .finite x) ↔
        if (r.scale 2 e).nearest = 2 ^ F.precision then e + 1 ≤ F.maxExponent else e ≤ F.maxExponent) := by
  set e := if r.num = 0 then F.minExponent else max (r.log2 - ((F.precision : Int) - 1)) F.minExponent with exponent
  obtain ⟨least, high, low⟩ := exponent_spec (F := F) den
  rw [← exponent] at least high low
  have scaled : (r.scale 2 e).value = r.value / 2 ^ e := by exact_mod_cast Ratio.value_scale two_pos r e
  have scaled_den := Ratio.den_scale_pos two_pos den e
  have bits : (r.scale 2 e).nearest ≤ 2 ^ F.precision := by
    apply Ratio.nearest_le scaled_den
    rw [scaled, div_le_iff₀ (by positivity), Nat.cast_pow, Nat.cast_ofNat, ← zpow_natCast, ← zpow_add₀ two_ne_zero]
    exact high.le
  have full : e = F.minExponent ∨ 2 ^ (F.precision - 1) ≤ (r.scale 2 e).nearest := by
    refine low.imp_right fun low => Ratio.le_nearest scaled_den ?_
    rw [scaled, le_div_iff₀ (by positivity), Nat.cast_pow, Nat.cast_ofNat, ← zpow_natCast, ← zpow_add₀ two_ne_zero]
    rwa [show ((F.precision - 1 : Nat) : Int) + e = F.precision + e - 1 by omega]
  refine ⟨e, least, high, low, bits, ?_⟩
  unfold ofRatio
  rw [← exponent]
  simp only [Nat.pow_eq]
  by_cases carry : (r.scale 2 e).nearest = 2 ^ F.precision
  · have canonical : F.Canonical (2 ^ (F.precision - 1)) (e + 1) ↔ e + 1 ≤ F.maxExponent := by
      refine ⟨fun canonical => canonical.2.2.1, fun most => ⟨?_, by omega, most, .inl le_rfl⟩⟩
      exact Nat.pow_lt_pow_right one_lt_two (by omega)
    simp only [if_pos carry]
    rw [exists_finite_iff, canonical]
  · have canonical : F.Canonical (r.scale 2 e).nearest e ↔ e ≤ F.maxExponent := by
      refine ⟨fun canonical => canonical.2.2.1, fun most => ⟨?_, least, most, full.symm⟩⟩
      exact lt_of_le_of_ne bits carry
    simp only [if_neg carry]
    rw [exists_finite_iff, canonical]

/-- A ratio rounds to a finite number exactly if it is less than the limit of the format. -/
theorem exists_ofRatio_iff (den : 0 < r.den) (positive : 0 < F.precision) (range : F.minExponent ≤ F.maxExponent) :
    (∃ x, ofRatio F negative r = .finite x) ↔ r.value < F.limit := by
  obtain ⟨e, -, high, low, bits, finite⟩ := exists_ofRatio_iff_exponent (F := F) negative den positive
  rw [finite]
  rcases lt_trichotomy e F.maxExponent with small | most | great
  · have below : r.value < F.limit :=
      calc r.value < 2 ^ (F.precision + e) := high
        _ ≤ 2 ^ (F.precision + F.maxExponent - 1) := zpow_le_zpow_right₀ one_le_two (by omega)
        _ ≤ F.limit := FloatFormat.le_limit positive
    refine iff_of_true ?_ below
    split <;> omega
  · -- only here it matters how the mantissa is rounded
    have even : Even (2 ^ F.precision) := (Nat.even_pow' positive.ne').2 even_two
    have scaled : (r.scale 2 e).value = r.value / 2 ^ e := by exact_mod_cast Ratio.value_scale two_pos r e
    have rounded := Ratio.nearest_lt_iff (Ratio.den_scale_pos two_pos den e) even
    rw [scaled, div_lt_iff₀ (by positivity), Nat.cast_pow, Nat.cast_ofNat, most] at rounded
    rw [FloatFormat.limit, ← rounded, ← most]
    constructor
    · intro h
      refine lt_of_le_of_ne bits ?_
      intro carry
      rw [if_pos carry] at h
      omega
    · intro below
      rw [if_neg below.ne]
  · have above : F.limit < r.value :=
      calc F.limit < 2 ^ (F.precision + F.maxExponent) := F.limit_lt
        _ ≤ 2 ^ (F.precision + e - 1) := zpow_le_zpow_right₀ one_le_two (by omega)
        _ ≤ r.value := low.resolve_left (by omega)
    refine iff_of_false ?_ above.not_gt
    split <;> omega

end Binary

/-- A decimal rounds to a finite number exactly if it is less than the limit of the format. -/
theorem Decimal.exists_round_iff {negative : Bool} (d : Decimal) (positive : 0 < F.precision)
    (range : F.minExponent ≤ F.maxExponent) :
    (∃ x, d.round F negative = .finite x) ↔ (d.digits : ℚ) * 10 ^ d.exponent < F.limit := by
  rw [round_eq_ofRatio, Binary.exists_ofRatio_iff d.den_ratio_pos positive range, value_ratio]

end FrameStream
