import FrameStream.Number.Shortest
import Mathlib.Algebra.Order.Field.Power
import Mathlib.Algebra.Order.Floor.Semifield
import Mathlib.Data.Int.Log
import Mathlib.Data.Rat.Floor
import Mathlib.Tactic.FieldSimp
import Mathlib.Tactic.Linarith
import Mathlib.Tactic.Positivity
import Mathlib.Tactic.Ring

/-!
# Rounding depends on the value alone

A ratio is rounded by its value: two ratios of one value round to one number (`Binary.ofRatio_congr`), and the value
of a finite number rounds to that number (`Binary.ofRatio_of_value_eq`).  The same holds of decimals, since a decimal
that is not multiplied out rounds to what its ratio rounds to (`Decimal.round_eq_ofRatio`).  Hence the shortest
decimal of a number is always one that rounds back to it (`Finite.round_shortest`).
-/

namespace FrameStream

namespace Ratio

/-! ### The value of a ratio -/

def value (r : Ratio) : ℚ := r.num / r.den

theorem value_pos {r : Ratio} (num : 0 < r.num) (den : 0 < r.den) : 0 < r.value := by
  unfold value
  positivity

theorem value_eq_zero_iff {r : Ratio} (den : 0 < r.den) : r.value = 0 ↔ r.num = 0 := by
  have : (r.den : ℚ) ≠ 0 := by exact_mod_cast den.ne'
  simp [value, this]

theorem value_eq_iff {r s : Ratio} (hr : 0 < r.den) (hs : 0 < s.den) :
    r.value = s.value ↔ r.num * s.den = s.num * r.den := by
  have hr' : (r.den : ℚ) ≠ 0 := by exact_mod_cast hr.ne'
  have hs' : (s.den : ℚ) ≠ 0 := by exact_mod_cast hs.ne'
  rw [value, value, div_eq_div_iff hr' hs']
  exact_mod_cast Iff.rfl

theorem den_scale_pos {r : Ratio} {base : Nat} (hb : 0 < base) (den : 0 < r.den) (e : Int) :
    0 < (r.scale base e).den := by
  unfold scale
  split
  · exact Nat.mul_pos den (Nat.pow_pos hb)
  · exact den

theorem value_scale {base : Nat} (hb : 0 < base) (r : Ratio) (e : Int) :
    (r.scale base e).value = r.value / (base : ℚ) ^ e := by
  have base_ne : (base : ℚ) ≠ 0 := by exact_mod_cast hb.ne'
  unfold scale
  split
  · rename_i h
    obtain ⟨n, rfl⟩ := Int.eq_ofNat_of_zero_le h
    simp only [value, Int.toNat_natCast, zpow_natCast, Nat.pow_eq]
    push_cast
    rw [div_div]
  · rename_i h
    obtain ⟨n, hn⟩ : ∃ n : Nat, e = -(n : Int) := ⟨(-e).toNat, by omega⟩
    subst hn
    simp only [value, neg_neg, Int.toNat_natCast, zpow_neg, zpow_natCast, Nat.pow_eq]
    push_cast
    rw [div_inv_eq_mul, div_mul_eq_mul_div]

/-! ### The nearest integer -/

theorem nearest_congr {r s : Ratio} (hr : 0 < r.den) (hs : 0 < s.den) (h : r.value = s.value) :
    r.nearest = s.nearest := by
  have cross := (value_eq_iff hr hs).1 h
  have low : r.num / r.den = s.num / s.den := by
    rw [← Nat.floor_div_eq_div (K := ℚ) r.num, ← Nat.floor_div_eq_div (K := ℚ) s.num]
    exact congrArg Nat.floor h
  have rest : r.num % r.den * s.den = s.num % s.den * r.den := by
    have split_r := Nat.div_add_mod r.num r.den
    have split_s := Nat.div_add_mod s.num s.den
    rw [← split_r, ← split_s, low] at cross
    simp only [Nat.add_mul] at cross
    have : r.den * (s.num / s.den) * s.den = s.den * (s.num / s.den) * r.den := by ring
    omega
  have below : 2 * (r.num % r.den) < r.den ↔ 2 * (s.num % s.den) < s.den := by
    rw [← Nat.mul_lt_mul_right hs, ← Nat.mul_lt_mul_right (b := 2 * (s.num % s.den)) hr, Nat.mul_assoc, rest,
      Nat.mul_assoc, Nat.mul_comm s.den]
  have above : r.den < 2 * (r.num % r.den) ↔ s.den < 2 * (s.num % s.den) := by
    rw [← Nat.mul_lt_mul_right hs, ← Nat.mul_lt_mul_right (b := s.den) hr, Nat.mul_assoc 2, rest,
      Nat.mul_assoc 2, Nat.mul_comm s.den]
  simp only [nearest, low, below, above]

theorem nearest_of_value_eq_natCast {r : Ratio} {n : Nat} (den : 0 < r.den) (h : r.value = n) :
    r.nearest = n := by
  have : r.value = (⟨n, 1⟩ : Ratio).value := by rw [h, value, Nat.cast_one, div_one]
  rw [nearest_congr den one_pos this]
  simp [nearest, Nat.mod_one]

theorem nearest_eq_zero {r : Ratio} (den : 0 < r.den) (h : r.value < 1 / 2) : r.nearest = 0 := by
  have twice : 2 * r.num < r.den := by
    have den' : (0 : ℚ) < r.den := by exact_mod_cast den
    rw [value, div_lt_div_iff₀ den' two_pos] at h
    have : (r.num : ℚ) * 2 < r.den := by linarith
    have : r.num * 2 < r.den := by exact_mod_cast this
    omega
  have small : r.num < r.den := by omega
  simp [nearest, Nat.div_eq_of_lt small, Nat.mod_eq_of_lt small, twice]

/-! ### Orders of magnitude -/

theorem log_eq_of_bounds {q : ℚ} (hq : 0 < q) {t : Int} (low : (2 : ℚ) ^ t ≤ q) (high : q < (2 : ℚ) ^ (t + 1)) :
    Int.log 2 q = t := by
  have lower := (Int.zpow_le_iff_le_log (b := 2) one_lt_two hq).1 (by exact_mod_cast low)
  have upper := (Int.lt_zpow_iff_log_lt (b := 2) one_lt_two hq).1 (by exact_mod_cast high)
  omega

/-- The value lies within a factor of two of the power that the sizes of its two parts suggest. -/
private theorem value_bounds {r : Ratio} (num : 0 < r.num) (den : 0 < r.den) :
    (2 : ℚ) ^ ((r.num.log2 : Int) - r.den.log2 - 1) < r.value ∧
      r.value < (2 : ℚ) ^ ((r.num.log2 : Int) - r.den.log2 + 1) := by
  have den' : (0 : ℚ) < r.den := by exact_mod_cast den
  have num_low : (2 : ℚ) ^ r.num.log2 ≤ r.num := by exact_mod_cast Nat.log2_self_le num.ne'
  have num_high : (r.num : ℚ) < 2 ^ (r.num.log2 + 1) := by exact_mod_cast Nat.lt_log2_self
  have den_low : (2 : ℚ) ^ r.den.log2 ≤ r.den := by exact_mod_cast Nat.log2_self_le den.ne'
  have den_high : (r.den : ℚ) < 2 ^ (r.den.log2 + 1) := by exact_mod_cast Nat.lt_log2_self
  have low : (2 : ℚ) ^ ((r.num.log2 : Int) - r.den.log2 - 1) = 2 ^ r.num.log2 / 2 ^ (r.den.log2 + 1) := by
    rw [show (r.num.log2 : Int) - r.den.log2 - 1 = r.num.log2 - ((r.den.log2 + 1 : Nat) : Int) by push_cast; ring,
      zpow_sub₀ two_ne_zero, zpow_natCast, zpow_natCast]
  have high : (2 : ℚ) ^ ((r.num.log2 : Int) - r.den.log2 + 1) = 2 ^ (r.num.log2 + 1) / 2 ^ r.den.log2 := by
    rw [show (r.num.log2 : Int) - r.den.log2 + 1 = ((r.num.log2 + 1 : Nat) : Int) - r.den.log2 by push_cast; ring,
      zpow_sub₀ two_ne_zero, zpow_natCast, zpow_natCast]
  rw [low, high, value]
  constructor
  · rw [div_lt_div_iff₀ (by positivity) den']
    calc (2 : ℚ) ^ r.num.log2 * r.den ≤ r.num * r.den := by gcongr
      _ < r.num * 2 ^ (r.den.log2 + 1) := by gcongr
  · rw [div_lt_div_iff₀ den' (by positivity)]
    calc (r.num : ℚ) * 2 ^ r.den.log2 ≤ r.num * r.den := by gcongr
      _ < 2 ^ (r.num.log2 + 1) * r.den := by gcongr

theorem log2_eq_log {r : Ratio} (num : 0 < r.num) (den : 0 < r.den) : r.log2 = Int.log 2 r.value := by
  have positive := value_pos num den
  obtain ⟨low, high⟩ := value_bounds num den
  set e : Int := (r.num.log2 : Int) - r.den.log2 with he
  have scaled : (r.scale 2 e).den ≤ (r.scale 2 e).num ↔ (2 : ℚ) ^ e ≤ r.value := by
    have den' : (0 : ℚ) < (r.scale 2 e).den := by exact_mod_cast den_scale_pos two_pos den e
    have here := value_scale two_pos r e
    rw [value, Nat.cast_ofNat] at here
    rw [← one_le_div₀ (show (0 : ℚ) < 2 ^ e by positivity), ← here, one_le_div₀ den']
    exact_mod_cast Iff.rfl
  unfold log2
  simp only [← he]
  split
  · rename_i h
    exact (log_eq_of_bounds positive (scaled.1 h) high).symm
  · rename_i h
    rw [scaled, not_le] at h
    exact (log_eq_of_bounds positive low.le (by rwa [sub_add_cancel])).symm

end Ratio

/-! ### Rounding to a format -/

variable {F : FloatFormat}

namespace Binary

/-- Two ratios of one value round to one number. -/
theorem ofRatio_congr {negative : Bool} {r s : Ratio} (hr : 0 < r.den) (hs : 0 < s.den)
    (h : r.value = s.value) : ofRatio F negative r = ofRatio F negative s := by
  have zero : r.num = 0 ↔ s.num = 0 := by
    rw [← Ratio.value_eq_zero_iff hr, ← Ratio.value_eq_zero_iff hs, h]
  have exponent : (if r.num = 0 then F.minExponent else max (r.log2 - ((F.precision : Int) - 1)) F.minExponent) =
      if s.num = 0 then F.minExponent else max (s.log2 - ((F.precision : Int) - 1)) F.minExponent := by
    by_cases hz : r.num = 0
    · rw [if_pos hz, if_pos (zero.1 hz)]
    · have hz' : s.num ≠ 0 := fun e => hz (zero.2 e)
      rw [if_neg hz, if_neg hz', Ratio.log2_eq_log (Nat.pos_of_ne_zero hz) hr,
        Ratio.log2_eq_log (Nat.pos_of_ne_zero hz') hs, h]
  have mantissa (e : Int) : (r.scale 2 e).nearest = (s.scale 2 e).nearest := by
    apply Ratio.nearest_congr (Ratio.den_scale_pos two_pos hr e) (Ratio.den_scale_pos two_pos hs e)
    rw [Ratio.value_scale two_pos, Ratio.value_scale two_pos, h]
  unfold ofRatio
  rw [exponent]
  simp only [mantissa]

/-- A number of too great an order of magnitude. -/
theorem ofRatio_of_overflow {negative : Bool} {r : Ratio} (den : 0 < r.den)
    (h : (2 : ℚ) ^ (F.precision + F.maxExponent) ≤ r.value) : ofRatio F negative r = .infinite negative := by
  have positive : 0 < r.value := lt_of_lt_of_le (by positivity) h
  have num : r.num ≠ 0 := fun e => positive.ne' ((Ratio.value_eq_zero_iff den).2 e)
  have order : F.precision + F.maxExponent ≤ r.log2 := by
    rw [Ratio.log2_eq_log (Nat.pos_of_ne_zero num) den]
    exact (Int.zpow_le_iff_le_log (b := 2) one_lt_two positive).1 (by exact_mod_cast h)
  unfold ofRatio
  rw [if_neg num]
  set e := max (r.log2 - ((F.precision : Int) - 1)) F.minExponent with he
  have beyond : F.maxExponent < e := by omega
  dsimp only
  split
  · exact dif_neg fun canonical => by
      have := canonical.2.2.1
      omega
  · exact dif_neg fun canonical => by
      have := canonical.2.2.1
      omega

/-- A number of so small an order of magnitude that it is nearer to zero than to any other. -/
theorem ofRatio_of_underflow {negative : Bool} {r : Ratio} (den : 0 < r.den)
    (h : r.value < (2 : ℚ) ^ (F.minExponent - 1)) : ofRatio F negative r = ofRatio F negative ⟨0, 1⟩ := by
  by_cases num : r.num = 0
  · exact ofRatio_congr den one_pos (by simp [Ratio.value, num])
  · have positive := Ratio.value_pos (Nat.pos_of_ne_zero num) den
    have order : r.log2 < F.minExponent - 1 := by
      rw [Ratio.log2_eq_log (Nat.pos_of_ne_zero num) den]
      exact (Int.lt_zpow_iff_log_lt (b := 2) one_lt_two positive).1 (by exact_mod_cast h)
    have exponent : max (r.log2 - ((F.precision : Int) - 1)) F.minExponent = F.minExponent := by omega
    have mantissa : (r.scale 2 F.minExponent).nearest = 0 := by
      apply Ratio.nearest_eq_zero (Ratio.den_scale_pos two_pos den _)
      rw [Ratio.value_scale two_pos, div_lt_iff₀ (by positivity)]
      rw [zpow_sub_one₀ two_ne_zero] at h
      push_cast
      linarith
    have zero : ((⟨0, 1⟩ : Ratio).scale 2 F.minExponent).nearest = 0 := by
      apply Ratio.nearest_of_value_eq_natCast (Ratio.den_scale_pos two_pos one_pos _)
      rw [Ratio.value_scale two_pos]
      simp [Ratio.value]
    unfold ofRatio
    rw [if_neg num, if_pos rfl, exponent]
    simp only [mantissa, zero]

end Binary

namespace Finite

/-- A ratio with the value of a finite number rounds to that number. -/
theorem ofRatio_of_value_eq (x : Finite F) {r : Ratio} (den : 0 < r.den)
    (h : r.value = x.mantissa * (2 : ℚ) ^ x.exponent) : Binary.ofRatio F x.negative r = .finite x := by
  obtain ⟨fits, low, high, full⟩ := x.canonical
  rw [Nat.pow_eq] at fits
  rw [Nat.pow_eq] at full
  have exponent : (if r.num = 0 then F.minExponent
      else max (r.log2 - ((F.precision : Int) - 1)) F.minExponent) = x.exponent := by
    by_cases num : r.num = 0
    · have zero : x.mantissa = 0 := by
        rw [(Ratio.value_eq_zero_iff den).2 num] at h
        have := (mul_eq_zero.1 h.symm).resolve_right (by positivity)
        exact_mod_cast this
      rw [if_pos num]
      exact (full.resolve_left fun full => by
        have := Nat.two_pow_pos (F.precision - 1)
        omega).symm
    · have positive := Ratio.value_pos (Nat.pos_of_ne_zero num) den
      have mantissa : x.mantissa ≠ 0 := fun e => positive.ne' (by simp [h, e])
      have order : r.log2 = x.mantissa.log2 + x.exponent := by
        rw [Ratio.log2_eq_log (Nat.pos_of_ne_zero num) den]
        have lower : (2 : ℚ) ^ x.mantissa.log2 ≤ x.mantissa := by exact_mod_cast Nat.log2_self_le mantissa
        have upper : (x.mantissa : ℚ) < 2 ^ (x.mantissa.log2 + 1) := by exact_mod_cast Nat.lt_log2_self
        apply Ratio.log_eq_of_bounds positive
        · rw [h, zpow_add₀ two_ne_zero, zpow_natCast]
          gcongr
        · rw [h, add_right_comm, zpow_add₀ two_ne_zero]
          have : (2 : ℚ) ^ ((x.mantissa.log2 : Int) + 1) = 2 ^ (x.mantissa.log2 + 1) := by
            exact_mod_cast zpow_natCast (2 : ℚ) (x.mantissa.log2 + 1)
          rw [this]
          gcongr
      have size : x.mantissa.log2 < F.precision := (Nat.log2_lt mantissa).2 fits
      rw [if_neg num, order]
      rcases full with full | least
      · have := (Nat.le_log2 mantissa).2 full
        omega
      · omega
  have mantissa : (r.scale 2 x.exponent).nearest = x.mantissa := by
    apply Ratio.nearest_of_value_eq_natCast (Ratio.den_scale_pos two_pos den _)
    rw [Ratio.value_scale two_pos, h]
    have : ((2 : Nat) : ℚ) ^ x.exponent ≠ 0 := by positivity
    push_cast at this ⊢
    field_simp
  unfold Binary.ofRatio
  rw [exponent]
  simp only [mantissa, Nat.pow_eq, if_neg fits.ne]
  rw [dif_pos x.canonical]

end Finite

/-! ### Decimals -/

namespace Decimal

/-- The ratio that a decimal stands for. -/
def ratio (d : Decimal) : Ratio := (⟨d.digits, 1⟩ : Ratio).scale 10 (-d.exponent)

theorem den_ratio_pos (d : Decimal) : 0 < d.ratio.den := Ratio.den_scale_pos (by decide) one_pos _

theorem value_ratio (d : Decimal) : d.ratio.value = d.digits * (10 : ℚ) ^ d.exponent := by
  rw [ratio, Ratio.value_scale (by decide), zpow_neg, div_inv_eq_mul]
  simp [Ratio.value]

private theorem eight_pow (n : Nat) : (2 : ℚ) ^ (3 * (n : Int)) = 8 ^ n := by
  rw [zpow_mul]
  norm_num

/-- A decimal that is not multiplied out rounds to what its ratio rounds to. -/
theorem round_eq_ofRatio (negative : Bool) (d : Decimal) :
    d.round F negative = Binary.ofRatio F negative d.ratio := by
  unfold round
  dsimp only
  split
  · rename_i zero
    apply Binary.ofRatio_congr one_pos d.den_ratio_pos
    rw [value_ratio, zero]
    simp [Ratio.value]
  rename_i digits
  have digits_low : (2 : ℚ) ^ d.digits.log2 ≤ d.digits := by exact_mod_cast Nat.log2_self_le digits
  have digits_high : (d.digits : ℚ) < 2 ^ (d.digits.log2 + 1) := by exact_mod_cast Nat.lt_log2_self
  split
  · rename_i large
    obtain ⟨n, hn⟩ := Int.eq_ofNat_of_zero_le large.1
    rw [hn] at large
    refine (Binary.ofRatio_of_overflow d.den_ratio_pos ?_).symm
    calc (2 : ℚ) ^ (F.precision + F.maxExponent) ≤ 2 ^ ((d.digits.log2 : Int) + 3 * (n : Int)) :=
          zpow_le_zpow_right₀ one_le_two large.2
      _ = 2 ^ d.digits.log2 * 8 ^ n := by rw [zpow_add₀ two_ne_zero, eight_pow, zpow_natCast]
      _ ≤ d.digits * 10 ^ n := by gcongr; norm_num
      _ = d.ratio.value := by rw [value_ratio, hn, zpow_natCast]
  split
  · rename_i small
    obtain ⟨n, hn⟩ : ∃ n : Nat, d.exponent = -(n : Int) := ⟨(-d.exponent).toNat, by omega⟩
    rw [hn] at small
    refine (Binary.ofRatio_of_underflow d.den_ratio_pos ?_).symm
    calc d.ratio.value = d.digits / 10 ^ n := by rw [value_ratio, hn, zpow_neg, zpow_natCast, div_eq_mul_inv]
      _ ≤ d.digits / 8 ^ n := by gcongr; norm_num
      _ < 2 ^ (d.digits.log2 + 1) / 8 ^ n := by gcongr
      _ = 2 ^ ((d.digits.log2 : Int) + 1 + 3 * -(n : Int)) := by
          rw [mul_neg, ← sub_eq_add_neg, zpow_sub₀ two_ne_zero, eight_pow]
          rfl
      _ ≤ 2 ^ (F.minExponent - 1) := zpow_le_zpow_right₀ one_le_two (by omega)
  · rfl

/-- Two decimals of one value round to one number. -/
theorem round_congr {negative : Bool} {d e : Decimal}
    (h : (d.digits : ℚ) * 10 ^ d.exponent = e.digits * 10 ^ e.exponent) :
    d.round F negative = e.round F negative := by
  rw [round_eq_ofRatio, round_eq_ofRatio]
  exact Binary.ofRatio_congr d.den_ratio_pos e.den_ratio_pos (by rw [value_ratio, value_ratio, h])

end Decimal

/-! ### The shortest decimal -/

namespace Finite

theorem round_exactDecimal (x : Finite F) : x.exactDecimal.round F x.negative = .finite x := by
  rw [Decimal.round_eq_ofRatio]
  apply x.ofRatio_of_value_eq (Decimal.den_ratio_pos _)
  rw [Decimal.value_ratio]
  unfold exactDecimal
  split
  · rename_i h
    obtain ⟨n, hn⟩ := Int.eq_ofNat_of_zero_le h
    simp [hn]
  · rename_i h
    obtain ⟨n, hn⟩ : ∃ n : Nat, x.exponent = -(n : Int) := ⟨(-x.exponent).toNat, by omega⟩
    rw [hn]
    simp only [neg_neg, Int.toNat_natCast, zpow_neg, zpow_natCast, Nat.pow_eq]
    push_cast
    rw [show (10 : ℚ) = 5 * 2 by norm_num, mul_pow]
    field_simp

theorem isRoundingOf_of_withDigits? {x : Finite F} {n : Nat} {d : Decimal} (h : x.withDigits? n = some d) :
    x.isRoundingOf d := by
  unfold withDigits? at h
  dsimp only at h
  split at h
  · split at h
    · cases h
      assumption
    · cases h
      assumption
  · cases h
    assumption
  · cases h
    assumption
  · cases h

/-- The shortest decimal of a number rounds back to it. -/
theorem round_shortest (x : Finite F) : x.shortest.round F x.negative = .finite x := by
  unfold shortest
  split
  · rename_i zero
    rw [Decimal.round_eq_ofRatio]
    apply x.ofRatio_of_value_eq (Decimal.den_ratio_pos _)
    rw [Decimal.value_ratio]
    simp [zero]
  · cases h : (List.range 17).findSome? fun n => x.withDigits? (n + 1) with
    | none => exact x.round_exactDecimal
    | some d =>
      obtain ⟨n, -, hn⟩ := List.exists_of_findSome?_eq_some h
      have := isRoundingOf_of_withDigits? hn
      simpa [isRoundingOf] using this

end Finite

end FrameStream
