import FrameStream.Proofs.Config.Forms

/-!
# Powers that are cut

Of the power of a decimal only the front is read.  The rest of it makes no difference if the decimal is far beyond
double precision, or far below its limit, with either power; that is so unless tens of thousands of digits stand on one
side of the point (`DecimalText.IsFaithful`).  Hence the texts of a usual length that are framerates are those of the
documented forms (`isFramerate_spelled`).

A one with a long power that is to bring it back over tens of thousands of zeros is misread: it passes although it is
too large (`isFramerate_oneBehind`), or is refused although it is not (`isFramerate_oneBefore`).
-/

namespace FrameStream

namespace Framerate

variable {cs : List Char} {size : DecimalText → ℚ}

/-! ### What the rest of a power does -/

theorem double_limit_bounds : (10 : ℚ) ^ 308 < double.limit ∧ double.limit ≤ 10 ^ 309 := by
  have limit : double.limit = (2 ^ 53 - 1 / 2) * (2 ^ 971 : Nat) := by
    rw [Nat.cast_pow, Nat.cast_ofNat, ← zpow_natCast]
    rfl
  have low : 2 * 10 ^ 308 + 2 ^ 971 < 2 ^ 54 * 2 ^ 971 := by decide +kernel
  have high : 2 ^ 54 * 2 ^ 971 ≤ 2 * 10 ^ 309 + 2 ^ 971 := by decide +kernel
  rw [limit, ← Nat.cast_ofNat, ← Nat.cast_pow, ← Nat.cast_pow]
  -- the powers are too large to be multiplied out
  generalize 2 ^ 971 = unit at low high ⊢
  generalize 10 ^ 308 = lower at low ⊢
  generalize 10 ^ 309 = upper at high ⊢
  have low' : (2 * lower + unit : ℚ) < 2 ^ 54 * unit := by exact_mod_cast low
  have high' : (2 ^ 54 * unit : ℚ) ≤ 2 * upper + unit := by exact_mod_cast high
  constructor <;> linarith

namespace DecimalText

variable {t : DecimalText} {e : Int}

/-- A decimal with few whole digits in front of the point is finite. -/
theorem lt_limit (few : t.whole.length + e ≤ 308) : t.digits * (10 : ℚ) ^ (e - t.scale) < double.limit := by
  have digits : (t.digits : ℚ) < 10 ^ (t.whole.length + t.scale) := by
    have := ofDigitChars_lt t.digit
    rw [List.length_append] at this
    exact_mod_cast this
  calc t.digits * (10 : ℚ) ^ (e - t.scale)
    _ < 10 ^ (t.whole.length + t.scale) * 10 ^ (e - t.scale) := by gcongr
    _ = 10 ^ (t.whole.length + e) := by
      rw [← zpow_natCast, ← zpow_add₀ (by norm_num)]
      congr 1
      omega
    _ ≤ 10 ^ (308 : Int) := zpow_le_zpow_right₀ (by norm_num) few
    _ < double.limit := by exact_mod_cast double_limit_bounds.1

/-- A decimal that is not zero and has few places behind the point for its power is not finite. -/
theorem limit_le (nonzero : t.digits ≠ 0) (few : 309 + t.scale ≤ e) :
    double.limit ≤ t.digits * (10 : ℚ) ^ (e - t.scale) := by
  have digits : (1 : ℚ) ≤ t.digits := by exact_mod_cast Nat.one_le_iff_ne_zero.2 nonzero
  calc double.limit
    _ ≤ 10 ^ (309 : Int) := by exact_mod_cast double_limit_bounds.2
    _ ≤ 10 ^ (e - t.scale) := zpow_le_zpow_right₀ (by norm_num) (by omega)
    _ = 1 * 10 ^ (e - t.scale) := (one_mul _).symm
    _ ≤ t.digits * 10 ^ (e - t.scale) := by gcongr

/-- The power is read as it is, or the digits are too few for the rest of it to make a difference. -/
def IsFaithful (t : DecimalText) : Prop :=
  t.digits = 0 ∨ ∀ p ∈ t.power, p.number.magnitude < 0xA0000 ∨
    if p.number.sign = .minus then t.whole.length ≤ 65844 else t.scale ≤ 65227

theorem readMagnitude_eq (t : DecimalText) :
    t.readMagnitude = t.digits * 10 ^ (t.power.elim 0 PowerText.readValue - t.scale) := rfl

/-- What is read of a decimal is finite exactly if the decimal is. -/
theorem IsFaithful.lt_limit_iff (h : t.IsFaithful) : t.readMagnitude < double.limit ↔ t.magnitude < double.limit := by
  rw [readMagnitude_eq, magnitude]
  by_cases zero : t.digits = 0
  · rw [zero, Nat.cast_zero, zero_mul, zero_mul]
  cases power : t.power with
  | none => rfl
  | some p =>
    rw [Option.elim_some, Option.elim_some, PowerText.readValue, PowerText.value, IntegerText.value]
    by_cases small : p.number.magnitude < 0xA0000
    · rw [cutPower_of_lt small]
    · -- both powers lead to the same side of the limit
      have few := (h.resolve_left zero p power).resolve_left small
      have cut := (cutPower_bounds (Nat.not_lt.1 small)).1
      by_cases minus : p.number.sign = .minus
      · rw [if_pos minus] at few
        rw [Sign.apply, Sign.apply, if_pos minus, if_pos minus]
        exact iff_of_true (lt_limit (by omega)) (lt_limit (by omega))
      · rw [if_neg minus] at few
        rw [Sign.apply, Sign.apply, if_neg minus, if_neg minus]
        exact iff_of_false (limit_le zero (by omega)).not_gt (limit_le zero (by omega)).not_gt

theorem isFaithful_of_length (short : t.toList.length ≤ 65227) : t.IsFaithful := by
  have whole : t.whole.length + t.scale ≤ t.toList.length := by
    have places : (t.places.getD []).length ≤ (t.places.elim [] ('.' :: ·)).length := by
      cases t.places with
      | none => exact le_rfl
      | some ds => exact Nat.le_succ _
    simp only [toList, scale, List.length_append]
    omega
  refine .inr fun p _ => .inr ?_
  split <;> omega

end DecimalText

/-! ### Words -/

/-- The words for numbers that are not finite, behind a sign or none and in letters of either case. -/
def IsWord (cs : List Char) : Prop :=
  ∃ (s : Sign) (word : List Char), s.toList ++ word = cs ∧
    word.map Char.toLower ∈ ["inf".toList, "infinity".toList, "nan".toList]

private theorem Sign.no_digit (s : Sign) : ∀ c ∈ s.toList, ¬ c.isDigit := by
  cases s <;> simp [toList]

theorem IsWord.no_digit (h : IsWord cs) : ∀ c ∈ cs, ¬ c.isDigit := by
  obtain ⟨s, word, rfl, lower⟩ := h
  have letters : ["inf".toList, "infinity".toList, "nan".toList].all (·.all (! ·.isDigit)) := by decide
  intro c here digit
  rcases List.mem_append.1 here with sign | here
  · exact s.no_digit c sign digit
  · have bounds : 48 ≤ c.toNat ∧ c.toNat ≤ 57 := Char.isDigit_iff_toNat.1 digit
    have same : c.toLower = c := by
      unfold Char.toLower
      refine dif_neg fun upper => ?_
      have : 65 ≤ c.toNat := upper.1
      omega
    have letter := List.all_eq_true.1 (List.all_eq_true.1 letters _ lower) c (same ▸ List.mem_map_of_mem here)
    rw [digit] at letter
    cases letter

/-! ### Decimals that are misread -/

namespace DecimalText

variable {t u : DecimalText}

/-- What a text comes to does not depend on how it falls into parts. -/
theorem readMagnitude_congr (h : t.toList = u.toList) : t.readMagnitude = u.readMagnitude := by
  have read := decimal?_toList t
  rw [h, decimal?_toList] at read
  have same : u.read = t.read := (Prod.mk.inj (Option.some.inj read)).2
  rw [readMagnitude, readMagnitude, same]

theorem trimBlanks_toList (t : DecimalText) : trimBlanks t.toList = t.toList :=
  trimBlanks_of_forall fun c hc => isBlank_of_isNumeric (t.isNumeric_toList c hc)

/-- The letter of a power is neither a sign nor a digit. -/
theorem letter_not_mem (p : PowerText) (n : IntegerText) : p.letter ∉ n.toList := by
  rw [IntegerText.toList, List.mem_append, not_or]
  constructor
  · rcases p.known with letter | letter <;> rw [letter] <;> cases n.sign <;> decide
  · intro digit
    have := n.digit p.letter digit
    rcases p.known with letter | letter <;> rw [letter] at this <;> cases this

/-- A decimal with a power is of no other form. -/
theorem isForm_iff {p : PowerText} (power : t.power = some p)
    (congr : ∀ u, u.toList = t.toList → size u = size t) : IsForm size t.toList ↔ size t < double.limit := by
  constructor
  · intro h
    cases h with
    | fraction num den n d whole =>
      have slash : '/' ∈ t.toList := whole ▸ List.mem_append_right _ List.mem_cons_self
      exact absurd slash (slash_not_mem_of_isNumeric t.isNumeric_toList)
    | integer n same =>
      have letter : p.letter ∈ n.toList := by
        rw [same, toList, power]
        simp [PowerText.toList]
      exact absurd letter (letter_not_mem p n)
    | decimal u same finite => exact congr u same ▸ finite
  · exact .decimal t rfl

/-- A decimal with a power is a framerate if it is finite as it is read. -/
theorem isFramerate_iff {p : PowerText} (power : t.power = some p) :
    isFramerate (String.ofList t.toList) ↔ t.readMagnitude < double.limit := by
  rw [isFramerate_iff_isForm, String.toList_ofList, trimBlanks_toList, isForm_iff power fun _ => readMagnitude_congr]

/-- A power of which only the front is read. -/
def longPower (s : Sign) : PowerText :=
  ⟨'e', .inl rfl, s, ['6', '5', '5', '3', '7', '0'], List.all_eq_true.1 rfl, by decide⟩

theorem value_longPower (s : Sign) :
    (longPower s).readValue = s.apply 65537 ∧ (longPower s).value = s.apply 655370 := by
  have written : (longPower s).number.magnitude = 655370 := rfl
  have cut : cutPower 655370 = 65537 := by
    rw [cutPower, if_neg (by decide), cutPower_of_lt (by decide)]
  rw [PowerText.readValue, PowerText.value, IntegerText.value, written, cut]
  exact ⟨rfl, rfl⟩

/-- A one far behind the point. -/
def oneBehind (n : Nat) : DecimalText where
  sign := .none
  whole := ['0']
  places := some (List.replicate n '0' ++ ['1'])
  power := some (longPower .none)
  digit := by simp [or_imp, forall_and]
  written := by simp

/-- It may pass although it is far too large, since it is small for the power that is read. -/
theorem isFramerate_oneBehind {n : Nat} (least : 65228 ≤ n) (most : n ≤ 655060) :
    isFramerate (String.ofList (oneBehind n).toList) ∧ ¬ IsForm DecimalText.magnitude (oneBehind n).toList := by
  have digits : (oneBehind n).digits = 1 := by
    simp [oneBehind, DecimalText.digits, Nat.ofDigitChars_append, Nat.ofDigitChars_cons]
  have scale : (oneBehind n).scale = n + 1 := by simp [oneBehind, DecimalText.scale]
  have power : (oneBehind n).power = some (longPower .none) := rfl
  obtain ⟨read, meant⟩ := value_longPower .none
  rw [isFramerate_iff power, isForm_iff power fun _ => magnitude_congr, readMagnitude_eq, DecimalText.magnitude, digits,
    scale, power, Option.elim_some, Option.elim_some, read, meant, Nat.cast_one, one_mul, one_mul, not_lt]
  constructor
  · calc (10 : ℚ) ^ (Sign.none.apply 65537 - (n + 1 : Nat))
      _ ≤ 10 ^ (308 : Int) := zpow_le_zpow_right₀ (by norm_num) (by change (65537 : Int) - _ ≤ _; omega)
      _ < double.limit := by exact_mod_cast double_limit_bounds.1
  · calc double.limit
      _ ≤ 10 ^ (309 : Int) := by exact_mod_cast double_limit_bounds.2
      _ ≤ 10 ^ (Sign.none.apply 655370 - (n + 1 : Nat)) :=
        zpow_le_zpow_right₀ (by norm_num) (by change _ ≤ (655370 : Int) - _; omega)

/-- A one far in front of the point. -/
def oneBefore (n : Nat) : DecimalText where
  sign := .none
  whole := '1' :: List.replicate n '0'
  places := none
  power := some (longPower .minus)
  digit := by simp [or_imp, forall_and]
  written := by simp

/-- It may be refused although it is small, since it is far too large for the power that is read. -/
theorem isFramerate_oneBefore {n : Nat} (least : 65846 ≤ n) (most : n ≤ 655678) :
    ¬ isFramerate (String.ofList (oneBefore n).toList) ∧ IsForm DecimalText.magnitude (oneBefore n).toList := by
  have digits : (oneBefore n).digits = 10 ^ n := by
    simp [oneBefore, DecimalText.digits, Nat.ofDigitChars_cons, Nat.ofDigitChars_replicate_zero]
  have scale : (oneBefore n).scale = 0 := rfl
  have power : (oneBefore n).power = some (longPower .minus) := rfl
  have moved (e : Int) : ((10 ^ n : Nat) : ℚ) * 10 ^ (e - (0 : Nat)) = 10 ^ (n + e) := by
    rw [zpow_add₀ (by norm_num), zpow_natCast, Nat.cast_zero, sub_zero]
    push_cast
    rfl
  obtain ⟨read, meant⟩ := value_longPower .minus
  rw [isFramerate_iff power, isForm_iff power fun _ => magnitude_congr, readMagnitude_eq, DecimalText.magnitude, digits,
    scale, power, Option.elim_some, Option.elim_some, read, meant, moved, moved, not_lt]
  constructor
  · calc double.limit
      _ ≤ 10 ^ (309 : Int) := by exact_mod_cast double_limit_bounds.2
      _ ≤ 10 ^ (n + Sign.minus.apply 65537) :=
        zpow_le_zpow_right₀ (by norm_num) (by change (309 : Int) ≤ n + -65537; omega)
  · calc (10 : ℚ) ^ (n + Sign.minus.apply 655370)
      _ ≤ 10 ^ (308 : Int) := zpow_le_zpow_right₀ (by norm_num) (by change (n : Int) + -655370 ≤ 308; omega)
      _ < double.limit := by exact_mod_cast double_limit_bounds.1

end DecimalText

end Framerate

open Framerate in
/-- A text is a framerate exactly if, without the blanks around it, it is of a documented form with the power of ten as
far as it is read.  The rest of the power makes no difference if the decimal is faithful, as all of at most 65227
characters are. -/
theorem isFramerate_spelled (text : String) :
    (isFramerate text ↔ IsForm DecimalText.readMagnitude (trimBlanks text.toList)) ∧
    ((∀ t : DecimalText, t.toList = trimBlanks text.toList → t.IsFaithful) →
      (isFramerate text ↔ IsForm DecimalText.magnitude (trimBlanks text.toList))) ∧
    (text.length ≤ 65227 → (isFramerate text ↔ IsForm DecimalText.magnitude (trimBlanks text.toList))) ∧
    (IsWord (trimBlanks text.toList) → ¬ isFramerate text) ∧
    ∀ before behind : String, (∀ c ∈ before.toList, isBlank c) → (∀ c ∈ behind.toList, isBlank c) →
      isFramerate (before ++ text ++ behind) = isFramerate text := by
  have faithful (all : ∀ t : DecimalText, t.toList = trimBlanks text.toList → t.IsFaithful) :
      isFramerate text ↔ IsForm DecimalText.magnitude (trimBlanks text.toList) := by
    rw [isFramerate_iff_isForm]
    constructor
    · exact fun h => h.mono fun t same => (all t same).lt_limit_iff.1
    · exact fun h => h.mono fun t same => (all t same).lt_limit_iff.2
  refine ⟨isFramerate_iff_isForm text, faithful, ?_, ?_, ?_⟩
  · intro short
    refine faithful fun t same => DecimalText.isFaithful_of_length ?_
    calc t.toList.length = (trimBlanks text.toList).length := by rw [same]
      _ ≤ text.toList.length := (trimBlanks_sublist _).length_le
      _ ≤ 65227 := by rwa [String.length_toList]
  · intro word h
    obtain ⟨c, here, digit⟩ := ((isFramerate_iff_isForm text).1 h).exists_digit
    exact word.no_digit c here digit
  · intro before behind blank_before blank_behind
    have trimmed : trimBlanks (before ++ text ++ behind).toList = trimBlanks text.toList := by
      rw [String.toList_append, String.toList_append, trimBlanks_append blank_before blank_behind]
    rw [Bool.eq_iff_iff, isFramerate_iff_isForm, isFramerate_iff_isForm, trimmed]

open Framerate in
theorem isFramerate_spacedFraction :
    isFramerate (" " ++ "60/1" ++ " ") ∧ ¬ isFramerate " -Inf " ∧
      (isFramerate "2.997e1" ↔ IsForm DecimalText.magnitude (trimBlanks "2.997e1".toList)) ∧
      (isFramerate "1e-999999" ↔ IsForm DecimalText.magnitude (trimBlanks "1e-999999".toList)) := by
  have blank : ∀ c ∈ " ".toList, isBlank c := List.forall_mem_singleton.2 rfl
  have short (t : DecimalText) (same : t.toList = trimBlanks "1e-999999".toList) : t.IsFaithful :=
    DecimalText.isFaithful_of_length (by rw [same]; decide)
  refine ⟨?_, ?_, ?_, ?_⟩
  · rw [(isFramerate_spelled "60/1").2.2.2.2 " " " " blank blank]
    exact isFramerate_fraction 60 1
  · exact (isFramerate_spelled " -Inf ").2.2.2.1 ⟨.minus, "Inf".toList, rfl, by decide⟩
  · exact (isFramerate_spelled "2.997e1").2.2.1 (by decide)
  · exact (isFramerate_spelled "1e-999999").2.1 short

end FrameStream
