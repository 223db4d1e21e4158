import FrameStream.Proofs.Json.Literals
import FrameStream.Proofs.Number.Exact

/-!
# Numbers read with a loss

A reader calculates the number of a literal in double precision, and the result need not be the nearest number; so a
number of double precision is *portable* if it is read back from the literal that is written for it.  Up to 53 bits of
digits and a power of ten of 22, nothing is rounded but the result (`Number.ofLiteral_of_short`), and a number with
such a literal is portable (`Finite.isPortable_of_short`).
-/

namespace FrameStream

/-- The number is read back from its literal. -/
def Finite.IsPortable (x : Finite double) : Prop :=
  Json.Number.ofLiteral (.ofFinite doublePositional x) = .ok (.float x)

instance (x : Finite double) : Decidable x.IsPortable := inferInstanceAs (Decidable (_ = _))

/-! ### Digits -/

theorem keepDigits_of_short {n : Nat} {cs : List Char} (short : Nat.ofDigitChars 10 cs n < 0x10000000000000000) :
    keepDigits n cs = (Nat.ofDigitChars 10 cs n, []) := by
  induction cs generalizing n with
  | nil => rfl
  | cons c cs ih =>
    rw [Nat.ofDigitChars_cons] at short ⊢
    have first : 10 * n + (c.toNat - '0'.toNat) < 0x10000000000000000 := by
      rw [Nat.ofDigitChars_eq_ofDigitChars_zero] at short
      have := Nat.le_mul_of_pos_left (10 * n + (c.toNat - '0'.toNat))
        (Nat.pow_pos (n := cs.length) (a := 10) (by decide))
      omega
    rw [keepDigits, if_pos first, ih short]

/-- Digits that 64 bits hold are all kept. -/
theorem Literal.kept_of_short {l : Literal} (short : l.digits < 0x10000000000000000) : l.kept = l.decimal := by
  have split := Nat.div_add_mod' l.digits (10 ^ l.places)
  have whole : keepDigits 0 (Nat.toDigits 10 (l.digits / 10 ^ l.places)) = (l.digits / 10 ^ l.places, []) := by
    have numeral : Nat.ofDigitChars 10 (Nat.toDigits 10 (l.digits / 10 ^ l.places)) 0 = l.digits / 10 ^ l.places :=
      Nat.ofDigitChars_toDigits (by decide) (by decide)
    have less := Nat.div_le_self l.digits (10 ^ l.places)
    rw [keepDigits_of_short (by omega), numeral]
  have fraction : keepDigits (l.digits / 10 ^ l.places) (fixedDigits l.places (l.digits % 10 ^ l.places)) =
      (l.digits, []) := by
    have numeral : Nat.ofDigitChars 10 (fixedDigits l.places (l.digits % 10 ^ l.places)) (l.digits / 10 ^ l.places) =
        l.digits := by
      rw [Nat.ofDigitChars_eq_ofDigitChars_zero, ofDigitChars_fixedDigits, length_fixedDigits, Nat.mod_mod,
        Nat.mul_comm, split]
    rw [keepDigits_of_short (by rwa [numeral]), numeral]
  rw [kept, decimal]
  simp only [Nat.pow_eq, whole, fraction, List.length_nil]
  simp

namespace Json

/-! ### Calculations -/

private theorem finiteNumber_signed (negative : Bool) (m : Nat) (e : Int) :
    finiteNumber (if h : double.Canonical m e then .finite ⟨negative, m, e, h⟩ else .infinite negative) =
      Finite.signed negative <$>
        finiteNumber (if h : double.Canonical m e then .finite ⟨false, m, e, h⟩ else .infinite false) := by
  by_cases h : double.Canonical m e
  · rw [dif_pos h, dif_pos h]
    rfl
  · rw [dif_neg h, dif_neg h]
    rfl

/-- The sign has no part in the rounding. -/
theorem finiteNumber_ofRatio (negative : Bool) (r : Ratio) :
    finiteNumber (.ofRatio double negative r) = Finite.signed negative <$> finiteNumber (.ofRatio double false r) :=
  finiteNumber_signed negative _ _

private theorem exists_round_digits {d : Decimal} (short : d.digits ≤ 2 ^ 53) :
    ∃ x : Finite double, Binary.ofRatio double false ⟨d.digits, 1⟩ = .finite x ∧ x.negative = false ∧
      x.magnitude.value = d.digits := by
  have value : (⟨d.digits, 1⟩ : Ratio).value = d.digits * (2 : ℚ) ^ (0 : Int) := by simp [Ratio.value]
  obtain ⟨x, rounded, sign, digits⟩ := Binary.exists_ofRatio_of_bits (F := double) one_pos value short
    (by decide) (by decide) (by decide)
  rw [value, zpow_zero, mul_one] at digits
  exact ⟨x, rounded, sign, digits⟩

/-- Nothing is rounded but the product with a power of ten. -/
private theorem exists_times {d : Decimal} {x : Finite double} {k : Nat} (sign : x.negative = false)
    (digits : x.magnitude.value = d.digits) (exponent : d.exponent = k) (near : k ≤ 22) :
    ∃ p, powerOfTen k = .ok p ∧ x.times p = d.round double false := by
  obtain ⟨p, power, positive, ten⟩ := exists_round_powerOfTen near
  have product : x.times p = .ofRatio double (x.negative != p.negative) d.ratio := by
    apply Finite.times_eq_ofRatio d.den_ratio_pos
    rw [Decimal.value_ratio, digits, ten, exponent, zpow_natCast]
  rw [sign, positive] at product
  refine ⟨p, ?_, product.trans (d.round_eq_ofRatio false).symm⟩
  rw [powerOfTen, power]
  rfl

private theorem exists_dividedBy {d : Decimal} {x : Finite double} {k : Nat} (sign : x.negative = false)
    (digits : x.magnitude.value = d.digits) (exponent : d.exponent = -k) (near : k ≤ 22) :
    ∃ p, powerOfTen k = .ok p ∧ x.dividedBy p = d.round double false := by
  obtain ⟨p, power, positive, ten⟩ := exists_round_powerOfTen near
  have quotient : x.dividedBy p = .ofRatio double (x.negative != p.negative) d.ratio := by
    apply Finite.dividedBy_eq_ofRatio _ d.den_ratio_pos
    · rw [Decimal.value_ratio, digits, ten, exponent, zpow_neg, zpow_natCast, div_eq_mul_inv]
    · rw [ten]
      positivity
  rw [sign, positive] at quotient
  refine ⟨p, ?_, quotient.trans (d.round_eq_ofRatio false).symm⟩
  rw [powerOfTen, power]
  rfl

/-- Up to 53 bits and the twenty-second power of ten nothing but the result is rounded. -/
theorem approximate_of_short {d : Decimal} (short : d.digits ≤ 2 ^ 53) (near : d.exponent.natAbs ≤ 22) :
    approximate d = finiteNumber (d.round double false) := by
  obtain ⟨x, rounded, sign, digits⟩ := exists_round_digits short
  rw [approximate, rounded]
  simp only [finiteNumber, bind, Except.bind]
  split
  · rename_i zero
    have nothing : d.ratio.value = x.mantissa * (2 : ℚ) ^ x.exponent := by
      rw [Decimal.value_ratio, ← x.value_magnitude, digits, zero]
      simp
    have same := x.ofRatio_of_value_eq d.den_ratio_pos nothing
    rw [sign] at same
    rw [d.round_eq_ofRatio false, same]
  split
  · rename_i up
    obtain ⟨k, exponent⟩ := Int.eq_ofNat_of_zero_le up
    obtain ⟨p, power, product⟩ := exists_times sign digits exponent (by omega)
    rw [exponent, Int.toNat_natCast, power]
    dsimp only
    rw [product]
  · rename_i down
    obtain ⟨k, exponent⟩ : ∃ k : Nat, d.exponent = -k := ⟨(-d.exponent).toNat, by omega⟩
    obtain ⟨p, power, quotient⟩ := exists_dividedBy sign digits exponent (by omega)
    have once : (k - 1) / 308 = 0 := Nat.div_eq_of_lt (by omega)
    rw [exponent, neg_neg, Int.toNat_natCast, once, shrink]
    simp only [Nat.mul_zero, Nat.sub_zero, power]
    rw [quotient]

theorem Number.ofLiteral_of_pointed {l : Literal} (pointed : l.isWhole = false) :
    Number.ofLiteral l = (fun x => .float (x.signed l.negative)) <$> approximate l.kept := by
  rw [ofLiteral, pointed]
  rfl

/-- A literal with a point or a power, of at most 53 bits and no more than 22 places off, is rounded correctly. -/
theorem Number.ofLiteral_of_short {l : Literal} (pointed : l.isWhole = false) (short : l.digits ≤ 2 ^ 53)
    (near : l.decimal.exponent.natAbs ≤ 22) :
    Number.ofLiteral l = .float <$> finiteNumber (l.decimal.round double l.negative) := by
  have kept : l.kept = l.decimal := Literal.kept_of_short (by omega)
  have result (negative : Bool) : l.decimal.round double negative = .ofRatio double negative l.decimal.ratio :=
    l.decimal.round_eq_ofRatio negative
  rw [ofLiteral_of_pointed pointed, kept, approximate_of_short short near, result, result,
    finiteNumber_ofRatio l.negative, Functor.map_map]

end Json

/-- A number of double precision is read back from a short literal. -/
theorem Finite.isPortable_of_short {x : Finite double} (short : (Literal.ofFinite doublePositional x).digits ≤ 2 ^ 53)
    (near : (Literal.ofFinite doublePositional x).decimal.exponent.natAbs ≤ 22) : x.IsPortable := by
  have rounded : (Literal.ofFinite doublePositional x).decimal.round double x.negative = _ :=
    Decimal.round_congr (Literal.value_ofFinite doublePositional x)
  rw [IsPortable, Json.Number.ofLiteral_of_short (Literal.isWhole_ofFinite _ x) short near, Literal.negative_ofFinite,
    rounded, x.round_shortest]
  rfl

/-- A half in double precision. -/
def Finite.half : Finite double := ⟨false, 4503599627370496, -53, by decide⟩

theorem Finite.isPortable_half : half.IsPortable := isPortable_of_short (by decide +kernel) (by decide +kernel)

end FrameStream
