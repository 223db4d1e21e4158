/-!
# Numerals

The number that decimal digits stand for.  A long numeral is read in halves, so that its time is that of a few large
multiplications; `readNumeral_eq_foldl` says that the number is the one read digit by digit.
-/

namespace FrameStream

/-- The digits read one by one, behind those that stand for `start`. -/
def continueNumeral (start : Nat) (digits : List Nat) : Nat := digits.foldl (fun n d => 10 * n + d) start

/-- The digits read in halves, which are halved again while there is fuel and they are long. -/
def readHalves : (fuel : Nat) → List Nat → Nat
  | 0, digits => continueNumeral 0 digits
  | fuel + 1, digits =>
    if digits.length ≤ 32 then continueNumeral 0 digits
    else
      let half := digits.length / 2
      readHalves fuel (digits.take half) * Nat.pow 10 (digits.length - half) +
        readHalves fuel (digits.drop half)

/-- The number that digits stand for. -/
def readNumeral (digits : List Nat) : Nat := readHalves digits.length digits

/-- The number that digits stand for, as characters. -/
def readDigitChars (cs : List Char) : Nat := readNumeral (cs.map fun c => c.toNat - '0'.toNat)

/-! ### Reading in halves -/

theorem continueNumeral_eq (start : Nat) (digits : List Nat) :
    continueNumeral start digits = start * Nat.pow 10 digits.length + continueNumeral 0 digits := by
  induction digits generalizing start with
  | nil => simp [continueNumeral]
  | cons d ds ih =>
    have first := ih (10 * start + d)
    have second := ih (10 * 0 + d)
    simp only [continueNumeral, List.foldl_cons, List.length_cons] at first second ⊢
    rw [first, second, show Nat.pow 10 (ds.length + 1) = Nat.pow 10 ds.length * 10 from rfl, Nat.add_mul,
      Nat.add_mul, Nat.mul_comm 10 start, Nat.mul_assoc, Nat.mul_comm 10]
    omega

theorem readHalves_eq (fuel : Nat) (digits : List Nat) : readHalves fuel digits = continueNumeral 0 digits := by
  induction fuel generalizing digits with
  | zero => rfl
  | succ fuel ih =>
    rw [readHalves]
    split
    · rfl
    · simp only [ih]
      have whole : continueNumeral 0 digits =
          continueNumeral (continueNumeral 0 (digits.take (digits.length / 2)))
            (digits.drop (digits.length / 2)) := by
        rw [continueNumeral, continueNumeral, continueNumeral, ← List.foldl_append, List.take_append_drop]
      rw [whole, continueNumeral_eq (continueNumeral 0 _), List.length_drop]

theorem readNumeral_eq_foldl (digits : List Nat) :
    readNumeral digits = digits.foldl (fun n d => 10 * n + d) 0 := readHalves_eq _ _

/-- Digits as characters are read as core reads them. -/
theorem readDigitChars_eq_ofDigitChars (cs : List Char) : readDigitChars cs = Nat.ofDigitChars 10 cs 0 := by
  rw [readDigitChars, readNumeral_eq_foldl, List.foldl_map]
  rfl

end FrameStream
