import FrameStream.Proofs.Config.Spellings

/-!
# Framerates that are written

Two integers that are written with a slash between them are read as those two, so that they make a framerate unless
the second one is zero (`isFramerate_fraction`).
-/

namespace FrameStream

namespace Framerate

variable {i : Int} {c : Char} {cs num den : List Char}

/-! ### Slashes -/

theorem splitSlash_append (h : '/' ∉ num) (den : List Char) : splitSlash (num ++ '/' :: den) = some (num, den) := by
  induction num with
  | nil => rfl
  | cons c num ih =>
    rw [List.mem_cons, not_or] at h
    rw [List.cons_append, splitSlash, ih h.2]
    · rfl
    · exact fun same => h.1 same.symm

/-! ### Integers -/

/-- An integer as it is written. -/
def signedDigits (i : Int) : List Char := (if i < 0 then ['-'] else []) ++ Nat.toDigits 10 i.natAbs

theorem toList_repr (i : Int) : i.repr.toList = signedDigits i := by
  cases i with
  | ofNat n => exact Nat.toList_repr
  | negSucc n =>
    change ("-" ++ (n + 1).repr).toList = _
    rw [String.toList_append, Nat.toList_repr, signedDigits, if_pos (Int.negSucc_lt_zero n)]
    rfl

/-- An integer as it is written is an integer as it may be written. -/
theorem exists_integerText (i : Int) : ∃ t : IntegerText, t.toList = signedDigits i ∧ t.value = i := by
  have all : ∀ c ∈ Nat.toDigits 10 i.natAbs, c.isDigit := fun c hc =>
    Nat.isDigit_of_mem_toDigits (by decide) (by decide) hc
  have read : Nat.ofDigitChars 10 (Nat.toDigits 10 i.natAbs) 0 = i.natAbs :=
    Nat.ofDigitChars_toDigits (by decide) (by decide)
  by_cases negative : i < 0
  · refine ⟨⟨.minus, _, all, Nat.toDigits_ne_nil⟩, ?_, ?_⟩
    · rw [signedDigits, if_pos negative]
      rfl
    · rw [IntegerText.value, IntegerText.magnitude, read]
      change -(i.natAbs : Int) = i
      omega
  · refine ⟨⟨.none, _, all, Nat.toDigits_ne_nil⟩, ?_, ?_⟩
    · rw [signedDigits, if_neg negative]
      rfl
    · rw [IntegerText.value, IntegerText.magnitude, read]
      change (i.natAbs : Int) = i
      omega

theorem isNumeric_signedDigits (i : Int) : ∀ c ∈ signedDigits i, isNumeric c := by
  obtain ⟨t, written, -⟩ := exists_integerText i
  exact written ▸ t.isNumeric_toList

/-- An integer of 64 bits is read as it was written. -/
theorem integer?_signedDigits (lower : -0x8000000000000000 ≤ i) (upper : i < 0x8000000000000000) :
    integer? (signedDigits i) = some i := by
  obtain ⟨t, written, value⟩ := exists_integerText i
  refine integer?_eq_some_iff.2 ⟨t, written, ?_, value⟩
  rw [IntegerText.Fits, value]
  exact ⟨lower, upper⟩

end Framerate

open Framerate in
/-- A fraction of two integers is a framerate unless the second one is zero. -/
theorem isFramerate_fraction (num den : Int32) : isFramerate s!"{num}/{den}" = (den != 0) := by
  have written : (s!"{num}/{den}").toList = signedDigits num.toInt ++ '/' :: signedDigits den.toInt := by
    change (num.toInt.repr ++ "/" ++ den.toInt.repr).toList = _
    rw [String.toList_append, String.toList_append, toList_repr, toList_repr, List.append_assoc]
    rfl
  have plain (i : Int32) : ∀ c ∈ signedDigits i.toInt, isBlank c = false := fun c hc =>
    isBlank_of_isNumeric (isNumeric_signedDigits i.toInt c hc)
  have read (i : Int32) : integer? (trimBlanks (signedDigits i.toInt)) = some i.toInt := by
    have lower := i.le_toInt
    have upper := i.toInt_lt
    rw [trimBlanks_of_forall (plain i), integer?_signedDigits (by omega) (by omega)]
  have plain_fraction : ∀ c ∈ signedDigits num.toInt ++ '/' :: signedDigits den.toInt, isBlank c = false :=
    List.forall_mem_append.2 ⟨plain num, List.forall_mem_cons.2 ⟨rfl, plain den⟩⟩
  unfold isFramerate
  rw [written, trimBlanks_of_forall plain_fraction]
  dsimp only
  rw [splitSlash_append (slash_not_mem_of_isNumeric (isNumeric_signedDigits _))]
  dsimp only
  rw [read num, read den, Option.isSome_some, Bool.true_and]
  have zero : den.toInt = 0 ↔ den = 0 := Int32.toInt_inj (y := 0)
  rw [Bool.eq_iff_iff, bne_iff_ne, bne_iff_ne]
  exact not_congr zero

end FrameStream
