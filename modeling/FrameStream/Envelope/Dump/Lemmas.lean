import FrameStream.Envelope.Dump

/-!
# The numbers of a dump

A number that fits its width is read back from its octets (`ofBigEndian_bigEndian`), and what is in front of a text
is taken off it with nothing of the text behind (`takeNumber_eq_some_iff`, `splitExactly_eq_some_iff`).
-/

namespace FrameStream

theorem length_bigEndian (width n : Nat) : (bigEndian width n).length = width := by
  induction width generalizing n with
  | zero => rfl
  | succ width ih => simp [bigEndian, ih]

theorem ofBigEndian_append_singleton (bs : Bytes) (b : UInt8) :
    ofBigEndian (bs ++ [b]) = 256 * ofBigEndian bs + b.toNat := by
  simp [ofBigEndian]

theorem ofBigEndian_bigEndian {width n : Nat} (h : n < Nat.pow 256 width) :
    ofBigEndian (bigEndian width n) = n := by
  induction width generalizing n with
  | zero =>
    have : n = 0 := by simpa using h
    subst this
    rfl
  | succ width ih =>
    have front : n / 256 < Nat.pow 256 width := Nat.div_lt_of_lt_mul (by rwa [Nat.mul_comm])
    rw [bigEndian, ofBigEndian_append_singleton, ih front]
    simp only [UInt8.toNat_ofNat']
    omega

theorem ofBigEndian_lt (bs : Bytes) : ofBigEndian bs < Nat.pow 256 bs.length := by
  have bound : ∀ start, bs.foldl (fun n b => 256 * n + b.toNat) start < (start + 1) * Nat.pow 256 bs.length := by
    induction bs with
    | nil => intro start; simp
    | cons b bs ih =>
      intro start
      have digit : 256 * start + b.toNat + 1 ≤ (start + 1) * 256 := by
        have := b.toNat_lt
        omega
      calc _ < (256 * start + b.toNat + 1) * Nat.pow 256 bs.length := ih (256 * start + b.toNat)
        _ ≤ (start + 1) * 256 * Nat.pow 256 bs.length := Nat.mul_le_mul_right _ digit
        _ = (start + 1) * (Nat.pow 256 bs.length * 256) := by rw [Nat.mul_assoc, Nat.mul_comm 256]
  simpa [ofBigEndian] using bound 0

/-- The octets of a number are those it was read from. -/
theorem bigEndian_ofBigEndian (bs : Bytes) : bigEndian bs.length (ofBigEndian bs) = bs := by
  induction h : bs.length generalizing bs with
  | zero => simp [bigEndian, List.length_eq_zero_iff.mp h]
  | succ n ih =>
    have nonempty : bs ≠ [] := fun e => by simp [e] at h
    have apart := bs.dropLast_concat_getLast nonempty
    generalize bs.dropLast = front, bs.getLast nonempty = last at apart
    subst apart
    have length : front.length = n := by simpa using h
    have := last.toNat_lt
    rw [bigEndian, ofBigEndian_append_singleton,
      show (256 * ofBigEndian front + last.toNat) / 256 = ofBigEndian front by omega, ih front length,
      show (256 * ofBigEndian front + last.toNat) % 256 = last.toNat by omega, UInt8.ofNat_toNat]

theorem splitExactly_append (front rest : Bytes) :
    splitExactly front.length (front ++ rest) = some (front, rest) := by
  simp [splitExactly]

/-- A split takes the text apart and nothing else. -/
theorem splitExactly_eq_some_iff {n : Nat} {bs front rest : Bytes} :
    splitExactly n bs = some (front, rest) ↔ bs = front ++ rest ∧ front.length = n := by
  constructor
  · intro h
    simp only [splitExactly] at h
    split at h
    · simp only [Option.some.injEq, Prod.mk.injEq] at h
      obtain ⟨rfl, rfl⟩ := h
      exact ⟨(List.take_append_drop n bs).symm, by assumption⟩
    · simp at h
  · rintro ⟨rfl, rfl⟩
    exact splitExactly_append front rest

/-- A number is taken off a text exactly if the text begins with its octets. -/
theorem takeNumber_eq_some_iff {width n : Nat} {bs rest : Bytes} :
    takeNumber width bs = some (n, rest) ↔ n < Nat.pow 256 width ∧ bs = bigEndian width n ++ rest := by
  simp only [takeNumber, Option.map_eq_some_iff, Prod.exists, Prod.mk.injEq, splitExactly_eq_some_iff]
  constructor
  · rintro ⟨front, _, ⟨rfl, rfl⟩, rfl, rfl⟩
    exact ⟨ofBigEndian_lt front, by rw [bigEndian_ofBigEndian]⟩
  · rintro ⟨bound, rfl⟩
    exact ⟨bigEndian width n, rest, ⟨rfl, length_bigEndian width n⟩, ofBigEndian_bigEndian bound, rfl⟩

end FrameStream
