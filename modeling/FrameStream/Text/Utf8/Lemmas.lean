import FrameStream.Text.Utf8

/-!
# Reading encoded texts

The scan finds in an encoded text its characters and nothing else (`Utf8.scan_encode`), so that strict and lossy
reading both give the text back (`Utf8.decode?_encode`, `Utf8.decodeLossy_encode`).
-/

namespace FrameStream

namespace Utf8

/-! ### Single octets -/

private theorem toNat_octet {n : Nat} (h : n < 256) : (UInt8.ofNat n).toNat = n := by
  simp [UInt8.toNat_ofNat', Nat.mod_eq_of_lt h]

/-- What an octet begins, by its value. -/
theorem begin?_ofNat {n : Nat} (h : n < 256) : begin? (UInt8.ofNat n) =
    if 0xC2 ≤ n ∧ n ≤ 0xDF then some ⟨[UInt8.ofNat n], 1, n - 0xC0, 0x80, 0xBF⟩
    else if n = 0xE0 then some ⟨[UInt8.ofNat n], 2, 0x0, 0xA0, 0xBF⟩
    else if n = 0xED then some ⟨[UInt8.ofNat n], 2, 0xD, 0x80, 0x9F⟩
    else if 0xE1 ≤ n ∧ n ≤ 0xEF then some ⟨[UInt8.ofNat n], 2, n - 0xE0, 0x80, 0xBF⟩
    else if n = 0xF0 then some ⟨[UInt8.ofNat n], 3, 0x0, 0x90, 0xBF⟩
    else if n = 0xF4 then some ⟨[UInt8.ofNat n], 3, 0x4, 0x80, 0x8F⟩
    else if 0xF1 ≤ n ∧ n ≤ 0xF3 then some ⟨[UInt8.ofNat n], 3, n - 0xF0, 0x80, 0xBF⟩
    else none := by
  simp only [begin?, UInt8.le_iff_toNat_le, ← UInt8.toNat_inj, toNat_octet h]
  rfl

/-- An octet that begins a character of several octets. -/
theorem scan_begin {n : Nat} {p : Begun} {bs : Bytes} (low : 0x80 ≤ n) (high : n < 256)
    (h : begin? (UInt8.ofNat n) = some p) : scan none (UInt8.ofNat n :: bs) = scan (some p) bs := by
  have : ¬ UInt8.ofNat n < 0x80 := by
    simp [UInt8.lt_iff_toNat_lt, toNat_octet high]; omega
  simp [scan, step, first, this, h]

/-- An octet that continues a character without completing it. -/
theorem scan_continue {n : Nat} {p : Begun} {bs : Bytes} (h : n < 256) (low : p.low.toNat ≤ n)
    (high : n ≤ p.high.toNat) (missing : 1 < p.missing) : scan (some p) (UInt8.ofNat n :: bs) =
      scan (some ⟨p.octets ++ [UInt8.ofNat n], p.missing - 1, p.value * 64 + (n - 0x80), 0x80, 0xBF⟩) bs := by
  have : ¬ p.missing ≤ 1 := by omega
  simp [scan, step, UInt8.le_iff_toNat_le, toNat_octet h, low, high, this]

/-- An octet that completes a character. -/
theorem scan_complete {n : Nat} {p : Begun} {bs : Bytes} (h : n < 256) (low : p.low.toNat ≤ n)
    (high : n ≤ p.high.toNat) (missing : p.missing ≤ 1) : scan (some p) (UInt8.ofNat n :: bs) =
      .character (Char.ofNat (p.value * 64 + (n - 0x80))) :: scan none bs := by
  simp [scan, step, UInt8.le_iff_toNat_le, toNat_octet h, low, high, missing]

/-! ### Characters -/

/-- The octets of a character are its number, if that is below 128, and else lie beyond the first 128 octets. -/
theorem toNat_of_mem_utf8EncodeChar {c : Char} {b : UInt8} (h : b ∈ String.utf8EncodeChar c) :
    b.toNat = c.toNat ∨ 0x80 ≤ b.toNat := by
  have bound : c.val.toNat < 0x110000 := by
    rcases c.valid with h | ⟨_, h⟩
    · exact Nat.lt_trans h (by decide)
    · exact h
  change b.toNat = c.val.toNat ∨ _
  simp only [String.utf8EncodeChar] at h
  generalize c.val.toNat = v at h bound
  split at h
  · have : b = UInt8.ofNat v := by simpa using h
    subst this
    left
    simp
    omega
  right
  split at h
  · simp only [List.mem_cons, List.not_mem_nil, or_false] at h
    rcases h with rfl | rfl <;> simp <;> omega
  split at h
  · simp only [List.mem_cons, List.not_mem_nil, or_false] at h
    rcases h with rfl | rfl | rfl <;> simp <;> omega
  · simp only [List.mem_cons, List.not_mem_nil, or_false] at h
    rcases h with rfl | rfl | rfl | rfl <;> simp <;> omega

/-- The octets of a character are read as that character. -/
theorem scan_utf8EncodeChar (c : Char) (bs : Bytes) :
    scan none (String.utf8EncodeChar c ++ bs) = .character c :: scan none bs := by
  have valid : c.val.toNat < 0xD800 ∨ (0xDFFF < c.val.toNat ∧ c.val.toNat < 0x110000) := c.valid
  have back : Char.ofNat c.val.toNat = c := Char.ofNat_toNat c
  simp only [String.utf8EncodeChar]
  generalize c.val.toNat = v at valid back
  rw [← back]
  have same (n : Nat) (h : n = v) : Part.character (Char.ofNat n) :: scan none bs =
      Part.character (Char.ofNat v) :: scan none bs := by rw [h]
  by_cases h1 : v ≤ 127
  · have small : UInt8.ofNat v < 0x80 := by
      simp [UInt8.lt_iff_toNat_lt, toNat_octet (show v < 256 by omega)]; omega
    simp [h1, scan, step, first, small, toNat_octet (show v < 256 by omega)]
  by_cases h2 : v ≤ 2047
  · have h := begin?_ofNat (n := v / 64 % 32 + 192) (by omega)
    rw [if_pos (by omega)] at h
    simp only [h1, h2, if_true, if_false, List.cons_append, List.nil_append]
    rw [scan_begin (by omega) (by omega) h, scan_complete (by omega) (by simp) (by simp; omega) (by simp)]
    exact same _ (by simp only []; omega)
  by_cases h3 : v ≤ 65535
  · have h := begin?_ofNat (n := v / 4096 % 16 + 224) (by omega)
    simp only [h1, h2, h3, if_true, if_false, List.cons_append, List.nil_append]
    rw [if_neg (by omega)] at h
    split at h
    · rw [scan_begin (by omega) (by omega) h, scan_continue (by omega) (by simp; omega) (by simp; omega) (by simp),
        scan_complete (by omega) (by simp) (by simp; omega) (by simp)]
      exact same _ (by simp only []; omega)
    split at h
    · rw [scan_begin (by omega) (by omega) h, scan_continue (by omega) (by simp) (by simp; omega) (by simp),
        scan_complete (by omega) (by simp) (by simp; omega) (by simp)]
      exact same _ (by simp only []; omega)
    rw [if_pos (by omega)] at h
    rw [scan_begin (by omega) (by omega) h, scan_continue (by omega) (by simp) (by simp; omega) (by simp),
      scan_complete (by omega) (by simp) (by simp; omega) (by simp)]
    exact same _ (by simp only []; omega)
  · have h := begin?_ofNat (n := v / 262144 % 8 + 240) (by omega)
    simp only [h1, h2, h3, if_false, List.cons_append, List.nil_append]
    rw [if_neg (by omega), if_neg (by omega), if_neg (by omega), if_neg (by omega)] at h
    split at h
    · rw [scan_begin (by omega) (by omega) h, scan_continue (by omega) (by simp; omega) (by simp; omega) (by simp),
        scan_continue (by omega) (by simp) (by simp; omega) (by simp),
        scan_complete (by omega) (by simp) (by simp; omega) (by simp)]
      exact same _ (by simp only []; omega)
    split at h
    · rw [scan_begin (by omega) (by omega) h, scan_continue (by omega) (by simp) (by simp; omega) (by simp),
        scan_continue (by omega) (by simp) (by simp; omega) (by simp),
        scan_complete (by omega) (by simp) (by simp; omega) (by simp)]
      exact same _ (by simp only []; omega)
    rw [if_pos (by omega)] at h
    rw [scan_begin (by omega) (by omega) h, scan_continue (by omega) (by simp) (by simp; omega) (by simp),
      scan_continue (by omega) (by simp) (by simp; omega) (by simp),
      scan_complete (by omega) (by simp) (by simp; omega) (by simp)]
    exact same _ (by simp only []; omega)

/-! ### Texts -/

theorem encode_append (s t : String) : encode (s ++ t) = encode s ++ encode t := by
  simp [encode]

/-- The characters of an encoded text come back, and the scan goes on behind them. -/
theorem scan_encode (s : String) (bs : Bytes) :
    scan none (encode s ++ bs) = s.toList.map .character ++ scan none bs := by
  unfold encode
  induction s.toList with
  | nil => rfl
  | cons c cs ih => simp [scan_utf8EncodeChar, ih]

theorem decode?_encode (s : String) : decode? (encode s) = some s := by
  have h := scan_encode s []
  simp only [List.append_nil] at h
  simp [decode?, h, scan, Part.character?, Function.comp_def]

theorem decodeLossy_encode (s : String) : decodeLossy (encode s) = s := by
  have h := scan_encode s []
  simp only [List.append_nil] at h
  simp [decodeLossy, h, scan, Part.character?, Function.comp_def]

theorem encode_inj {s t : String} : encode s = encode t ↔ s = t :=
  ⟨fun h => by simpa [decodeLossy_encode] using congrArg decodeLossy h, fun h => h ▸ rfl⟩

end Utf8

end FrameStream
