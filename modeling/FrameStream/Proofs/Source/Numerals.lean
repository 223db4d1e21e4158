import FrameStream.Source.Pattern
import Mathlib.Tactic.IntervalCases

/-!
# Reading indices back

Whatever its flags and its width, a conversion writes different indices differently: `Conversion.indexOf` finds the
digits between the signs and the padding and reads them, whichever of the three bases they are in
(`Conversion.indexOf_render`).  Padding does no harm, since zeros in front of digits do not count and a blank is no
digit; and the shorter an index is written the more it is padded, so that all ids can be padded if the first can
(`Pattern.overflows_eq_false_iff_padding`).
-/

namespace FrameStream

/-! ### Digits -/

/-- The value of a digit in either case. -/
def digitValue (c : Char) : Nat :=
  if c.isDigit then c.toNat - '0'.toNat
  else if c.isLower then c.toNat - 'a'.toNat + 10
  else c.toNat - 'A'.toNat + 10

/-- The number that digits write. -/
def numeralValue (base : Nat) (digits : List Char) : Nat :=
  digits.foldl (fun n c => n * base + digitValue c) 0

private theorem digitValue_digitChar {d : Nat} (h : d < 16) : digitValue d.digitChar = d := by
  interval_cases d <;> rfl

private theorem digitValue_toUpper_digitChar {d : Nat} (h : d < 16) : digitValue d.digitChar.toUpper = d := by
  interval_cases d <;> rfl

theorem numeralValue_append_singleton (base : Nat) (digits : List Char) (c : Char) :
    numeralValue base (digits ++ [c]) = numeralValue base digits * base + digitValue c := by
  simp [numeralValue]

/-- Zeros in front do not count. -/
theorem numeralValue_zeros_append (base n : Nat) (digits : List Char) :
    numeralValue base (List.replicate n '0' ++ digits) = numeralValue base digits := by
  have zero : digitValue '0' = 0 := rfl
  induction n with
  | zero => rfl
  | succ n ih =>
    rw [List.replicate_succ, List.cons_append, numeralValue, List.foldl_cons, Nat.zero_mul, zero]
    exact ih

/-- Digits are read back, in whichever case they are written. -/
private theorem numeralValue_map_toDigits {base : Nat} (two : 1 < base) (shape : Char → Char)
    (value : ∀ d < base, digitValue (shape d.digitChar) = d) (n : Nat) :
    numeralValue base ((Nat.toDigits base n).map shape) = n := by
  induction n using Nat.strongRecOn with
  | ind n ih =>
    by_cases small : n < base
    · rw [Nat.toDigits_of_lt_base small]
      simp [numeralValue, value n small]
    · have fewer : n / base < n := Nat.div_lt_self (by omega) two
      rw [Nat.toDigits_of_base_le two (by omega), List.map_append, List.map_singleton,
        numeralValue_append_singleton, ih _ fewer, value _ (Nat.mod_lt n (by omega)), Nat.div_add_mod']

/-- The digits of a numeral are letters and digits. -/
private theorem isAlphanum_of_mem_toDigits {base n : Nat} (two : 1 < base) (bound : base ≤ 16) {c : Char}
    (h : c ∈ Nat.toDigits base n) : c.isAlphanum ∧ c.toUpper.isAlphanum := by
  have digit (d : Nat) (small : d < base) : d.digitChar.isAlphanum ∧ d.digitChar.toUpper.isAlphanum := by
    have : d < 16 := by omega
    interval_cases d <;> exact ⟨rfl, rfl⟩
  induction n using Nat.strongRecOn with
  | ind n ih =>
    by_cases small : n < base
    · rw [Nat.toDigits_of_lt_base small, List.mem_singleton] at h
      exact h ▸ digit n small
    · rw [Nat.toDigits_of_base_le two (by omega), List.mem_append, List.mem_singleton] at h
      rcases h with h | rfl
      · exact ih _ (Nat.div_lt_self (by omega) two) h
      · exact digit _ (Nat.mod_lt n (by omega))

namespace NumeralKind

def base : NumeralKind → Nat
  | decimal | text => 10
  | hex | upperHex => 16
  | octal => 8

theorem numeralValue_digits (k : NumeralKind) (index : Nat) : numeralValue k.base (k.digits index) = index := by
  have plain {base : Nat} (two : 1 < base) (bound : base ≤ 16) :
      numeralValue base (Nat.toDigits base index) = index := by
    have read := numeralValue_map_toDigits two id (fun d hd => digitValue_digitChar (by omega)) index
    rwa [List.map_id] at read
  cases k with
  | decimal | text => exact plain (by decide) (by decide)
  | hex => exact plain (by decide) (by decide)
  | octal => exact plain (by decide) (by decide)
  | upperHex =>
    exact numeralValue_map_toDigits (by decide) Char.toUpper (fun d hd => digitValue_toUpper_digitChar hd) index

theorem isAlphanum_of_mem_digits {k : NumeralKind} {index : Nat} {c : Char} (h : c ∈ k.digits index) :
    c.isAlphanum := by
  cases k with
  | decimal | text | hex | octal => exact (isAlphanum_of_mem_toDigits (by decide) (by decide) h).1
  | upperHex =>
    obtain ⟨d, hd, rfl⟩ := List.mem_map.1 h
    exact (isAlphanum_of_mem_toDigits (by decide) (by decide) hd).2

theorem digits_ne_nil (k : NumeralKind) (index : Nat) : k.digits index ≠ [] := by
  cases k with
  | decimal | text | hex | octal => exact Nat.toDigits_ne_nil
  | upperHex => simp [digits, Nat.toDigits_ne_nil]

end NumeralKind

/-! ### Padding -/

/-- Text behind blanks: those of its own beginning are lost with them. -/
private theorem dropWhile_blanks (n : Nat) (lead digits : List Char) (dark : ∀ c ∈ digits, c ≠ ' ') :
    (List.replicate n ' ' ++ (lead ++ digits)).dropWhile (· = ' ') = lead.dropWhile (· = ' ') ++ digits := by
  rw [List.dropWhile_append_of_pos (by simp), List.dropWhile_append]
  split
  · rename_i blank
    rw [List.isEmpty_iff.1 blank, List.nil_append]
    cases digits with
    | nil => rfl
    | cons c digits => rw [List.dropWhile_cons_of_neg (by simpa using dark c List.mem_cons_self)]
  · rfl

/-- Text in front of blanks. -/
private theorem takeWhile_digits (n : Nat) {digits : List Char} (dark : ∀ c ∈ digits, c ≠ ' ') :
    (digits ++ List.replicate n ' ').takeWhile (· ≠ ' ') = digits := by
  rw [List.takeWhile_append_of_pos (by simpa using dark)]
  cases n <;> simp [List.replicate_succ]

namespace Conversion

/-- The index in a text that the conversion made. -/
def indexOf (c : Conversion) (text : List Char) : Nat :=
  numeralValue c.kind.base <|
    if c.leftAligned then (text.drop c.lead.length).takeWhile (· ≠ ' ')
    else if c.zeroPadded ∧ c.kind ≠ .text then text.drop c.lead.length
    else (text.dropWhile (· = ' ')).drop (c.lead.dropWhile (· = ' ')).length

theorem indexOf_render (c : Conversion) (index : Nat) : c.indexOf (c.render index) = index := by
  have dark : ∀ d ∈ c.kind.digits index, d ≠ ' ' := by
    rintro d hd rfl
    exact absurd (NumeralKind.isAlphanum_of_mem_digits hd) (by decide)
  unfold indexOf render
  dsimp only
  -- Blanks behind the digits, zeros in front of them, or blanks in front of everything.
  split
  · rw [List.append_assoc, List.drop_left, takeWhile_digits _ dark]
    exact c.kind.numeralValue_digits index
  split
  · rw [List.append_assoc, List.drop_left, numeralValue_zeros_append]
    exact c.kind.numeralValue_digits index
  · rw [List.append_assoc, dropWhile_blanks _ _ _ dark, List.drop_left]
    exact c.kind.numeralValue_digits index

theorem render_inj (c : Conversion) {i j : Nat} : c.render i = c.render j ↔ i = j :=
  ⟨fun h => by rw [← c.indexOf_render i, h, c.indexOf_render j], fun h => h ▸ rfl⟩

/-! ### Room -/

/-- The first index is written with one digit. -/
theorem padding_zero (c : Conversion) : c.padding 0 = c.width - (c.lead.length + 1) := by
  have one : (c.kind.digits 0).length = 1 := by
    cases c.kind <;> rfl
  rw [padding, one]

/-- No index is padded more than the first. -/
theorem padding_le_padding_zero (c : Conversion) (index : Nat) : c.padding index ≤ c.padding 0 := by
  have digits := List.length_pos_iff.2 (NumeralKind.digits_ne_nil c.kind index)
  rw [padding_zero, padding]
  omega

end Conversion

/-- All ids can be padded if the first can. -/
theorem Pattern.overflows_eq_false_iff_padding {p : Pattern} {count : Nat} :
    p.overflows count = false ↔ count = 0 ∨ p.conversion.padding 0 ≤ Conversion.longestPadding := by
  have fits (index : Nat) : p.conversion.overflows index = false ↔
      p.conversion.padding index ≤ Conversion.longestPadding := by
    rw [Conversion.overflows, decide_eq_false_iff_not, Nat.not_lt]
  have all : p.overflows count = false ↔ ∀ index < count, p.conversion.overflows index = false := by
    simp [overflows, List.any_eq_false]
  rw [all]
  constructor
  · intro room
    rcases Nat.eq_zero_or_pos count with none_made | some_made
    · exact .inl none_made
    · exact .inr ((fits 0).1 (room 0 some_made))
  · rintro (rfl | first) index there
    · exact absurd there (Nat.not_lt_zero index)
    · exact (fits index).2 ((p.conversion.padding_le_padding_zero index).trans first)

end FrameStream
