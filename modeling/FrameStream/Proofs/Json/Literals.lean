import FrameStream.Json.Printer
import FrameStream.Proofs.Number.Rounding
import FrameStream.Proofs.Text.Spans

/-!
# Reading written numbers

A literal is read back as it was written, whatever text follows that cannot continue it (`readNumber_render`).  The
literal of an integer means that integer (`Number.ofLiteral_ofInt`), and the literal of a floating-point number stands
for its shortest decimal (`Literal.value_ofFinite`).
-/

namespace FrameStream

/-! ### Digits -/

theorem octets_append (cs ds : List Char) : octets (cs ++ ds) = octets cs ++ octets ds := List.map_append

theorem length_fixedDigits (width n : Nat) : (fixedDigits width n).length = width := by
  induction width generalizing n with
  | zero => rfl
  | succ width ih => simp [fixedDigits, ih]

theorem isDigit_of_mem_fixedDigits {width n : Nat} {c : Char} (h : c ∈ fixedDigits width n) : c.isDigit := by
  induction width generalizing n with
  | zero => simp [fixedDigits] at h
  | succ width ih =>
    rcases List.mem_append.1 h with h | h
    · exact ih h
    · rw [List.mem_singleton.1 h, Nat.isDigit_digitChar]
      simpa using Nat.mod_lt n (by decide)

theorem ofDigitChars_fixedDigits (width n : Nat) :
    Nat.ofDigitChars 10 (fixedDigits width n) 0 = n % 10 ^ width := by
  induction width generalizing n with
  | zero => simp [fixedDigits, Nat.mod_one]
  | succ width ih =>
    rw [fixedDigits, Nat.ofDigitChars_append, ih,
      Nat.ofDigitChars_cons_digitChar_of_lt_ten (Nat.mod_lt n (by decide)), Nat.ofDigitChars_nil,
      Nat.pow_succ, Nat.mul_comm _ 10, Nat.mod_mul]
    omega

/-- Only the numeral of zero starts with a zero. -/
theorem eq_zero_of_toDigits_eq_cons {n : Nat} {cs : List Char} (h : Nat.toDigits 10 n = '0' :: cs) : n = 0 := by
  induction n using Nat.strongRecOn generalizing cs with
  | ind n ih =>
    by_cases small : n < 10
    · rw [Nat.toDigits_of_lt_base small] at h
      exact Nat.digitChar_eq_zero.1 (List.cons.inj h).1
    · rw [Nat.toDigits_of_base_le (by decide) (by omega)] at h
      obtain ⟨first, rest, front⟩ := List.exists_cons_of_ne_nil (Nat.toDigits_ne_nil (n := n / 10) (b := 10))
      rw [front, List.cons_append] at h
      have := ih (n / 10) (by omega) (front.trans (by rw [(List.cons.inj h).1]))
      omega

namespace Json

theorem toNat_toUInt8_of_isDigit {c : Char} (h : c.isDigit) : c.toUInt8.toNat = c.toNat := by
  have : c.toNat ≤ 57 := (Char.isDigit_iff_toNat.1 h).2
  have size : c.toUInt8.toNat = c.toNat % 256 := by
    rw [← Char.toUInt8_val]
    exact UInt32.toNat_toUInt8 c.val
  omega

theorem isDigit_toUInt8 {c : Char} (h : c.isDigit) : isDigit c.toUInt8 := by
  obtain ⟨low, high⟩ := Char.isDigit_iff_toNat.1 h
  simpa [isDigit, UInt8.le_iff_toNat_le, toNat_toUInt8_of_isDigit h] using And.intro low high

/-- What follows cannot continue a number. -/
def endsNumber : Bytes → Bool
  | [] => true
  | b :: _ => !isDigit b && b != 0x2E && b != 0x65 && b != 0x45

theorem readDigits_octets {ds : List Char} (digits : ∀ c ∈ ds, c.isDigit) (nonempty : ds ≠ []) {rest : Bytes}
    (stop : ∀ b ∈ rest.head?, ¬ isDigit b) : readDigits (octets ds ++ rest) = .ok (octets ds, rest) := by
  have all : ∀ b ∈ octets ds, isDigit b := by
    intro b hb
    obtain ⟨c, hc, rfl⟩ := List.mem_map.1 hb
    exact isDigit_toUInt8 (digits c hc)
  obtain ⟨c, cs, rfl⟩ := List.exists_cons_of_ne_nil nonempty
  have first : isDigit c.toUInt8 := isDigit_toUInt8 (digits c List.mem_cons_self)
  change (if isDigit c.toUInt8 then _ else _) = _
  rw [if_pos first]
  exact congrArg Except.ok (Prod.ext (takeWhile_span all stop) (dropWhile_span all stop))

theorem extendNumeral_octets (start : Nat) {ds : List Char} (digits : ∀ c ∈ ds, c.isDigit) :
    extendNumeral start (octets ds) = start * 10 ^ ds.length + Nat.ofDigitChars 10 ds 0 := by
  have values : (octets ds).map (fun b => b.toNat - 0x30) = ds.map fun c => c.toNat - '0'.toNat := by
    rw [octets, List.map_map]
    exact List.map_congr_left fun c hc => by simp [toNat_toUInt8_of_isDigit (digits c hc)]
  rw [extendNumeral, values, ← readDigitChars_eq_ofDigitChars, readDigitChars, octets, List.length_map]
  rfl

/-! ### The parts of a number -/

theorem readWhole_octets (n : Nat) {rest : Bytes} (stop : ∀ b ∈ rest.head?, ¬ isDigit b) :
    readWhole (octets (Nat.toDigits 10 n) ++ rest) = .ok (n, rest) := by
  have digits : ∀ c ∈ Nat.toDigits 10 n, c.isDigit :=
    fun c hc => Nat.isDigit_of_mem_toDigits (by decide) (by decide) hc
  have numeral : extendNumeral 0 (octets (Nat.toDigits 10 n)) = n := by simp [extendNumeral_octets 0 digits]
  rw [readWhole, readDigits_octets digits Nat.toDigits_ne_nil stop]
  simp only [bind, Except.bind]
  split
  · rename_i second others heq
    -- a zero in front would be the whole numeral
    obtain ⟨c, cs, e⟩ := List.exists_cons_of_ne_nil (Nat.toDigits_ne_nil (n := n) (b := 10))
    rw [e] at heq digits
    obtain ⟨front, tail⟩ := List.cons.inj heq
    have zero : c = '0' := by
      have := toNat_toUInt8_of_isDigit (digits c List.mem_cons_self)
      rw [front] at this
      exact Char.toNat_inj.1 this.symm
    rw [zero] at e
    rw [eq_zero_of_toDigits_eq_cons e, Nat.toDigits_zero] at e
    rw [← (List.cons.inj e).2] at tail
    simp at tail
  · rw [numeral]

theorem readFraction_octets (whole places n : Nat) (h : places ≠ 0) {rest : Bytes}
    (stop : ∀ b ∈ rest.head?, ¬ isDigit b) :
    readFraction whole (octets ('.' :: fixedDigits places n) ++ rest) =
      .ok ((whole * 10 ^ places + n % 10 ^ places, places), rest) := by
  have digits : ∀ c ∈ fixedDigits places n, c.isDigit := fun c hc => isDigit_of_mem_fixedDigits hc
  have nonempty : fixedDigits places n ≠ [] := by
    rw [← List.length_pos_iff, length_fixedDigits]
    omega
  change (readDigits (octets (fixedDigits places n) ++ rest) >>= fun read =>
    Except.ok ((extendNumeral whole read.1, read.1.length), read.2)) = _
  rw [readDigits_octets digits nonempty stop]
  simp only [bind, Except.bind]
  rw [extendNumeral_octets whole digits, ofDigitChars_fixedDigits, length_fixedDigits, octets, List.length_map,
    length_fixedDigits]

theorem readFraction_of_ne (whole : Nat) {bs : Bytes} (h : ∀ b ∈ bs.head?, b ≠ 0x2E) :
    readFraction whole bs = .ok ((whole, 0), bs) := by
  unfold readFraction
  split
  · simp at h
  · rfl

theorem readPower_octets (e : Int) {rest : Bytes} (stop : ∀ b ∈ rest.head?, ¬ isDigit b) :
    readPower (octets ('e' :: (if e < 0 then '-' else '+') :: Nat.toDigits 10 e.natAbs) ++ rest) =
      .ok (some e, rest) := by
  have digits : ∀ c ∈ Nat.toDigits 10 e.natAbs, c.isDigit :=
    fun c hc => Nat.isDigit_of_mem_toDigits (by decide) (by decide) hc
  have numeral : extendNumeral 0 (octets (Nat.toDigits 10 e.natAbs)) = e.natAbs := by
    simp [extendNumeral_octets 0 digits]
  have read := readDigits_octets digits Nat.toDigits_ne_nil stop
  by_cases negative : e < 0
  · rw [if_pos negative]
    change readPower (0x65 :: 0x2D :: (octets (Nat.toDigits 10 e.natAbs) ++ rest)) = _
    simp only [readPower, read, numeral, bind, Except.bind, true_or, if_true]
    rw [show -(e.natAbs : Int) = e by omega]
  · rw [if_neg negative]
    change readPower (0x65 :: 0x2B :: (octets (Nat.toDigits 10 e.natAbs) ++ rest)) = _
    simp only [readPower, read, numeral, bind, Except.bind, true_or, if_true]
    rw [if_neg Bool.false_ne_true, show (e.natAbs : Int) = e by omega]

theorem readPower_of_ne {bs : Bytes} (h : ∀ b ∈ bs.head?, b ≠ 0x65 ∧ b ≠ 0x45) :
    readPower bs = .ok (none, bs) := by
  cases bs with
  | nil => rfl
  | cons b bs =>
    have := h b rfl
    simp [readPower, this.1, this.2]

/-! ### Whole numbers -/

theorem endsNumber_iff {rest : Bytes} :
    endsNumber rest ↔ ∀ b ∈ rest.head?, ¬ isDigit b ∧ b ≠ 0x2E ∧ b ≠ 0x65 ∧ b ≠ 0x45 := by
  cases rest with
  | nil => simp [endsNumber]
  | cons b rest => simp [endsNumber, and_assoc]

/-- The power of ten as it is written. -/
private def powerCharacters : Option Int → List Char
  | none => []
  | some e => 'e' :: (if e < 0 then '-' else '+') :: Nat.toDigits 10 e.natAbs

private theorem readPower_powerCharacters (power : Option Int) {rest : Bytes} (h : endsNumber rest) :
    readPower (octets (powerCharacters power) ++ rest) = .ok (power, rest) := by
  rw [endsNumber_iff] at h
  cases power with
  | none => exact readPower_of_ne fun b hb => ⟨(h b hb).2.2.1, (h b hb).2.2.2⟩
  | some e => exact readPower_octets e fun b hb => (h b hb).1

/-- What stands in front of the power: neither a digit nor a point. -/
private theorem head_powerCharacters (power : Option Int) {rest : Bytes} (h : endsNumber rest) :
    ∀ b ∈ (octets (powerCharacters power) ++ rest).head?, ¬ isDigit b ∧ b ≠ 0x2E := by
  rw [endsNumber_iff] at h
  cases power with
  | none => exact fun b hb => ⟨(h b hb).1, (h b hb).2.1⟩
  | some e =>
    intro b hb
    have : b = 'e'.toUInt8 := by simpa [powerCharacters, octets] using hb.symm
    rw [this]
    decide

/-- A literal without its sign is read back with the sign that is given. -/
theorem readNumber_render (l : Literal) {rest : Bytes} (h : endsNumber rest) (negative : Bool) :
    readNumber negative ({ l with negative := false : Literal }.render ++ rest) =
      .ok ({ l with negative }, rest) := by
  have power := readPower_powerCharacters l.power h
  have stop := head_powerCharacters l.power h
  have split := Nat.div_add_mod' l.digits (10 ^ l.places)
  have written : { l with negative := false : Literal }.render ++ rest =
      octets (Nat.toDigits 10 (l.digits / 10 ^ l.places)) ++
        (octets (if l.places = 0 then [] else '.' :: fixedDigits l.places (l.digits % 10 ^ l.places)) ++
          (octets (powerCharacters l.power) ++ rest)) := by
    simp only [Literal.render, Literal.characters, Nat.pow_eq, Bool.false_eq_true, if_false, List.nil_append,
      octets_append, List.append_assoc]
    cases l.power <;> rfl
  rw [written, readNumber]
  by_cases whole : l.places = 0
  · rw [if_pos whole]
    change (readWhole (octets _ ++ (octets (powerCharacters l.power) ++ rest)) >>= _) = _
    rw [readWhole_octets _ fun b hb => (stop b hb).1]
    simp only [bind, Except.bind]
    rw [readFraction_of_ne _ fun b hb => (stop b hb).2]
    simp only [power]
    rw [whole, Nat.pow_zero, Nat.div_one, ← whole]
  · have point : ¬ isDigit '.'.toUInt8 := by decide
    rw [if_neg whole, readWhole_octets _ fun b hb => by
      rw [← Option.some.inj hb]
      exact point]
    simp only [bind, Except.bind]
    rw [readFraction_octets _ _ _ whole fun b hb => (stop b hb).1]
    simp only [power, Nat.mod_mod, split]

/-! ### The meaning of a number -/

/-- The literal of an integer means that integer. -/
theorem Number.ofLiteral_ofInt (i : WideInt) : Number.ofLiteral (.ofInt i.value) = .ok (.integer i) := by
  have there : WideInt.ofInt? i.value = some i := by
    rw [WideInt.ofInt?, dif_pos ⟨i.lower, i.upper⟩]
  have value : (if (Literal.ofInt i.value).negative then -((Literal.ofInt i.value).digits : Int)
      else (Literal.ofInt i.value).digits) = i.value := by
    by_cases negative : i.value < 0
    · have sign : (Literal.ofInt i.value).negative = true := decide_eq_true negative
      rw [if_pos sign]
      change -(i.value.natAbs : Int) = i.value
      omega
    · have sign : (Literal.ofInt i.value).negative = false := decide_eq_false negative
      rw [if_neg (by rw [sign]; exact Bool.false_ne_true)]
      change (i.value.natAbs : Int) = i.value
      omega
  have whole : ((Literal.ofInt i.value).isWhole &&
      !((Literal.ofInt i.value).negative && (Literal.ofInt i.value).digits == 0)) = true := by
    change (!(decide (i.value < 0) && i.value.natAbs == 0)) = true
    by_cases negative : i.value < 0
    · simp [negative]
      omega
    · simp [negative]
  rw [ofLiteral]
  simp only [value, whole, if_true, there]

end Json

/-! ### Literals of floating-point numbers -/

variable {F : FloatFormat}

theorem Literal.negative_ofFinite (style : Positional) (x : Finite F) :
    (Literal.ofFinite style x).negative = x.negative := by
  unfold Literal.ofFinite
  dsimp only
  split
  · rfl
  split
  · split <;> rfl
  · rfl

/-- A literal for a floating-point number has a point or a power of ten. -/
theorem Literal.isWhole_ofFinite (style : Positional) (x : Finite F) :
    (Literal.ofFinite style x).isWhole = false := by
  unfold Literal.ofFinite Literal.isWhole
  dsimp only
  split
  · rfl
  split
  · split
    · rfl
    · have : (-x.shortest.exponent).toNat ≠ 0 := by omega
      simp [this]
  · simp

/-- The literal stands for the shortest decimal. -/
theorem Literal.value_ofFinite (style : Positional) (x : Finite F) :
    ((Literal.ofFinite style x).decimal.digits : ℚ) * 10 ^ (Literal.ofFinite style x).decimal.exponent =
      x.shortest.digits * 10 ^ x.shortest.exponent := by
  unfold Literal.ofFinite Literal.decimal
  dsimp only
  split
  · rename_i zero
    simp [zero]
  split
  · split
    · rename_i nonneg
      obtain ⟨n, hn⟩ := Int.eq_ofNat_of_zero_le nonneg
      rw [hn]
      simp only [Option.getD_none, Int.toNat_natCast, Nat.pow_eq, zpow_natCast]
      push_cast
      rw [zpow_neg, zpow_one, pow_succ]
      field_simp
    · simp only [Option.getD_none]
      rw [show 0 - (((-x.shortest.exponent).toNat : Nat) : Int) = x.shortest.exponent by omega]
  · simp only [Option.getD_some, add_sub_cancel_right]

end FrameStream
