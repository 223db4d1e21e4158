import FrameStream.Config.Framerate
import FrameStream.Proofs.Text.Spans
import Mathlib.Data.List.Induction
import Mathlib.Data.Rat.Floor

/-!
# How integers and decimals are written

An integer is written as digits behind a sign or none (`IntegerText`), a decimal as digits with a point anywhere or
nowhere and perhaps a power of ten behind them (`DecimalText`).  Such texts, and only they, are read as integers
(`integer?_eq_some_iff`) and as decimals (`decimal?_eq_some_iff`).  Of a power only the leading digits are read, as many
as come to less than 655360 (`cutPower`).  None of the characters is a blank or a slash (`isNumeric`).
-/

namespace FrameStream

namespace Framerate

variable {cs ds rest : List Char}

/-! ### Signs -/

/-- A sign as it may be written. -/
inductive Sign where
  | none
  | plus
  | minus
  deriving DecidableEq

namespace Sign

def toList : Sign → List Char
  | none => []
  | plus => ['+']
  | minus => ['-']

/-- A number behind the sign. -/
def apply (s : Sign) (n : Nat) : Int := if s = minus then -n else n

end Sign

theorem splitSign_append (s : Sign) (plain : ∀ c ∈ cs.head?, c ≠ '-' ∧ c ≠ '+') :
    splitSign (s.toList ++ cs) = (decide (s = .minus), cs) := by
  cases s with
  | plus => rfl
  | minus => rfl
  | none =>
    cases cs with
    | nil => rfl
    | cons c cs =>
      obtain ⟨minus, plus⟩ := plain c rfl
      exact splitSign.eq_3 (c :: cs) (fun _ same => minus (List.cons.inj same).1)
        fun _ same => plus (List.cons.inj same).1

theorem exists_sign (cs : List Char) :
    ∃ s : Sign, s.toList ++ (splitSign cs).2 = cs ∧ (splitSign cs).1 = decide (s = .minus) := by
  fun_cases splitSign cs with
  | case1 cs => exact ⟨.minus, rfl, rfl⟩
  | case2 cs => exact ⟨.plus, rfl, rfl⟩
  | case3 cs => exact ⟨.none, rfl, rfl⟩

theorem plain_of_digits (all : ∀ c ∈ ds, c.isDigit) : ∀ c ∈ ds.head?, c ≠ '-' ∧ c ≠ '+' := by
  intro c first
  have digit := all c (List.mem_of_mem_head? first)
  constructor
  · rintro rfl
    cases digit
  · rintro rfl
    cases digit

/-! ### Integers -/

/-- An integer as it may be written. -/
structure IntegerText where
  sign : Sign
  digits : List Char
  digit : ∀ c ∈ digits, c.isDigit
  written : digits ≠ []

namespace IntegerText

def toList (t : IntegerText) : List Char := t.sign.toList ++ t.digits

def magnitude (t : IntegerText) : Nat := Nat.ofDigitChars 10 t.digits 0

def value (t : IntegerText) : Int := t.sign.apply t.magnitude

/-- The integer has 64 bits. -/
def Fits (t : IntegerText) : Prop := -0x8000000000000000 ≤ t.value ∧ t.value < 0x8000000000000000

instance (t : IntegerText) : Decidable t.Fits := inferInstanceAs (Decidable (_ ∧ _))

theorem splitSign_toList (t : IntegerText) : splitSign t.toList = (decide (t.sign = .minus), t.digits) :=
  splitSign_append t.sign (plain_of_digits t.digit)

/-- Signs and digits that can be read are those of an integer. -/
theorem exists_of_splitSign (h : ¬ ((splitSign cs).2 = [] ∨ (!(splitSign cs).2.all Char.isDigit) = true)) :
    ∃ t : IntegerText, t.toList = cs := by
  rw [not_or, Bool.not_eq_true', Bool.not_eq_false, List.all_eq_true] at h
  obtain ⟨s, whole, -⟩ := exists_sign cs
  exact ⟨⟨s, (splitSign cs).2, h.2, h.1⟩, whole⟩

theorem readable (t : IntegerText) : ¬ (t.digits = [] ∨ (!t.digits.all Char.isDigit) = true) := by
  rw [not_or, Bool.not_eq_true', Bool.not_eq_false, List.all_eq_true]
  exact ⟨t.written, t.digit⟩

theorem value_congr {t u : IntegerText} (h : t.toList = u.toList) : t.value = u.value := by
  have parts := congrArg splitSign h
  rw [splitSign_toList, splitSign_toList] at parts
  obtain ⟨sign, digits⟩ := Prod.mk.inj parts
  rw [decide_eq_decide] at sign
  simp only [value, magnitude, Sign.apply, sign, digits]

end IntegerText

theorem integer?_toList (t : IntegerText) : integer? t.toList = if t.Fits then some t.value else none := by
  have value : (if decide (t.sign = .minus) then -(readDigitChars t.digits : Int) else readDigitChars t.digits) =
      t.value := by
    simp only [decide_eq_true_eq, readDigitChars_eq_ofDigitChars, IntegerText.value, IntegerText.magnitude, Sign.apply]
  unfold integer?
  rw [t.splitSign_toList]
  dsimp only
  rw [if_neg t.readable, value]
  rfl

/-- The texts that are read as integers. -/
theorem integer?_eq_some_iff {i : Int} :
    integer? cs = some i ↔ ∃ t : IntegerText, t.toList = cs ∧ t.Fits ∧ t.value = i := by
  constructor
  · intro h
    have readable : ¬ ((splitSign cs).2 = [] ∨ (!(splitSign cs).2.all Char.isDigit) = true) := by
      intro bad
      unfold integer? at h
      dsimp only at h
      rw [if_pos bad] at h
      cases h
    obtain ⟨t, rfl⟩ := IntegerText.exists_of_splitSign readable
    rw [integer?_toList] at h
    split at h
    · rename_i fits
      cases h
      exact ⟨t, rfl, fits, rfl⟩
    · cases h
  · rintro ⟨t, rfl, fits, rfl⟩
    rw [integer?_toList, if_pos fits]

/-! ### Powers -/

/-- The leading digits of a power, as many as come to less than 655360. -/
def cutPower (n : Nat) : Nat := if n < 0xA0000 then n else cutPower (n / 10)

theorem cutPower_of_lt {n : Nat} (small : n < 0xA0000) : cutPower n = n := by
  rw [cutPower, if_pos small]

/-- A power that is cut still has its five first digits. -/
theorem cutPower_bounds {n : Nat} (large : 0xA0000 ≤ n) : 0x10000 ≤ cutPower n ∧ cutPower n < 0xA0000 := by
  fun_induction cutPower n with
  | case1 n small => omega
  | case2 n _ ih =>
    by_cases small : n / 10 < 0xA0000
    · rw [cutPower_of_lt small]
      omega
    · exact ih (Nat.not_lt.1 small)

private theorem cutPower_concat {n d : Nat} (digit : d < 10) :
    cutPower (10 * n + d) = if cutPower n < 0x10000 then 10 * cutPower n + d else cutPower n := by
  by_cases small : n < 0xA0000
  · rw [cutPower_of_lt small]
    split
    · exact cutPower_of_lt (by omega)
    · rw [cutPower, if_neg (by omega), show (10 * n + d) / 10 = n by omega, cutPower_of_lt small]
  · have := (cutPower_bounds (Nat.not_lt.1 small)).1
    rw [if_neg (by omega), cutPower, if_neg (by omega), show (10 * n + d) / 10 = n by omega]

/-- The digits of a power are read up to where it is cut. -/
theorem powerOfDigits_eq (all : ∀ c ∈ ds, c.isDigit) : powerOfDigits ds = cutPower (Nat.ofDigitChars 10 ds 0) := by
  induction ds using List.reverseRecOn with
  | nil => exact (cutPower_of_lt (by decide)).symm
  | append_singleton ds c ih =>
    rw [List.forall_mem_append, List.forall_mem_singleton] at all
    have bounds : 48 ≤ c.toNat ∧ c.toNat ≤ 57 := Char.isDigit_iff_toNat.1 all.2
    have digit : c.toNat - '0'.toNat < 10 := by
      change c.toNat - 48 < 10
      omega
    rw [powerOfDigits, List.foldl_append, ← powerOfDigits, ih all.1, Nat.ofDigitChars_append, Nat.ofDigitChars_cons,
      Nat.ofDigitChars_nil, cutPower_concat digit]
    rfl

theorem ofDigitChars_lt (all : ∀ c ∈ ds, c.isDigit) : Nat.ofDigitChars 10 ds 0 < 10 ^ ds.length := by
  induction ds using List.reverseRecOn with
  | nil => exact Nat.one_pos
  | append_singleton ds c ih =>
    rw [List.forall_mem_append, List.forall_mem_singleton] at all
    have bounds : 48 ≤ c.toNat ∧ c.toNat ≤ 57 := Char.isDigit_iff_toNat.1 all.2
    have front := ih all.1
    rw [Nat.ofDigitChars_append, Nat.ofDigitChars_cons, Nat.ofDigitChars_nil, List.length_append, List.length_singleton,
      Nat.pow_succ]
    change 10 * Nat.ofDigitChars 10 ds 0 + (c.toNat - 48) < 10 ^ ds.length * 10
    omega

/-- A power of ten as it may be written. -/
structure PowerText where
  letter : Char
  known : letter = 'e' ∨ letter = 'E'
  number : IntegerText

namespace PowerText

def toList (t : PowerText) : List Char := t.letter :: t.number.toList

def value (t : PowerText) : Int := t.number.value

/-- The power as far as it is read. -/
def readValue (t : PowerText) : Int := t.number.sign.apply (cutPower t.number.magnitude)

theorem value_congr {t u : Option PowerText} (h : t.elim [] toList = u.elim [] toList) :
    t.elim 0 value = u.elim 0 value := by
  cases t with
  | none =>
    cases u with
    | none => rfl
    | some u => cases h
  | some t =>
    cases u with
    | none => cases h
    | some u => exact IntegerText.value_congr (List.cons.inj h).2

end PowerText

theorem power?_toList (t : PowerText) : power? t.toList = some t.readValue := by
  have value : (if decide (t.number.sign = .minus) then -(powerOfDigits t.number.digits : Int)
      else powerOfDigits t.number.digits) = t.readValue := by
    simp only [decide_eq_true_eq, powerOfDigits_eq t.number.digit, PowerText.readValue, IntegerText.magnitude,
      Sign.apply]
  rw [PowerText.toList, power?, if_pos t.known, t.number.splitSign_toList]
  dsimp only
  rw [if_neg t.number.readable, value]

/-- What is read as a power is one, or nothing at all. -/
theorem power?_eq_some_iff {e : Int} :
    power? rest = some e ↔
      ∃ t : Option PowerText, t.elim [] PowerText.toList = rest ∧ t.elim 0 PowerText.readValue = e := by
  constructor
  · intro h
    cases rest with
    | nil =>
      cases h
      exact ⟨none, rfl, rfl⟩
    | cons c cs =>
      rw [power?] at h
      split at h
      · rename_i known
        dsimp only at h
        split at h
        · cases h
        · rename_i readable
          obtain ⟨t, rfl⟩ := IntegerText.exists_of_splitSign readable
          refine ⟨some ⟨c, known, t⟩, rfl, ?_⟩
          have read := power?_toList ⟨c, known, t⟩
          rw [PowerText.toList, power?, if_pos known] at read
          dsimp only at read
          rw [if_neg readable, h] at read
          exact (Option.some.inj read).symm
      · cases h
  · rintro ⟨t, rfl, rfl⟩
    cases t with
    | none => rfl
    | some t => exact power?_toList t

/-! ### Decimals -/

/-- A decimal as it may be written. -/
structure DecimalText where
  sign : Sign
  whole : List Char
  /-- The digits behind the point, if there is a point. -/
  places : Option (List Char)
  power : Option PowerText
  digit : ∀ c ∈ whole ++ places.getD [], c.isDigit
  written : whole ++ places.getD [] ≠ []

namespace DecimalText

def toList (t : DecimalText) : List Char :=
  t.sign.toList ++ (t.whole ++ (t.places.elim [] ('.' :: ·) ++ t.power.elim [] PowerText.toList))

/-- The number that the digits come to without a point. -/
def digits (t : DecimalText) : Nat := Nat.ofDigitChars 10 (t.whole ++ t.places.getD []) 0

/-- How far the point stands from the end of the digits. -/
def scale (t : DecimalText) : Nat := (t.places.getD []).length

/-- What the decimal stands for, but for its sign. -/
def magnitude (t : DecimalText) : ℚ := t.digits * 10 ^ (t.power.elim 0 PowerText.value - t.scale)

/-- The decimal with the power as far as it is read. -/
def read (t : DecimalText) : Decimal := ⟨t.digits, t.power.elim 0 PowerText.readValue - t.scale⟩

def readMagnitude (t : DecimalText) : ℚ := t.read.digits * 10 ^ t.read.exponent

/-- What stands behind the digits does not begin with one, nor with a point. -/
private theorem power_stops (t : Option PowerText) :
    ∀ c ∈ (t.elim [] PowerText.toList).head?, ¬ c.isDigit ∧ c ≠ '.' := by
  intro c first
  cases t with
  | none => cases first
  | some t =>
    cases first
    rcases t.known with letter | letter <;> rw [letter] <;> decide

theorem splitPlaces_toList (t : DecimalText) :
    splitPlaces (t.places.elim [] ('.' :: ·) ++ t.power.elim [] PowerText.toList) =
      (t.places.getD [], t.power.elim [] PowerText.toList) := by
  have digit := (List.forall_mem_append.1 t.digit).2
  have stops := power_stops t.power
  cases places : t.places with
  | some ds =>
    rw [places] at digit
    have stops' : ∀ c ∈ (t.power.elim [] PowerText.toList).head?, ¬ c.isDigit := fun c first => (stops c first).1
    exact Prod.ext (takeWhile_span digit stops') (dropWhile_span digit stops')
  | none =>
    refine splitPlaces.eq_2 _ ?_
    intro cs point
    rw [Option.elim_none, List.nil_append] at point
    rw [point] at stops
    exact (stops '.' rfl).2 rfl

/-- What stands behind the whole digits is no digit. -/
private theorem whole_stops (t : DecimalText) :
    ∀ c ∈ (t.places.elim [] ('.' :: ·) ++ t.power.elim [] PowerText.toList).head?, ¬ c.isDigit := by
  intro c first
  cases places : t.places with
  | some ds =>
    rw [places] at first
    cases first
    decide
  | none =>
    rw [places] at first
    exact (power_stops t.power c first).1

/-- What stands behind the sign is no sign. -/
private theorem sign_stops (t : DecimalText) :
    ∀ c ∈ (t.whole ++ (t.places.elim [] ('.' :: ·) ++ t.power.elim [] PowerText.toList)).head?, c ≠ '-' ∧ c ≠ '+' := by
  intro c first
  cases whole : t.whole with
  | cons d ds =>
    rw [whole] at first
    cases first
    exact plain_of_digits (List.forall_mem_append.1 t.digit).1 c (by rw [whole]; rfl)
  | nil =>
    -- without whole digits there is a point
    cases places : t.places with
    | some ds =>
      rw [whole, places] at first
      cases first
      decide
    | none =>
      have written := t.written
      rw [whole, places] at written
      exact absurd rfl written

/-- A text of a decimal falls into its parts in one way only, but for a point or a sign that makes no difference. -/
theorem parts_eq {t u : DecimalText} (h : t.toList = u.toList) :
    t.whole = u.whole ∧ t.places.getD [] = u.places.getD [] ∧
      t.power.elim [] PowerText.toList = u.power.elim [] PowerText.toList := by
  have signless := congrArg (fun cs => (splitSign cs).2) h
  simp only [toList, splitSign_append _ t.sign_stops, splitSign_append _ u.sign_stops] at signless
  have whole := congrArg (List.takeWhile Char.isDigit) signless
  have behind := congrArg (fun cs => splitPlaces (cs.dropWhile Char.isDigit)) signless
  have t_digits := (List.forall_mem_append.1 t.digit).1
  have u_digits := (List.forall_mem_append.1 u.digit).1
  rw [takeWhile_span t_digits t.whole_stops, takeWhile_span u_digits u.whole_stops] at whole
  simp only [dropWhile_span t_digits t.whole_stops, dropWhile_span u_digits u.whole_stops, splitPlaces_toList] at behind
  exact ⟨whole, (Prod.mk.inj behind).1, (Prod.mk.inj behind).2⟩

/-- A text stands for one magnitude. -/
theorem magnitude_congr {t u : DecimalText} (h : t.toList = u.toList) : t.magnitude = u.magnitude := by
  obtain ⟨whole, places, power⟩ := parts_eq h
  rw [magnitude, magnitude, digits, digits, scale, scale, whole, places, PowerText.value_congr power]

end DecimalText

theorem decimal?_toList (t : DecimalText) : decimal? t.toList = some (decide (t.sign = .minus), t.read) := by
  have whole := (List.forall_mem_append.1 t.digit).1
  unfold decimal?
  rw [DecimalText.toList, splitSign_append t.sign t.sign_stops]
  dsimp only
  rw [takeWhile_span whole t.whole_stops, dropWhile_span whole t.whole_stops, t.splitPlaces_toList]
  dsimp only
  rw [if_neg t.written, power?_eq_some_iff.2 ⟨t.power, rfl, rfl⟩, readDigitChars_eq_ofDigitChars,
    Option.map_some]
  rfl

theorem exists_places (cs : List Char) :
    ∃ places : Option (List Char), (∀ c ∈ places.getD [], c.isDigit) ∧ places.getD [] = (splitPlaces cs).1 ∧
      places.elim [] ('.' :: ·) ++ (splitPlaces cs).2 = cs := by
  fun_cases splitPlaces cs with
  | case1 cs =>
    refine ⟨some (cs.takeWhile Char.isDigit), all_takeWhile Char.isDigit cs, rfl, ?_⟩
    exact congrArg ('.' :: ·) List.takeWhile_append_dropWhile
  | case2 cs => exact ⟨none, fun c hc => absurd hc List.not_mem_nil, rfl, rfl⟩

/-- The texts that are read as decimals. -/
theorem decimal?_eq_some_iff {negative : Bool} {d : Decimal} :
    decimal? cs = some (negative, d) ↔
      ∃ t : DecimalText, t.toList = cs ∧ decide (t.sign = .minus) = negative ∧ t.read = d := by
  constructor
  · intro h
    have texts : ∃ t : DecimalText, t.toList = cs := by
      unfold decimal? at h
      dsimp only at h
      obtain ⟨sign, behind_sign, -⟩ := exists_sign cs
      set signless := (splitSign cs).2
      obtain ⟨places, point_digits, same, behind⟩ := exists_places (signless.dropWhile Char.isDigit)
      split at h
      · cases h
      · rename_i written
        obtain ⟨e, power, -⟩ := Option.map_eq_some_iff.1 h
        obtain ⟨power, rest, -⟩ := power?_eq_some_iff.1 power
        refine ⟨⟨sign, signless.takeWhile Char.isDigit, places, power, ?_, ?_⟩, ?_⟩
        · exact List.forall_mem_append.2 ⟨all_takeWhile _ _, point_digits⟩
        · rwa [same]
        · rw [DecimalText.toList]
          dsimp only
          rw [rest, behind, List.takeWhile_append_dropWhile, behind_sign]
    obtain ⟨t, rfl⟩ := texts
    rw [decimal?_toList] at h
    cases h
    exact ⟨t, rfl, rfl, rfl⟩
  · rintro ⟨t, rfl, rfl, rfl⟩
    exact decimal?_toList t

/-! ### Characters of a number -/

/-- The characters of integers and decimals. -/
def isNumeric (c : Char) : Bool := c.isDigit || ['-', '+', '.', 'e', 'E'].contains c

theorem isNumeric_of_digits {ds : List Char} (all : ∀ c ∈ ds, c.isDigit) : ∀ c ∈ ds, isNumeric c := by
  intro c here
  rw [isNumeric, all c here, Bool.true_or]

theorem isBlank_of_isNumeric {c : Char} (h : isNumeric c) : isBlank c = false := by
  rw [isNumeric, Bool.or_eq_true, List.contains_iff_mem] at h
  rcases h with digit | other
  · have bounds : 48 ≤ c.toNat ∧ c.toNat ≤ 57 := Char.isDigit_iff_toNat.1 digit
    unfold isBlank
    simp only [Bool.or_eq_false_iff, Bool.and_eq_false_imp, decide_eq_true_eq, decide_eq_false_iff_not, Nat.not_le,
      beq_eq_false_iff_ne, ne_eq]
    omega
  · simp only [List.mem_cons, List.not_mem_nil, or_false] at other
    rcases other with rfl | rfl | rfl | rfl | rfl <;> rfl

theorem slash_not_mem_of_isNumeric (h : ∀ c ∈ cs, isNumeric c) : '/' ∉ cs := by
  intro slash
  cases h '/' slash

theorem Sign.isNumeric_toList (s : Sign) : ∀ c ∈ s.toList, isNumeric c := by
  cases s <;> simp [toList, isNumeric]

namespace IntegerText

theorem isNumeric_toList (t : IntegerText) : ∀ c ∈ t.toList, isNumeric c :=
  List.forall_mem_append.2 ⟨t.sign.isNumeric_toList, isNumeric_of_digits t.digit⟩

theorem exists_digit (t : IntegerText) : ∃ c ∈ t.toList, c.isDigit := by
  obtain ⟨c, digit⟩ := List.exists_mem_of_ne_nil _ t.written
  exact ⟨c, List.mem_append_right _ digit, t.digit c digit⟩

end IntegerText

namespace DecimalText

theorem isNumeric_toList (t : DecimalText) : ∀ c ∈ t.toList, isNumeric c := by
  have digits := List.forall_mem_append.1 t.digit
  have places : ∀ c ∈ t.places.elim [] ('.' :: ·), isNumeric c := by
    cases places : t.places with
    | none => exact List.forall_mem_nil _
    | some ds =>
      have all := digits.2
      rw [places] at all
      exact List.forall_mem_cons.2 ⟨rfl, isNumeric_of_digits all⟩
  have power : ∀ c ∈ t.power.elim [] PowerText.toList, isNumeric c := by
    cases t.power with
    | none => exact List.forall_mem_nil _
    | some p =>
      refine List.forall_mem_cons.2 ⟨?_, p.number.isNumeric_toList⟩
      rcases p.known with letter | letter <;> rw [letter] <;> rfl
  simp only [toList, List.forall_mem_append]
  exact ⟨t.sign.isNumeric_toList, isNumeric_of_digits digits.1, places, power⟩

theorem exists_digit (t : DecimalText) : ∃ c ∈ t.toList, c.isDigit := by
  obtain ⟨c, digit⟩ := List.exists_mem_of_ne_nil _ t.written
  refine ⟨c, List.mem_append_right _ ?_, t.digit c digit⟩
  rcases List.mem_append.1 digit with whole | behind
  · exact List.mem_append_left _ whole
  · refine List.mem_append_right _ (List.mem_append_left _ ?_)
    cases places : t.places with
    | none =>
      rw [places] at behind
      cases behind
    | some ds =>
      rw [places] at behind
      exact List.mem_cons_of_mem _ behind

end DecimalText

end Framerate

end FrameStream
