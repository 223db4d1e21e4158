import FrameStream.Proofs.Results
import FrameStream.Proofs.Text.Spans
import FrameStream.Source.Basic

/-!
# How patterns are written

A pattern is literal text with one conversion in it.  Its *spelling* tells the parts as they are written: the text
with every percent sign doubled, the flags, the digits of the width, and the kind of numeral.  A text is read as a
pattern exactly if it has such a spelling (`Pattern.parse_eq_ok_iff`).  A zero between flags and width could be taken
for either, and it is always a flag (`Spelling.exists_settled`).
-/

namespace FrameStream

/-- A pattern as it is written. -/
structure Spelling where
  before : List Char
  flags : List Char
  /-- The digits of the width, if there is one. -/
  width : List Char
  kind : Char
  after : List Char

/-! ### Literal text -/

/-- Literal text in a pattern: a percent sign is doubled. -/
def escape (text : List Char) : List Char := text.flatMap fun c => if c = '%' then ['%', '%'] else [c]

@[simp] theorem escape_nil : escape [] = [] := rfl

@[simp] theorem escape_percent_cons (text : List Char) : escape ('%' :: text) = '%' :: '%' :: escape text := rfl

theorem escape_cons_of_ne {c : Char} (plain : c ≠ '%') (text : List Char) : escape (c :: text) = c :: escape text := by
  rw [escape, List.flatMap_cons, if_neg plain]
  rfl

namespace Pattern

private theorem readText_cons_of_ne {c : Char} (plain : c ≠ '%') (cs : List Char) :
    readText (c :: cs) = (c :: (readText cs).1, (readText cs).2) := by
  rw [readText.eq_4 c cs (fun _ h _ => plain h) plain]

private theorem readText_percent {cs : List Char} (lone : cs.head? ≠ some '%') :
    readText ('%' :: cs) = ([], some cs) := by
  refine readText.eq_3 cs ?_
  rintro rest rfl
  exact lone rfl

/-- Literal text is read up to its end. -/
theorem readText_escape (text : List Char) : readText (escape text) = (text, none) := by
  induction text with
  | nil => rfl
  | cons c text ih =>
    by_cases percent : c = '%'
    · subst percent
      rw [escape_percent_cons, readText, ih]
    · rw [escape_cons_of_ne percent, readText_cons_of_ne percent, ih]

/-- Literal text is read up to a lone percent sign. -/
theorem readText_escape_append (text : List Char) {rest : List Char} (lone : rest.head? ≠ some '%') :
    readText (escape text ++ '%' :: rest) = (text, some rest) := by
  induction text with
  | nil => exact readText_percent lone
  | cons c text ih =>
    by_cases percent : c = '%'
    · subst percent
      rw [escape_percent_cons, List.cons_append, List.cons_append, readText, ih]
    · rw [escape_cons_of_ne percent, List.cons_append, readText_cons_of_ne percent, ih]

/-- Reading literal text loses nothing. -/
theorem escape_readText (cs : List Char) : escape (readText cs).1 ++ (readText cs).2.elim [] ('%' :: ·) = cs := by
  fun_induction readText cs with
  | case1 => rfl
  | case2 cs text rest read ih =>
    rw [read] at ih
    rw [escape_percent_cons, List.cons_append, List.cons_append, ih]
  | case3 cs _ => rfl
  | case4 c cs _ plain text rest read ih =>
    rw [read] at ih
    rw [escape_cons_of_ne plain, List.cons_append, ih]

end Pattern

/-! ### Spellings -/

namespace Spelling

def toList (s : Spelling) : List Char := escape s.before ++ '%' :: (s.flags ++ (s.width ++ s.kind :: escape s.after))

/-- The width as a number; it is zero if none is written. -/
def widthValue (s : Spelling) : Nat := Nat.ofDigitChars 10 s.width 0

/-- The parts are such as a pattern may have. -/
structure IsValid (s : Spelling) : Prop where
  flags : ∀ c ∈ s.flags, c ∈ ['-', '0', '#', '+', ' ']
  width : ∀ c ∈ s.width, c.isDigit
  fits : s.widthValue ≤ 0xFFFFFFFFFFFFFFFF
  kind : s.kind ∈ ['d', 'i', 'u', 's', 'x', 'X', 'o']

instance (s : Spelling) : Decidable s.IsValid :=
  decidable_of_iff (s.flags.all (· ∈ ['-', '0', '#', '+', ' ']) ∧ s.width.all Char.isDigit ∧
      s.widthValue ≤ 0xFFFFFFFFFFFFFFFF ∧ s.kind ∈ ['d', 'i', 'u', 's', 'x', 'X', 'o']) <| by
    constructor
    · rintro ⟨flags, width, fits, kind⟩
      exact ⟨by simpa using flags, by simpa using width, fits, kind⟩
    · rintro ⟨flags, width, fits, kind⟩
      exact ⟨by simpa using flags, by simpa using width, fits, kind⟩

/-- Zeros in front of the width are flags. -/
def IsSettled (s : Spelling) : Prop := s.width.head? ≠ some '0'

instance (s : Spelling) : Decidable s.IsSettled := inferInstanceAs (Decidable (_ ≠ _))

/-- A text that can be spelled has a spelling in which the zeros are flags. -/
theorem exists_settled {s : Spelling} (valid : s.IsValid) :
    ∃ t : Spelling, t.IsValid ∧ t.IsSettled ∧ t.toList = s.toList := by
  obtain ⟨before, flags, width, kind, after⟩ := s
  induction width generalizing flags with
  | nil => exact ⟨_, valid, nofun, rfl⟩
  | cons c width ih =>
    by_cases zero : c = '0'
    · subst zero
      have moved : IsValid ⟨before, flags ++ ['0'], width, kind, after⟩ := by
        refine ⟨?_, (List.forall_mem_cons.1 valid.width).2, valid.fits, valid.kind⟩
        rw [List.forall_mem_append]
        exact ⟨valid.flags, List.forall_mem_singleton.2 (by decide)⟩
      obtain ⟨t, t_valid, settled, same⟩ := ih (flags ++ ['0']) moved
      exact ⟨t, t_valid, settled, same.trans (by simp [toList])⟩
    · refine ⟨_, valid, ?_, rfl⟩
      intro starts
      exact zero (Option.some.inj starts)

def conversion (s : Spelling) : Conversion where
  kind := (NumeralKind.ofChar? s.kind).getD .decimal
  leftAligned := s.flags.contains '-'
  zeroPadded := s.flags.contains '0'
  marked := s.flags.contains '#'
  sign := Pattern.signOf s.flags
  width := s.widthValue

def pattern (s : Spelling) : Pattern := ⟨s.before, s.conversion, s.after⟩

end Spelling

/-! ### Conversions -/

namespace Pattern

theorem isFlag_iff {c : Char} : isFlag c ↔ c ∈ ['-', '0', '#', '+', ' '] := by
  simp [isFlag, or_assoc]

theorem NumeralKind.isSome_ofChar?_iff {c : Char} :
    (NumeralKind.ofChar? c).isSome ↔ c ∈ ['d', 'i', 'u', 's', 'x', 'X', 'o'] := by
  unfold NumeralKind.ofChar?
  grind

/-- A letter for a kind of numeral ends flags and width. -/
private theorem ends_of_kind {c : Char} (h : c ∈ ['d', 'i', 'u', 's', 'x', 'X', 'o']) :
    ¬ isFlag c ∧ ¬ c.isDigit ∧ c ≠ '%' := by
  simp only [List.mem_cons, List.not_mem_nil, or_false] at h
  rcases h with rfl | rfl | rfl | rfl | rfl | rfl | rfl <;> decide

/-- No flag but the zero is a digit. -/
private theorem not_isFlag_of_isDigit {c : Char} (digit : c.isDigit) (other : c ≠ '0') : ¬ isFlag c := by
  rw [isFlag_iff]
  intro flag
  simp only [List.mem_cons, List.not_mem_nil, or_false] at flag
  rcases flag with rfl | rfl | rfl | rfl | rfl
  · cases digit
  · exact other rfl
  · cases digit
  · cases digit
  · cases digit

/-- What stands behind the flags does not begin with a flag. -/
private theorem flags_end {s : Spelling} (valid : s.IsValid) (settled : s.IsSettled) (rest : List Char) :
    ∀ c ∈ (s.width ++ s.kind :: rest).head?, ¬ isFlag c := by
  intro c first
  cases width : s.width with
  | nil =>
    rw [width] at first
    cases first
    exact (ends_of_kind valid.kind).1
  | cons d digits =>
    rw [width] at first
    cases first
    refine not_isFlag_of_isDigit (valid.width c (width ▸ List.mem_cons_self)) ?_
    rintro rfl
    exact settled (by rw [width]; rfl)

theorem readConversion_of_isValid {s : Spelling} (valid : s.IsValid) (settled : s.IsSettled) (rest : List Char) :
    readConversion (s.flags ++ (s.width ++ s.kind :: rest)) = .ok (s.conversion, rest) := by
  have all_flags : ∀ c ∈ s.flags, isFlag c := fun c hc => isFlag_iff.2 (valid.flags c hc)
  have flags_stop := flags_end valid settled rest
  have letter : ∀ c ∈ (s.kind :: rest).head?, ¬ c.isDigit := by
    rintro _ ⟨⟩
    exact (ends_of_kind valid.kind).2.1
  obtain ⟨kind, known⟩ := Option.isSome_iff_exists.1 (NumeralKind.isSome_ofChar?_iff.2 valid.kind)
  have fits : ¬ widthBound ≤ Nat.ofDigitChars 10 s.width 0 := Nat.not_le.2 (Nat.lt_succ_of_le valid.fits)
  unfold readConversion
  dsimp only
  rw [takeWhile_span all_flags flags_stop, dropWhile_span all_flags flags_stop, takeWhile_span valid.width letter,
    dropWhile_span valid.width letter, if_neg fits]
  dsimp only
  rw [known]
  simp only [Spelling.conversion, known, Option.getD_some, Spelling.widthValue]

/-- A conversion that is read has a spelling, whatever text stands around it. -/
theorem exists_of_readConversion {cs rest : List Char} {c : Conversion} (h : readConversion cs = .ok (c, rest))
    (before after : List Char) :
    ∃ s : Spelling, s.IsValid ∧ s.IsSettled ∧ s.before = before ∧ s.after = after ∧ s.conversion = c ∧
      cs = s.flags ++ (s.width ++ s.kind :: rest) := by
  have apart : cs = cs.takeWhile isFlag ++ cs.dropWhile isFlag := List.takeWhile_append_dropWhile.symm
  have digits : cs.dropWhile isFlag =
      (cs.dropWhile isFlag).takeWhile Char.isDigit ++ (cs.dropWhile isFlag).dropWhile Char.isDigit :=
    List.takeWhile_append_dropWhile.symm
  unfold readConversion at h
  dsimp only at h
  split at h
  · cases h
  · rename_i fits
    split at h
    · cases h
    · rename_i letter rest' behind
      split at h
      · cases h
      · rename_i kind known
        cases h
        refine ⟨⟨before, cs.takeWhile isFlag, (cs.dropWhile isFlag).takeWhile Char.isDigit, letter, after⟩,
          ⟨?_, ?_, ?_, ?_⟩, ?_, rfl, rfl, ?_, ?_⟩
        · intro c hc
          exact isFlag_iff.1 (all_takeWhile _ _ c hc)
        · intro c hc
          exact all_takeWhile _ _ c hc
        · exact Nat.le_of_lt_succ (Nat.not_le.1 fits)
        · exact NumeralKind.isSome_ofChar?_iff.1 (known ▸ rfl)
        · -- a zero would have been taken for a flag
          intro zero
          rw [List.head?_takeWhile, Option.filter_eq_some_iff] at zero
          have first := List.head?_dropWhile_not isFlag cs
          rw [zero.1] at first
          cases first
        · simp only [Spelling.conversion, known, Option.getD_some, Spelling.widthValue]
        · rw [← behind, ← digits, ← apart]

/-! ### Patterns -/

/-- Flags, width and kind do not begin with a percent sign. -/
private theorem lone_percent {s : Spelling} (valid : s.IsValid) (rest : List Char) :
    (s.flags ++ (s.width ++ s.kind :: rest)).head? ≠ some '%' := by
  intro first
  rcases flags : s.flags with _ | ⟨c, flags⟩
  · rcases width : s.width with _ | ⟨c, digits⟩
    · rw [flags, width] at first
      exact (ends_of_kind valid.kind).2.2 (Option.some.inj first)
    · rw [flags, width] at first
      have digit := valid.width c (width ▸ List.mem_cons_self)
      rw [Option.some.inj first] at digit
      cases digit
  · rw [flags] at first
    have flag := valid.flags c (flags ▸ List.mem_cons_self)
    rw [Option.some.inj first] at flag
    exact absurd flag (by decide)

/-- A text is a pattern exactly if it can be spelled. -/
theorem parse_eq_ok_iff {cs : List Char} {p : Pattern} :
    parse cs = .ok p ↔ ∃ s : Spelling, s.IsValid ∧ s.IsSettled ∧ s.toList = cs ∧ s.pattern = p := by
  constructor
  · intro h
    have whole := escape_readText cs
    unfold parse at h
    split at h
    · cases h
    · rename_i before rest text
      obtain ⟨⟨c, behind⟩, read, h⟩ := bind_eq_ok.1 h
      have whole_behind := escape_readText behind
      dsimp only at h
      split at h
      · rename_i after text_behind
        cases h
        obtain ⟨s, valid, settled, rfl, rfl, rfl, parts⟩ := exists_of_readConversion read before after
        rw [text_behind, Option.elim_none, List.append_nil] at whole_behind
        rw [text, Option.elim_some, parts, ← whole_behind] at whole
        exact ⟨s, valid, settled, whole, rfl⟩
      · obtain ⟨-, -, h⟩ := bind_eq_ok.1 h
        cases h
  · rintro ⟨s, valid, settled, rfl, rfl⟩
    unfold parse
    rw [Spelling.toList, readText_escape_append s.before (lone_percent valid _)]
    dsimp only
    rw [readConversion_of_isValid valid settled, ok_bind]
    dsimp only
    rw [readText_escape]
    rfl

end Pattern

end FrameStream
