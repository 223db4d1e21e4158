import FrameStream.Proofs.Source.Numerals
import FrameStream.Proofs.Source.Spellings

/-!
# The ids that a pattern makes

The ids of a pattern are told from its spelling alone: which flags there are, the number that the width writes, and
the letter of the kind (`Spelling.id`).  They are what is made (`expandPattern_of_isValid`), unless the width is so
great that not even the id of the first stream, which is padded most, can be padded to it; nothing keeps such a width
from being read (`Spelling.overflows_eq_false_iff`).
-/

namespace FrameStream

/-! ### Ids -/

/-- An index in the base that a letter stands for. -/
def letterDigits (letter : Char) (index : Nat) : List Char :=
  match letter with
  | 'x' => Nat.toDigits 16 index
  | 'X' => (Nat.toDigits 16 index).map Char.toUpper
  | 'o' => Nat.toDigits 8 index
  | _ => Nat.toDigits 10 index

/-- How that base is marked. -/
def letterMark : Char → List Char
  | 'x' => ['0', 'x']
  | 'X' => ['0', 'X']
  | 'o' => ['0', 'o']
  | _ => []

namespace Spelling

/-- A plus, or else a blank, if it is among the flags. -/
def sign (s : Spelling) : List Char := if '+' ∈ s.flags then ['+'] else if ' ' ∈ s.flags then [' '] else []

/-- What stands in front of the digits; nothing does in front of a plain text. -/
def lead (s : Spelling) : List Char :=
  if s.kind = 's' then [] else s.sign ++ (if '#' ∈ s.flags then letterMark s.kind else [])

/-- The index, padded to the width: with blanks behind it, with zeros between sign and digits, or with blanks in front
of it. -/
def written (s : Spelling) (index : Nat) : List Char :=
  let digits := letterDigits s.kind index
  let missing := s.widthValue - (s.lead.length + digits.length)
  if '-' ∈ s.flags then s.lead ++ digits ++ List.replicate missing ' '
  else if '0' ∈ s.flags ∧ s.kind ≠ 's' then s.lead ++ List.replicate missing '0' ++ digits
  else List.replicate missing ' ' ++ s.lead ++ digits

def id (s : Spelling) (index : Nat) : String := String.ofList (s.before ++ s.written index ++ s.after)

private theorem sign_eq (s : Spelling) : s.conversion.sign.toList = s.sign := by
  unfold sign conversion Pattern.signOf
  simp only [List.contains_iff_mem]
  split
  · rfl
  · split <;> rfl

/-- What a letter stands for is the kind of numeral that it is read as. -/
private theorem kind_of_isValid {s : Spelling} (valid : s.IsValid) :
    (∀ index, s.conversion.kind.digits index = letterDigits s.kind index) ∧
      s.conversion.kind.baseMark = letterMark s.kind ∧
      (s.conversion.kind = .text ↔ s.kind = 's') := by
  have letter := valid.kind
  simp only [List.mem_cons, List.not_mem_nil, or_false] at letter
  unfold conversion
  dsimp only
  rcases letter with letter | letter | letter | letter | letter | letter | letter
  all_goals
    rw [letter]
    exact ⟨fun index => rfl, rfl, by decide⟩

private theorem lead_eq {s : Spelling} (valid : s.IsValid) : s.conversion.lead = s.lead := by
  obtain ⟨-, mark, text⟩ := kind_of_isValid valid
  have marked : s.conversion.marked ↔ '#' ∈ s.flags := List.contains_iff_mem
  simp only [Conversion.lead, lead, sign_eq, mark, text, marked]

/-- The id that is made is the one that is spelled. -/
theorem render_pattern {s : Spelling} (valid : s.IsValid) (index : Nat) : s.pattern.render index = s.id index := by
  obtain ⟨digits, -, text⟩ := kind_of_isValid valid
  have left : s.conversion.leftAligned ↔ '-' ∈ s.flags := List.contains_iff_mem
  have zeros : s.conversion.zeroPadded ↔ '0' ∈ s.flags := List.contains_iff_mem
  have width : s.conversion.width = s.widthValue := rfl
  have same : s.conversion.render index = s.written index := by
    simp only [Conversion.render, Conversion.padding, written, lead_eq valid, digits, text, left, zeros, width, ne_eq]
  rw [Pattern.render, id, pattern, same]

/-! ### Widths -/

/-- The width leaves no more to be padded in the shortest id than one repeat gives. -/
def HasRoom (s : Spelling) (count : Nat) : Prop :=
  count = 0 ∨ s.widthValue ≤ Conversion.longestPadding + s.lead.length + 1

instance (s : Spelling) (count : Nat) : Decidable (s.HasRoom count) := inferInstanceAs (Decidable (_ ∨ _))

/-- The index of the first stream is the shortest. -/
theorem overflows_eq_false_iff {s : Spelling} (valid : s.IsValid) (count : Nat) :
    s.pattern.overflows count = false ↔ s.HasRoom count := by
  have first : s.pattern.conversion.padding 0 = s.widthValue - (s.lead.length + 1) := by
    rw [Conversion.padding_zero, pattern, lead_eq valid]
    rfl
  rw [Pattern.overflows_eq_false_iff_padding, first, HasRoom]
  omega

end Spelling

/-! ### Expansion -/

theorem expandPattern_of_isValid {s : Spelling} {pattern : String} (valid : s.IsValid) (settled : s.IsSettled)
    (spelled : s.toList = pattern.toList) (count : Nat) :
    expandPattern pattern count = if s.HasRoom count then .ok ((List.range count).map s.id) else .error .overflow := by
  have read : Pattern.parse pattern.toList = .ok s.pattern :=
    Pattern.parse_eq_ok_iff.2 ⟨s, valid, settled, spelled, rfl⟩
  have ids : s.pattern.expand count = (List.range count).map s.id := by
    rw [Pattern.expand, funext (Spelling.render_pattern valid)]
  unfold expandPattern
  rw [read]
  dsimp only
  rw [ids]
  by_cases room : s.HasRoom count
  · rw [if_pos room, (Spelling.overflows_eq_false_iff valid count).2 room, if_neg Bool.false_ne_true]
  · have overflows : s.pattern.overflows count = true := by
      rw [← Bool.not_eq_false, Spelling.overflows_eq_false_iff valid]
      exact room
    rw [if_neg room, if_pos overflows]

/-- A text that cannot be spelled is refused. -/
theorem expandPattern_of_not_spelled {pattern : String}
    (unspelled : ¬ ∃ s : Spelling, s.IsValid ∧ s.toList = pattern.toList) (count : Nat) :
    ∃ f, expandPattern pattern count = .error (.pattern pattern f) := by
  unfold expandPattern
  cases read : Pattern.parse pattern.toList with
  | error f => exact ⟨f, rfl⟩
  | ok p =>
    obtain ⟨s, valid, -, spelled, -⟩ := Pattern.parse_eq_ok_iff.1 read
    exact absurd ⟨s, valid, spelled⟩ unspelled

/-- Only which flags there are matters, and not how often or in which order. -/
private theorem id_congr {s t : Spelling} (before : s.before = t.before) (width : s.width = t.width)
    (kind : s.kind = t.kind) (after : s.after = t.after) (flags : ∀ c, c ∈ s.flags ↔ c ∈ t.flags) :
    s.id = t.id ∧ ∀ count, s.HasRoom count ↔ t.HasRoom count := by
  have lead : s.lead = t.lead := by simp only [Spelling.lead, Spelling.sign, kind, flags]
  have value : s.widthValue = t.widthValue := congrArg (Nat.ofDigitChars 10 · 0) width
  refine ⟨funext fun index => ?_, fun count => ?_⟩
  · simp only [Spelling.id, Spelling.written, lead, value, before, kind, after, flags]
  · simp only [Spelling.HasRoom, lead, value]

/-- The ids are made if the text follows the grammar and they can be padded to the width; they are what is spelled, for
which only the presence of a flag counts.  Any other text is refused, but with a width that is too great there is no
answer at all. -/
theorem expandPattern_of_spelled (pattern : String) (count : Nat) :
    ((∃ ids, expandPattern pattern count = .ok ids) ↔
      ∃ s : Spelling, s.IsValid ∧ s.IsSettled ∧ s.toList = pattern.toList ∧ s.HasRoom count) ∧
    (∀ s : Spelling, s.IsValid → s.toList = pattern.toList →
      ∃ t : Spelling, t.IsValid ∧ t.IsSettled ∧ t.toList = pattern.toList) ∧
    (∀ s : Spelling, s.IsValid → s.IsSettled → s.toList = pattern.toList →
      (expandPattern pattern count =
        if s.HasRoom count then .ok ((List.range count).map s.id) else .error .overflow) ∧
      ∀ (t : Spelling) (other : String), t.IsValid → t.IsSettled → t.toList = other.toList →
        t.before = s.before → t.width = s.width → t.kind = s.kind → t.after = s.after →
        (∀ c, c ∈ t.flags ↔ c ∈ s.flags) → expandPattern other count = expandPattern pattern count) ∧
    ((¬ ∃ s : Spelling, s.IsValid ∧ s.toList = pattern.toList) →
      ∃ f, expandPattern pattern count = .error (.pattern pattern f)) := by
  have settle {s : Spelling} (valid : s.IsValid) (spelled : s.toList = pattern.toList) :
      ∃ t : Spelling, t.IsValid ∧ t.IsSettled ∧ t.toList = pattern.toList := by
    obtain ⟨t, t_valid, settled, same⟩ := s.exists_settled valid
    exact ⟨t, t_valid, settled, same.trans spelled⟩
  refine ⟨⟨?_, ?_⟩, fun s => settle, ?_, fun unspelled => expandPattern_of_not_spelled unspelled count⟩
  · rintro ⟨ids, made⟩
    by_cases spelled : ∃ s : Spelling, s.IsValid ∧ s.toList = pattern.toList
    · obtain ⟨s, valid, spelled⟩ := spelled
      obtain ⟨t, t_valid, settled, t_spelled⟩ := settle valid spelled
      refine ⟨t, t_valid, settled, t_spelled, ?_⟩
      by_contra full
      rw [expandPattern_of_isValid t_valid settled t_spelled, if_neg full] at made
      cases made
    · obtain ⟨f, refused⟩ := expandPattern_of_not_spelled spelled count
      rw [refused] at made
      cases made
  · rintro ⟨s, valid, settled, spelled, room⟩
    exact ⟨_, (expandPattern_of_isValid valid settled spelled count).trans (if_pos room)⟩
  · intro s valid settled spelled
    have made := expandPattern_of_isValid valid settled spelled count
    refine ⟨made, ?_⟩
    intro t other t_valid t_settled t_spelled before width kind after flags
    obtain ⟨ids, room⟩ := id_congr before width kind after flags
    rw [made, expandPattern_of_isValid t_valid t_settled t_spelled count, ids]
    simp only [room]

/-- A numeral in base sixteen between two percent signs, with four flags of which two override the others. -/
def framedHex : Spelling := ⟨['%'], [' ', '+', '-', '0'], ['8'], 'X', ['%']⟩

/-- The least width that is too great. -/
def boundlessWidth : Spelling := ⟨[], [], "9223372036854775809".toList, 'd', []⟩

/-- The index 26 is written behind a plus and in front of blanks, with the flags repeated or not; a zero behind the
percent sign is a flag; and a flag behind the width makes a text no pattern. -/
theorem expandPattern_framedHex :
    framedHex.IsValid ∧ framedHex.toList = "%%% +-08X%%".toList ∧
      (∃ ids, expandPattern "%%% +-08X%%" 27 = .ok ids ∧ ids[26]? = some "%+1A     %") ∧
      expandPattern "%%%0-+- +8X%%" 27 = expandPattern "%%% +-08X%%" 27 ∧
      expandPattern "%9223372036854775809d" 1 = .error .overflow ∧
      (∃ t : Spelling, t.IsValid ∧ t.IsSettled ∧ t.toList = "%05d".toList) ∧
      ∃ f, expandPattern "%5-d" 1 = .error (.pattern "%5-d" f) := by
  have valid : framedHex.IsValid := by decide
  obtain ⟨-, -, spelled, -⟩ := expandPattern_of_spelled "%%% +-08X%%" 27
  obtain ⟨made, same⟩ := spelled framedHex valid (by decide) (by decide)
  obtain ⟨-, -, wide, -⟩ := expandPattern_of_spelled "%9223372036854775809d" 1
  obtain ⟨broken_off, -⟩ := wide boundlessWidth (by decide) (by decide) (by decide)
  obtain ⟨-, settle, -⟩ := expandPattern_of_spelled "%05d" 1
  obtain ⟨⟨-, accepted⟩, settle_late, -⟩ := expandPattern_of_spelled "%5-d" 0
  obtain ⟨-, -, -, refused⟩ := expandPattern_of_spelled "%5-d" 1
  refine ⟨valid, by decide, ⟨_, made.trans (if_pos (by decide)), by decide +kernel⟩, ?_, ?_, ?_, refused ?_⟩
  · refine same { framedHex with flags := ['0', '-', '+', '-', ' ', '+'] } _ (by decide) (by decide) (by decide) rfl rfl
      rfl rfl fun c => ?_
    simp only [framedHex, List.mem_cons, List.not_mem_nil, or_false]
    tauto
  · exact broken_off.trans (if_neg (by decide))
  · exact settle ⟨[], [], ['0', '5'], 'd', []⟩ (by decide) (by decide)
  · rintro ⟨s, late_valid, late⟩
    obtain ⟨t, t_valid, settled, t_spelled⟩ := settle_late s late_valid late
    obtain ⟨ids, made_late⟩ := accepted ⟨t, t_valid, settled, t_spelled, .inl rfl⟩
    have unread : expandPattern "%5-d" 0 = .error (.pattern "%5-d" (.unsupported '-')) := rfl
    rw [unread] at made_late
    cases made_late

end FrameStream
