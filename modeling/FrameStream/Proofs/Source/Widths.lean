import FrameStream.Proofs.Relay.Restarts
import FrameStream.Proofs.Source.Spellings
import FrameStream.Proofs.Source.Topics

/-!
# Widths that cannot be padded to

A pattern is to make ids or to be refused, and so is the start of a relay with it.  Every width that fits a machine
word is read, but padding is made by one repeat, which gives half as much: the ids are made if the padding of each is
within that limit, and with a width behind it the work breaks off (`padded_of_expandPattern`).  The bound is the same
for all numbers of streams, as the first id is the one that is padded most.
-/

namespace FrameStream

/-- The first id is made of sign and base mark, the padding and one digit. -/
theorem Conversion.padding_zero_lt_iff (c : Conversion) :
    c.padding 0 < 2 ^ 63 ↔ c.width ≤ 2 ^ 63 + c.lead.length := by
  rw [c.padding_zero]
  omega

namespace Pattern

/-- A width that is read fits a machine word. -/
theorem width_of_parse {cs : List Char} {p : Pattern} (read : parse cs = .ok p) : p.conversion.width < 2 ^ 64 := by
  obtain ⟨s, valid, -, -, rfl⟩ := parse_eq_ok_iff.1 read
  have fits : s.widthValue ≤ 0xFFFFFFFFFFFFFFFF := valid.fits
  change s.widthValue < 2 ^ 64
  omega

/-- Some ids can be padded exactly if the first can. -/
theorem overflows_eq_false_iff_width {p : Pattern} {count : Nat} (some_made : 0 < count) :
    p.overflows count = false ↔ p.conversion.width ≤ 2 ^ 63 + p.conversion.lead.length := by
  have longest : Conversion.longestPadding = 2 ^ 63 - 1 := rfl
  have first := p.conversion.padding_zero_lt_iff
  rw [overflows_eq_false_iff_padding, longest, ← first]
  omega

end Pattern

/-- A relay with a pattern is started exactly as far as the pattern makes ids. -/
theorem Relay.result_start_of_multistream {m : Moment} (asked : m.step.operation = .start)
    (split : m.before.config.multistream) :
    m.outcome.result = (fun _ => none) <$>
      expandPattern (m.before.config.pattern.getD defaultPattern) m.before.config.streams := by
  rw [result_start asked, Config.sources, Config.sourceIds_of_multistream split]
  cases expandPattern (m.before.config.pattern.getD defaultPattern) m.before.config.streams <;> rfl

/-- A text that is no pattern is refused.  A pattern makes its ids exactly if one repeat gives the padding of each of
them; with a width that is greater than what the first id can be padded to, nothing is made and nothing is refused.  A
relay starts as far as its pattern goes. -/
theorem padded_of_expandPattern (pattern : String) {count : Nat} (some_made : 0 < count) :
    ((∃ f, expandPattern pattern count = .error (.pattern pattern f)) ↔
      ∃ f, Pattern.parse pattern.toList = .error f) ∧
    (∀ p, Pattern.parse pattern.toList = .ok p →
      p.conversion.width < 2 ^ 64 ∧
      (expandPattern pattern count = .ok (p.expand count) ↔ ∀ index < count, p.conversion.padding index < 2 ^ 63) ∧
      (expandPattern pattern count = .error .overflow ↔
        2 ^ 63 + p.conversion.lead.length < p.conversion.width)) ∧
    ∀ m : Relay.Moment, m.step.operation = .start → m.before.config.multistream →
      m.before.config.pattern.getD defaultPattern = pattern → m.before.config.streams = count →
        m.outcome.result = (fun _ => none) <$> expandPattern pattern count := by
  refine ⟨?_, ?_, ?_⟩
  · unfold expandPattern
    cases Pattern.parse pattern.toList with
    | error f => simp
    | ok p => cases full : p.overflows count <;> simp [full]
  · intro p read
    have room : p.overflows count = false ↔ p.conversion.width ≤ 2 ^ 63 + p.conversion.lead.length :=
      Pattern.overflows_eq_false_iff_width some_made
    have all : (∀ index < count, p.conversion.padding index < 2 ^ 63) ↔ p.conversion.padding 0 < 2 ^ 63 :=
      ⟨fun each => each 0 some_made,
        fun first index _ => Nat.lt_of_le_of_lt (p.conversion.padding_le_padding_zero index) first⟩
    have made : expandPattern pattern count =
        if p.overflows count then .error .overflow else .ok (p.expand count) := by
      rw [expandPattern, read]
    refine ⟨Pattern.width_of_parse read, ?_, ?_⟩
    · rw [all, Conversion.padding_zero_lt_iff, ← room, made]
      cases p.overflows count <;> simp
    · rw [← Nat.not_le, ← room, made]
      cases p.overflows count <;> simp
  · rintro m asked split rfl rfl
    exact Relay.result_start_of_multistream asked split

/-- A relay with a marked numeral whose width is the greatest of all. -/
def widestConfig : Config := { multistream := true, pattern := some "%#18446744073709551615x", streams := 2 }

/-- The least width that is too great for a plain number, the greatest that is not for one behind a base mark, a width
that is no machine word, and the start with the greatest width that is one. -/
theorem padded_wideConversions :
    expandPattern "%9223372036854775809d" 1 = .error .overflow ∧
      (∃ p, Pattern.parse "%#9223372036854775810x".toList = .ok p ∧
        expandPattern "%#9223372036854775810x" 3 = .ok (p.expand 3)) ∧
      (∃ f, expandPattern "%18446744073709551616d" 1 = .error (.pattern "%18446744073709551616d" f)) ∧
      (Relay.Moment.mk { config := widestConfig, tracker := .ofConfig widestConfig }
        { operation := .start }).outcome.result = .error .overflow := by
  have plain : Pattern.parse "%9223372036854775809d".toList =
      .ok ⟨[], ⟨.decimal, false, false, false, none, 9223372036854775809⟩, []⟩ := by decide +kernel
  have marked : Pattern.parse "%#9223372036854775810x".toList =
      .ok ⟨[], ⟨.hex, false, false, true, none, 9223372036854775810⟩, []⟩ := by decide +kernel
  have widest : Pattern.parse "%#18446744073709551615x".toList =
      .ok ⟨[], ⟨.hex, false, false, true, none, 18446744073709551615⟩, []⟩ := by decide +kernel
  obtain ⟨-, wide, -⟩ := padded_of_expandPattern "%9223372036854775809d" (show 0 < 1 by decide)
  obtain ⟨-, fitting, -⟩ := padded_of_expandPattern "%#9223372036854775810x" (show 0 < 3 by decide)
  obtain ⟨refused, -, -⟩ := padded_of_expandPattern "%18446744073709551616d" (show 0 < 1 by decide)
  obtain ⟨-, endless, started⟩ := padded_of_expandPattern "%#18446744073709551615x" (show 0 < 2 by decide)
  refine ⟨(wide _ plain).2.2.2 (by decide), ⟨_, marked, (fitting _ marked).2.1.2 ?_⟩, ?_, ?_⟩
  · intro index there
    have first := Conversion.padding_le_padding_zero
      ⟨.hex, false, false, true, none, 9223372036854775810⟩ index
    exact Nat.lt_of_le_of_lt first (by decide)
  · exact refused.2 ⟨.widthTooLarge, by decide +kernel⟩
  · rw [started _ rfl rfl rfl rfl, (endless _ widest).2.2.2 (by decide)]
    rfl

end FrameStream
