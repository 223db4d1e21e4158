import FrameStream.Proofs.Config.Framerates
import FrameStream.Proofs.Number.Overflow

/-!
# The forms of a framerate

A text is a framerate exactly if it is, without the blanks around it, a fraction, an integer or a decimal of one of
the documented forms (`IsForm`), where a decimal has to be finite in double precision by what is read of it
(`isFramerate_iff_isForm`).
-/

namespace FrameStream

namespace Framerate

variable {cs num den : List Char} {size : DecimalText → ℚ}

/-! ### Forms -/

/-- The documented forms.  What a decimal comes to is left open: `DecimalText.magnitude` is what it stands for,
`DecimalText.readMagnitude` what is read. -/
inductive IsForm (size : DecimalText → ℚ) (cs : List Char) : Prop
  /-- Two integers of 64 bits around the first slash, the second one not zero. -/
  | fraction (num den : List Char) (n d : IntegerText) : cs = num ++ '/' :: den → '/' ∉ num →
      n.toList = trimBlanks num → n.Fits → d.toList = trimBlanks den → d.Fits → d.value ≠ 0 → IsForm size cs
  | integer (n : IntegerText) : n.toList = cs → n.Fits → IsForm size cs
  /-- A decimal that is finite in double precision. -/
  | decimal (t : DecimalText) : t.toList = cs → size t < double.limit → IsForm size cs

/-! ### Slashes -/

theorem eq_of_splitSlash (h : splitSlash cs = some (num, den)) : cs = num ++ '/' :: den ∧ '/' ∉ num := by
  induction cs generalizing num with
  | nil => cases h
  | cons c cs ih =>
    by_cases slash : c = '/'
    · subst slash
      cases h
      exact ⟨rfl, List.not_mem_nil⟩
    · rw [splitSlash.eq_3 c cs slash] at h
      obtain ⟨⟨front, behind⟩, split, same⟩ := Option.map_eq_some_iff.1 h
      obtain ⟨rfl, rfl⟩ := Prod.mk.inj same
      obtain ⟨rfl, none_before⟩ := ih split
      refine ⟨rfl, ?_⟩
      rw [List.mem_cons, not_or]
      exact ⟨fun same => slash same.symm, none_before⟩

/-! ### Decimals that are finite -/

theorem isFiniteDecimal_toList (t : DecimalText) : isFiniteDecimal t.toList ↔ t.readMagnitude < double.limit := by
  have finite : (∃ x, t.read.round double (decide (t.sign = .minus)) = .finite x) ↔ t.readMagnitude < double.limit :=
    t.read.exists_round_iff (by decide) (by decide)
  unfold isFiniteDecimal
  rw [decimal?_toList, ← finite]
  dsimp only
  cases t.read.round double (decide (t.sign = .minus)) with
  | finite x => exact iff_of_true rfl ⟨x, rfl⟩
  | infinite negative =>
    refine iff_of_false Bool.false_ne_true ?_
    rintro ⟨x, same⟩
    cases same

theorem isFiniteDecimal_iff :
    isFiniteDecimal cs ↔ ∃ t : DecimalText, t.toList = cs ∧ t.readMagnitude < double.limit := by
  constructor
  · intro h
    have read : (decimal? cs).isSome := by
      by_contra unread
      rw [Option.not_isSome_iff_eq_none] at unread
      unfold isFiniteDecimal at h
      rw [unread] at h
      cases h
    obtain ⟨signed, read⟩ := Option.isSome_iff_exists.1 read
    obtain ⟨t, rfl, -⟩ := decimal?_eq_some_iff.1 read
    exact ⟨t, rfl, (isFiniteDecimal_toList t).1 h⟩
  · rintro ⟨t, rfl, finite⟩
    exact (isFiniteDecimal_toList t).2 finite

/-! ### Texts of a form -/

theorem isSome_integer?_iff : (integer? cs).isSome ↔ ∃ t : IntegerText, t.toList = cs ∧ t.Fits := by
  rw [Option.isSome_iff_exists]
  constructor
  · rintro ⟨i, read⟩
    obtain ⟨t, same, fits, -⟩ := integer?_eq_some_iff.1 read
    exact ⟨t, same, fits⟩
  · rintro ⟨t, same, fits⟩
    exact ⟨t.value, integer?_eq_some_iff.2 ⟨t, same, fits, rfl⟩⟩

/-- A decimal of another size is of a form if it is finite by that size. -/
theorem IsForm.mono {size' : DecimalText → ℚ} (h : IsForm size cs)
    (finite' : ∀ t, t.toList = cs → size t < double.limit → size' t < double.limit) : IsForm size' cs := by
  cases h with
  | fraction num den n d whole none_before num_text num_fits den_text den_fits nonzero =>
    exact .fraction num den n d whole none_before num_text num_fits den_text den_fits nonzero
  | integer n same fits => exact .integer n same fits
  | decimal t same finite => exact .decimal t same (finite' t same finite)

/-- Every form has a digit in it. -/
theorem IsForm.exists_digit (h : IsForm size cs) : ∃ c ∈ cs, c.isDigit := by
  cases h with
  | fraction num den n d whole none_before num_text =>
    obtain ⟨c, here, digit⟩ := n.exists_digit
    rw [num_text] at here
    exact ⟨c, whole ▸ List.mem_append_left _ ((trimBlanks_sublist num).subset here), digit⟩
  | integer n same => exact same ▸ n.exists_digit
  | decimal t same => exact same ▸ t.exists_digit

end Framerate

open Framerate in
/-- The texts that are framerates. -/
theorem isFramerate_iff_isForm (text : String) :
    isFramerate text ↔ IsForm DecimalText.readMagnitude (trimBlanks text.toList) := by
  unfold isFramerate
  dsimp only
  generalize trimBlanks text.toList = cs
  cases split : splitSlash cs with
  | some sides =>
    obtain ⟨num, den⟩ := sides
    obtain ⟨whole, none_before⟩ := eq_of_splitSlash split
    have slash : '/' ∈ cs := whole ▸ List.mem_append_right _ List.mem_cons_self
    dsimp only
    rw [Bool.and_eq_true]
    constructor
    · rintro ⟨above, below⟩
      obtain ⟨n, num_text, num_fits⟩ := isSome_integer?_iff.1 above
      cases read : integer? (trimBlanks den) with
      | none =>
        rw [read] at below
        cases below
      | some i =>
        rw [read] at below
        obtain ⟨d, den_text, den_fits, rfl⟩ := integer?_eq_some_iff.1 read
        exact .fraction num den n d whole none_before num_text num_fits den_text den_fits (by simpa using below)
    · intro h
      cases h with
      | fraction num' den' n d whole' none_before' num_text num_fits den_text den_fits nonzero =>
        rw [whole', splitSlash_append none_before'] at split
        cases split
        refine ⟨isSome_integer?_iff.2 ⟨n, num_text, num_fits⟩, ?_⟩
        rw [integer?_eq_some_iff.2 ⟨d, den_text, den_fits, rfl⟩]
        simpa using nonzero
      | integer n same => exact absurd (same ▸ slash) (slash_not_mem_of_isNumeric n.isNumeric_toList)
      | decimal t same => exact absurd (same ▸ slash) (slash_not_mem_of_isNumeric t.isNumeric_toList)
  | none =>
    dsimp only
    rw [Bool.or_eq_true, isSome_integer?_iff, isFiniteDecimal_iff]
    constructor
    · rintro (⟨n, same, fits⟩ | ⟨t, same, finite⟩)
      · exact .integer n same fits
      · exact .decimal t same finite
    · intro h
      cases h with
      | fraction num den n d whole none_before =>
        rw [whole, splitSlash_append none_before] at split
        cases split
      | integer n same fits => exact .inl ⟨n, same, fits⟩
      | decimal t same finite => exact .inr ⟨t, same, finite⟩

/-- Zero below the line is refused however it is written, and so is a second slash. -/
example : ["30 / -0", "1/+00", "1/2/3"].map isFramerate = [false, false, false] := by decide +kernel

end FrameStream
