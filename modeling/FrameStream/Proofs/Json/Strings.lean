import FrameStream.Json.Printer
import FrameStream.Text.Utf8.Lemmas

/-!
# Reading written strings

A string is read back as the pieces it was written from, as long as its octets may stand as they are
(`readString_renderString`), and the pieces of a text mean that text (`pieceText_textPieces`).
-/

namespace FrameStream.Json

/-! ### Pieces -/

/-- The piece may stand in a string: an octet that does not end the string, begin a unit or control anything. -/
def Piece.IsPlain : Piece → Prop
  | .octet b => b ≠ 0x22 ∧ b ≠ 0x5C ∧ ¬ b < 0x20
  | .unit _ => True

private theorem hexDigit?_digitChar : ∀ n < 16, hexDigit? (Nat.digitChar n).toUInt8 = some n := by decide

private theorem hexUnit?_hexUnit (u : UInt16) : ∃ a b c d, hexUnit u = [a, b, c, d] ∧ hexUnit? a b c d = some u := by
  refine ⟨_, _, _, _, rfl, ?_⟩
  have digit (n : Nat) : hexDigit? (Nat.digitChar (n % 16)).toUInt8 = some (n % 16) :=
    hexDigit?_digitChar _ (Nat.mod_lt n (by decide))
  have bound := u.toNat_lt
  have value : ((u.toNat / 0x1000 % 16 * 16 + u.toNat / 0x100 % 16) * 16 + u.toNat / 0x10 % 16) * 16 + u.toNat % 16 =
      u.toNat := by omega
  simp only [hexUnit?, digit, Option.bind_eq_bind, Option.bind_some, value, UInt16.ofNat_toNat]

private theorem readPieces_short {c : UInt8} {u : UInt16} (ne : c ≠ 0x75) (h : shortUnit? c = some u) (rest : Bytes) :
    readPieces (0x5C :: c :: rest) = (.unit u :: (readPieces rest).1, (readPieces rest).2) := by
  rw [readPieces.eq_def]
  simp [ne, h]

private theorem readPieces_hex {a b c d : UInt8} {u : UInt16} (h : hexUnit? a b c d = some u) (rest : Bytes) :
    readPieces (0x5C :: 0x75 :: a :: b :: c :: d :: rest) = (.unit u :: (readPieces rest).1, (readPieces rest).2) := by
  rw [readPieces.eq_def]
  simp [h]

theorem readPieces_render {p : Piece} (plain : p.IsPlain) (rest : Bytes) :
    readPieces (p.render ++ rest) = (p :: (readPieces rest).1, (readPieces rest).2) := by
  cases p with
  | octet b =>
    obtain ⟨quote, backslash, control⟩ := plain
    change readPieces (b :: rest) = _
    rw [readPieces.eq_def]
    simp [quote, backslash, control]
  | unit u =>
    simp only [Piece.render]
    split
    · subst_vars; exact readPieces_short (by decide) rfl rest
    split
    · subst_vars; exact readPieces_short (by decide) rfl rest
    split
    · subst_vars; exact readPieces_short (by decide) rfl rest
    split
    · subst_vars; exact readPieces_short (by decide) rfl rest
    split
    · subst_vars; exact readPieces_short (by decide) rfl rest
    split
    · subst_vars; exact readPieces_short (by decide) rfl rest
    split
    · subst_vars; exact readPieces_short (by decide) rfl rest
    obtain ⟨a, b, c, d, written, read⟩ := hexUnit?_hexUnit u
    rw [written]
    exact readPieces_hex read rest

theorem readPieces_flatMap_render {pieces : List Piece} (plain : ∀ p ∈ pieces, p.IsPlain) (rest : Bytes) :
    readPieces (pieces.flatMap Piece.render ++ 0x22 :: rest) = (pieces, .ok rest) := by
  induction pieces with
  | nil =>
    rw [readPieces.eq_def]
    simp
  | cons p pieces ih =>
    rw [List.forall_mem_cons] at plain
    rw [List.flatMap_cons, List.append_assoc, readPieces_render plain.1, ih plain.2]

/-- A string behind its opening quote. -/
theorem readString_renderString {pieces : List Piece} (plain : ∀ p ∈ pieces, p.IsPlain) (rest : Bytes) :
    readString ((renderString pieces).tail ++ rest) = .ok (pieces, rest) := by
  have written : (renderString pieces).tail ++ rest = pieces.flatMap Piece.render ++ 0x22 :: rest := by
    simp [renderString]
  rw [written, readString, readPieces_flatMap_render plain]

/-! ### Texts -/

theorem isPlain_of_mem_textPieces {s : String} {p : Piece} (h : p ∈ textPieces s) : p.IsPlain := by
  obtain ⟨c, -, hc⟩ := List.mem_flatMap.1 h
  split at hc
  · rw [List.mem_singleton.1 hc]
    trivial
  · rename_i ordinary
    obtain ⟨b, hb, rfl⟩ := List.mem_map.1 hc
    simp only [not_or] at ordinary
    obtain ⟨quote, backslash, control⟩ := ordinary
    have quote : c.toNat ≠ 0x22 := fun e => quote (Char.toNat_inj.1 e)
    have backslash : c.toNat ≠ 0x5C := fun e => backslash (Char.toNat_inj.1 e)
    have value := Utf8.toNat_of_mem_utf8EncodeChar hb
    refine ⟨?_, ?_, ?_⟩
    · rintro rfl
      simp at value
      omega
    · rintro rfl
      simp at value
      omega
    · rw [UInt8.lt_iff_toNat_lt]
      simp
      omega

/-- The octets that the pieces of a character stand for. -/
private theorem pieceOctets_map_octet (bs : Bytes) (ps : List Piece) :
    pieceOctets (bs.map .octet ++ ps) = (bs ++ ·) <$> pieceOctets ps := by
  induction bs with
  | nil => simp
  | cons b bs ih =>
    change (b :: ·) <$> pieceOctets (bs.map .octet ++ ps) = _
    rw [ih]
    cases pieceOctets ps <;> rfl

private theorem pieceOctets_unit {c : Char} (h : c.toNat < 0x80) (ps : List Piece) :
    pieceOctets (.unit (UInt16.ofNat c.toNat) :: ps) = (String.utf8EncodeChar c ++ ·) <$> pieceOctets ps := by
  have value : (UInt16.ofNat c.toNat).toNat = c.toNat := by
    simp
    omega
  have low : isLowSurrogate (UInt16.ofNat c.toNat) = false := by
    simp [isLowSurrogate, UInt16.le_iff_toNat_le, value]
    omega
  have high : isHighSurrogate (UInt16.ofNat c.toNat) = false := by
    simp [isHighSurrogate, UInt16.le_iff_toNat_le, value]
    omega
  rw [pieceOctets.eq_def]
  simp [low, high, value]

theorem pieceOctets_textPieces (s : String) : pieceOctets (textPieces s) = some (Utf8.encode s) := by
  unfold textPieces Utf8.encode
  induction s.toList with
  | nil => rfl
  | cons c cs ih =>
    rw [List.flatMap_cons, List.flatMap_cons]
    split
    · rename_i written
      have small : c.toNat < 0x80 := by
        rcases written with rfl | rfl | h
        · decide
        · decide
        · omega
      rw [List.singleton_append, pieceOctets_unit small, ih]
      rfl
    · rw [pieceOctets_map_octet, ih]
      rfl

/-- The pieces of a text mean that text. -/
theorem pieceText_textPieces (s : String) : pieceText (textPieces s) = .ok s := by
  rw [pieceText, pieceOctets_textPieces, Option.bind_some, Utf8.decode?_encode]

end FrameStream.Json
