import FrameStream.Proofs.Results
import FrameStream.Proofs.Source.Numerals
import FrameStream.Source.Basic
import FrameStream.Text.Utf8.Lemmas

/-!
# Topics of different streams

A subscription gets every message whose topic begins with its own, so that no topic of a stream may begin with that
of another.  The topics that a pattern makes share what stands in front of the index and what stands behind it, the
slash at the end included.  No slash is in a written index: if one topic began with another, the slash behind the
shorter index would come too early in the longer one (`eq_of_prefix_of_apart`).  So the written indices are the same,
and with them the streams (`topics_of_expandPattern`), whatever is written around the index.
-/

namespace FrameStream

/-! ### Common ends -/

/-- What stands in front of a first occurrence is counted out. -/
private theorem eq_nil_of_prefix_append {u w : Bytes} {b : UInt8} (there : b ∈ w) (apart : b ∉ u)
    (h : w <+: u ++ w) : u = [] := by
  obtain ⟨rest, same⟩ := h
  have places := congrArg (List.idxOf b) same
  rw [List.idxOf_append, if_pos there, List.idxOf_append, if_neg apart] at places
  exact List.length_eq_zero_iff.1 (by omega)

/-- Of two texts with the same end, the one begins with the other only if they are the same, as long as an octet of
the end is in neither. -/
theorem eq_of_prefix_of_apart {first second tail : Bytes} {b : UInt8} (there : b ∈ tail) (apart : b ∉ second)
    (h : first ++ tail <+: second ++ tail) : first = second := by
  have short : first.length ≤ second.length := by
    have := h.length_le
    simp only [List.length_append] at this
    omega
  obtain ⟨u, rfl⟩ : first <+: second :=
    List.prefix_of_prefix_length_le ((List.prefix_append first tail).trans h) (List.prefix_append second tail) short
  rw [List.append_assoc, List.prefix_append_right_inj] at h
  have nothing : u = [] :=
    eq_nil_of_prefix_append there (fun hb => apart (List.mem_append_right first hb)) h
  rw [nothing, List.append_nil]

/-! ### Slashes -/

/-- The octet of a slash stands for a slash only. -/
theorem Utf8.mem_slash_of_mem_encode {s : String} (h : 0x2F ∈ Utf8.encode s) : '/' ∈ s.toList := by
  obtain ⟨c, hc, octet⟩ := List.mem_flatMap.1 h
  rcases Utf8.toNat_of_mem_utf8EncodeChar octet with value | high
  · have slash : c = '/' := Char.toNat_inj.1 value.symm
    exact slash ▸ hc
  · exact absurd high (by decide)

/-- The sign of a conversion that was read is a plus or a blank. -/
private theorem sign_of_readConversion {cs rest : List Char} {c : Conversion}
    (h : Pattern.readConversion cs = .ok (c, rest)) : ∀ s ∈ c.sign, s = '+' ∨ s = ' ' := by
  have signs (flags : List Char) : ∀ s ∈ Pattern.signOf flags, s = '+' ∨ s = ' ' := by
    unfold Pattern.signOf
    split
    · simp
    · split <;> simp
  unfold Pattern.readConversion at h
  dsimp only at h
  split at h
  · cases h
  · split at h
    · cases h
    · split at h
      · cases h
      · cases h
        exact signs _

theorem Pattern.sign_of_parse {cs : List Char} {p : Pattern} (h : parse cs = .ok p) :
    ∀ s ∈ p.conversion.sign, s = '+' ∨ s = ' ' := by
  unfold parse at h
  split at h
  · cases h
  · obtain ⟨⟨conversion, rest⟩, read, h⟩ := bind_eq_ok.1 h
    dsimp only at h
    split at h
    · cases h
      exact sign_of_readConversion read
    · obtain ⟨-, -, h⟩ := bind_eq_ok.1 h
      cases h

namespace Conversion

private theorem slash_notMem_lead {c : Conversion} (plain : ∀ s ∈ c.sign, s = '+' ∨ s = ' ') : '/' ∉ c.lead := by
  have mark : '/' ∉ c.kind.baseMark := by
    cases c.kind <;> decide
  unfold lead
  split
  · exact List.not_mem_nil
  · rw [List.mem_append, not_or]
    constructor
    · intro slash
      rcases plain _ (Option.mem_toList.1 slash) with h | h <;> exact absurd h (by decide)
    · split
      · exact mark
      · exact List.not_mem_nil

theorem slash_notMem_render {c : Conversion} (plain : ∀ s ∈ c.sign, s = '+' ∨ s = ' ') (index : Nat) :
    '/' ∉ c.render index := by
  have lead := slash_notMem_lead plain
  have digits : '/' ∉ c.kind.digits index := fun h =>
    absurd (NumeralKind.isAlphanum_of_mem_digits h) (by decide)
  unfold render
  dsimp only
  split
  · simp [lead, digits]
  · split <;> simp [lead, digits]

end Conversion

/-! ### Topics -/

/-- A topic is made of what stands around the index and the index. -/
theorem Pattern.topic_render (p : Pattern) (index : Nat) :
    (Source.mk (p.render index)).topic = Utf8.encode (String.ofList p.before) ++
      (Utf8.encode (String.ofList (p.conversion.render index)) ++ Utf8.encode (String.ofList p.after ++ "/")) := by
  unfold Source.topic render
  rw [String.ofList_append, String.ofList_append, ← Utf8.encode_append, ← Utf8.encode_append, String.append_assoc,
    String.append_assoc]

/-- No topic of a pattern begins with that of another stream. -/
theorem Pattern.eq_of_prefix_topic {cs : List Char} {p : Pattern} (read : parse cs = .ok p) {i j : Nat}
    (h : (Source.mk (p.render i)).topic <+: (Source.mk (p.render j)).topic) : i = j := by
  have apart : 0x2F ∉ Utf8.encode (String.ofList (p.conversion.render j)) := by
    intro slash
    have there := Utf8.mem_slash_of_mem_encode slash
    rw [String.toList_ofList] at there
    exact Conversion.slash_notMem_render (sign_of_parse read) j there
  have ending : 0x2F ∈ Utf8.encode (String.ofList p.after ++ "/") := by
    rw [Utf8.encode_append]
    exact List.mem_append_right _ (by decide)
  -- What stands in front of the index is the same in both and falls away.
  rw [topic_render, topic_render, List.prefix_append_right_inj] at h
  have written : p.conversion.render i = p.conversion.render j :=
    String.ofList_inj.1 (Utf8.encode_inj.1 (eq_of_prefix_of_apart ending apart h))
  exact p.conversion.render_inj.1 written

/-- The topics of different streams do not begin with each other. -/
theorem Pattern.pairwise_topics {cs : List Char} {p : Pattern} (read : parse cs = .ok p) (count : Nat) :
    ((p.expand count).map fun id => Source.topic ⟨id⟩).Pairwise fun a b => ¬ a <+: b ∧ ¬ b <+: a := by
  rw [List.pairwise_map, expand, List.pairwise_map]
  refine List.nodup_range.imp fun different => ⟨fun h => ?_, fun h => ?_⟩
  · exact different (eq_of_prefix_topic read h)
  · exact different (eq_of_prefix_topic read h).symm

/-! ### Ids -/

theorem Pattern.nodup_expand {cs : List Char} {p : Pattern} (read : parse cs = .ok p) (count : Nat) :
    (p.expand count).Nodup := by
  have apart := p.pairwise_topics read count
  rw [List.pairwise_map] at apart
  refine apart.imp ?_
  rintro id _ h rfl
  exact h.1 List.prefix_rfl

private theorem firstRepeated?_of_nodup {seen ids : List String} (distinct : ids.Nodup)
    (new : ∀ id ∈ ids, id ∉ seen) : firstRepeated? seen ids = none := by
  induction ids generalizing seen with
  | nil => rfl
  | cons id rest ih =>
    rw [List.nodup_cons] at distinct
    rw [List.forall_mem_cons] at new
    rw [firstRepeated?, if_neg (by simpa using new.1)]
    apply ih distinct.2
    intro other there again
    rcases List.mem_cons.1 again with rfl | before
    · exact distinct.1 there
    · exact new.2 other there before

theorem expandPattern_eq_ok {pattern : String} {count : Nat} {ids : List String} :
    expandPattern pattern count = .ok ids ↔
      ∃ p, Pattern.parse pattern.toList = .ok p ∧ p.overflows count = false ∧ p.expand count = ids := by
  unfold expandPattern
  cases Pattern.parse pattern.toList with
  | error f => simp
  | ok p => cases full : p.overflows count <;> simp [full]

/-- The check for ids that occur twice finds none. -/
theorem Config.sourceIds_of_multistream {c : Config} (split : c.multistream) :
    c.sourceIds = expandPattern (c.pattern.getD defaultPattern) c.streams := by
  unfold sourceIds
  rw [if_pos split]
  dsimp only
  cases made : expandPattern (c.pattern.getD defaultPattern) c.streams with
  | error refusal => exact error_bind refusal _
  | ok ids =>
    obtain ⟨p, read, -, rfl⟩ := expandPattern_eq_ok.1 made
    rw [ok_bind, firstRepeated?_of_nodup (p.nodup_expand read c.streams) fun _ _ => List.not_mem_nil]

theorem Config.sources_ne_duplicateId (c : Config) (text id : String) :
    c.sources ≠ .error (.duplicateId text id) := by
  have ids : c.sourceIds ≠ .error (.duplicateId text id) := by
    cases split : c.multistream with
    | true =>
      rw [sourceIds_of_multistream split, expandPattern]
      split
      · simp
      · split <;> simp
    | false =>
      rw [sourceIds, split, if_neg Bool.false_ne_true]
      split <;> simp
  unfold sources
  cases made : c.sourceIds with
  | error refusal =>
    rw [map_error]
    intro same
    exact ids (made.trans (congrArg Except.error (Except.error.inj same)))
  | ok ids => simp

/-- The ids that a pattern makes are told apart, and no subscription to the topic of the one gets a message of
another; so no relay is refused for ids that are the same. -/
theorem topics_of_expandPattern {pattern : String} {count : Nat} {ids : List String}
    (made : expandPattern pattern count = .ok ids) :
    ids.length = count ∧ ids.Nodup ∧
      (ids.map fun id => Source.topic ⟨id⟩).Pairwise (fun a b => ¬ a <+: b ∧ ¬ b <+: a) ∧
      (∀ c : Config, c.multistream → c.pattern.getD defaultPattern = pattern → c.streams = count →
        c.sources = .ok (ids.map Source.mk)) ∧
      ∀ (c : Config) (text id : String), c.sources ≠ .error (.duplicateId text id) := by
  obtain ⟨p, read, -, rfl⟩ := expandPattern_eq_ok.1 made
  refine ⟨by simp [Pattern.expand], p.nodup_expand read count, p.pairwise_topics read count, ?_,
    Config.sources_ne_duplicateId⟩
  intro c split same many
  rw [Config.sources, Config.sourceIds_of_multistream split, same, many, made]
  rfl

/-- Indices in base sixteen with blanks behind them, and a zero and a slash behind that: the topics of the streams 1
and 16 agree in their first four octets. -/
theorem topics_markedHex :
    ∃ ids, expandPattern "%#-3x0/" 17 = .ok ids ∧ ids[1]? = some "0x10/" ∧ ids[16]? = some "0x100/" ∧
      ids.length = 17 ∧ ids.Nodup ∧
      (ids.map fun id => Source.topic ⟨id⟩).Pairwise fun a b => ¬ a <+: b ∧ ¬ b <+: a := by
  obtain ⟨ids, made, one, sixteen⟩ : ∃ ids, expandPattern "%#-3x0/" 17 = .ok ids ∧ ids[1]? = some "0x10/" ∧
      ids[16]? = some "0x100/" := ⟨_, rfl, by decide +kernel, by decide +kernel⟩
  obtain ⟨many, distinct, apart, -⟩ := topics_of_expandPattern made
  exact ⟨ids, made, one, sixteen, many, distinct, apart⟩

end FrameStream
