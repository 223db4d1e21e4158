import FrameStream.Proofs.Envelope.Dumps

/-!
# Dumps that are cut off

No envelope can be taken off a front of its own layout (`takeEnvelope_of_cut`), since what is taken is still taken when
more octets come behind.  So a dump that is cut off between two envelopes gives those before the cut, and one that is
cut off within an envelope is refused with the number of that envelope (`decode_of_prefix`): nothing is read that was
not written.
-/

namespace FrameStream.Dump

/-- How many of the parts, put one behind the other, lie wholly in a text. -/
def wholeIn (parts : List Bytes) (bs : Bytes) : Nat :=
  (List.range parts.length).countP fun k => (parts.take (k + 1)).flatten.isPrefixOf bs

theorem wholeIn_append (part : Bytes) (parts : List Bytes) (bs : Bytes) :
    wholeIn (part :: parts) (part ++ bs) = wholeIn parts bs + 1 := by
  have same (k : Nat) : ((part :: parts).take (k + 1)).flatten.isPrefixOf (part ++ bs) =
      (parts.take k).flatten.isPrefixOf bs := by
    rw [List.take_succ_cons, List.flatten_cons, Bool.eq_iff_iff, List.isPrefixOf_iff_prefix,
      List.isPrefixOf_iff_prefix, List.prefix_append_right_inj]
  unfold wholeIn
  simp only [same]
  rw [List.length_cons, List.range_succ_eq_map, List.countP_cons_of_pos (by rfl), List.countP_map]
  rfl

theorem wholeIn_of_not_prefix {part : Bytes} (parts : List Bytes) {bs : Bytes} (cut : ¬ part <+: bs) :
    wholeIn (part :: parts) bs = 0 := by
  refine List.countP_eq_zero.2 fun k _ told => cut ?_
  rw [List.isPrefixOf_iff_prefix, List.take_succ_cons, List.flatten_cons] at told
  exact (List.prefix_append _ _).trans told

/-- What is taken off a text is still taken when more comes behind. -/
theorem takeEnvelope_append {e : Envelope} {bs rest : Bytes} (taken : takeEnvelope bs = some (e, rest))
    (more : Bytes) : takeEnvelope (bs ++ more) = some (e, rest ++ more) := by
  obtain ⟨fits, settled, rfl⟩ := takeEnvelope_eq_some_iff.1 taken
  exact takeEnvelope_eq_some_iff.2 ⟨fits, settled, List.append_assoc _ _ _⟩

/-- An envelope comes off its layout settled, whatever is behind. -/
theorem takeEnvelope_layout {e : Envelope} (fits : Fits e) (rest : Bytes) :
    takeEnvelope (layout e ++ rest) = some (e.settled, rest) :=
  takeEnvelope_eq_some_iff.2 ⟨fits, settled_settled e, by rw [layout_settled]⟩

/-- No envelope comes off a front of a layout. -/
theorem takeEnvelope_of_cut {e : Envelope} (fits : Fits e) {bs : Bytes} (front : bs <+: layout e)
    (cut : bs ≠ layout e) : takeEnvelope bs = none := by
  refine Option.eq_none_iff_forall_not_mem.2 fun (f, rest) taken => cut ?_
  obtain ⟨more, whole⟩ := front
  have again := takeEnvelope_append taken more
  have all := takeEnvelope_layout fits []
  rw [List.append_nil, ← whole, again] at all
  have nothing : more = [] := (List.append_eq_nil_iff.1 (Prod.mk.inj (Option.some.inj all)).2).2
  rw [← whole, nothing, List.append_nil]

/-- A dump that ends within an envelope is refused there. -/
theorem decodeFrom_of_cut {es : List Envelope} (fits : ∀ e ∈ es, Fits e) {bs : Bytes}
    (front : bs <+: es.flatMap layout) (cut : ∀ k ≤ es.length, bs ≠ (es.take k).flatMap layout) {fuel index : Nat}
    (enough : bs.length ≤ fuel) :
    decodeFrom fuel index bs = .error (.dumpTruncated (index + wholeIn (es.map layout) bs)) := by
  induction es generalizing bs fuel index with
  | nil => exact absurd (List.prefix_nil.1 front) (cut 0 (Nat.le_refl _))
  | cons e es ih =>
    rw [List.forall_mem_cons] at fits
    obtain ⟨b, others, rfl⟩ := List.exists_cons_of_ne_nil (cut 0 (Nat.zero_le _))
    obtain ⟨fuel, rfl⟩ := Nat.exists_eq_add_one.2 (Nat.lt_of_lt_of_le (Nat.succ_pos _) enough)
    rw [decodeFrom, List.map_cons]
    by_cases whole : layout e <+: b :: others
    · obtain ⟨rest, parts⟩ := whole
      rw [← parts, List.flatMap_cons, List.prefix_append_right_inj] at front
      have short : rest.length ≤ fuel := by
        have total := congrArg List.length parts
        have some_octet := List.length_pos_iff.2 (layout_ne_nil e)
        rw [List.length_append] at total
        omega
      have later : ∀ k ≤ es.length, rest ≠ (es.take k).flatMap layout := by
        rintro k few rfl
        refine cut (k + 1) (Nat.succ_le_succ few) ?_
        rw [← parts, List.take_succ_cons, List.flatMap_cons]
      rw [← parts, takeEnvelope_layout fits.1, wholeIn_append]
      dsimp only
      rw [ih fits.2 front later short, map_error, Nat.add_right_comm, Nat.add_assoc]
    · have within : b :: others <+: layout e :=
        (List.prefix_or_prefix_of_prefix front (List.prefix_append _ _)).resolve_right whole
      have proper : b :: others ≠ layout e := fun same => whole (same ▸ List.prefix_rfl)
      rw [takeEnvelope_of_cut fits.1 within proper, wholeIn_of_not_prefix _ whole]
      rfl

/-- A front of a dump gives the envelopes in it if it ends behind one of them, and is refused with the number of the
envelope that is cut off if it does not. -/
theorem decode_of_prefix {es : List Envelope} {parts : List Bytes} (written : es.mapM encode = .ok parts) {bs : Bytes}
    (front : bs <+: parts.flatten) :
    decode parts.flatten = .ok (es.map Envelope.settled) ∧
    (∀ k ≤ es.length, bs = (parts.take k).flatten → decode bs = .ok ((es.map Envelope.settled).take k)) ∧
    ((∀ k ≤ es.length, bs ≠ (parts.take k).flatten) → ∃ c, decode bs = .error c ∧
      c.message = s!"dump truncated in envelope #{wholeIn parts bs}") ∧
    ∀ read, decode bs = .ok read → read <+: es.map Envelope.settled := by
  obtain ⟨fits, rfl⟩ := mapM_encode_eq_ok_iff.1 written
  have layouts (k : Nat) : ((es.map layout).take k).flatten = (es.take k).flatMap layout := by
    rw [← List.map_take, List.flatMap_def]
  have between (k : Nat) : decode ((es.take k).flatMap layout) = .ok ((es.map Envelope.settled).take k) := by
    rw [decode_flatMap_layout fun e he => fits e (List.mem_of_mem_take he), List.map_take]
  have within (cut : ∀ k ≤ es.length, bs ≠ (es.take k).flatMap layout) :
      decode bs = .error (.dumpTruncated (wholeIn (es.map layout) bs)) := by
    rw [← List.flatMap_def] at front
    rw [decode, decodeFrom_of_cut fits front cut (Nat.le_refl _), Nat.zero_add]
  simp only [layouts]
  refine ⟨?_, ?_, fun cut => ⟨_, within cut, rfl⟩, fun read decoded => ?_⟩
  · rw [← List.flatMap_def, decode_flatMap_layout fits]
  · rintro k - rfl
    exact between k
  · by_cases cut : ∀ k ≤ es.length, bs ≠ (es.take k).flatMap layout
    · rw [within cut] at decoded
      cases decoded
    · obtain ⟨k, -, rfl⟩ : ∃ k ≤ es.length, bs = (es.take k).flatMap layout := by simpa using cut
      rw [between k] at decoded
      cases decoded
      exact List.take_prefix _ _

/-- A dump cut off behind its first envelope, and within the length of a segment of its second. -/
theorem decode_mixedFronts :
    decode (mixedDump.take 28) = .ok [{ segments := [] }] ∧
      [{ segments := [] }] <+: mixedEnvelopes.map Envelope.settled ∧
      ∃ c, decode (mixedDump.take 33) = .error c ∧ c.message = "dump truncated in envelope #1" := by
  have written : mixedEnvelopes.mapM encode = .ok [mixedDump.take 28, mixedDump.drop 28] := rfl
  have first : mixedDump.take 28 <+: [mixedDump.take 28, mixedDump.drop 28].flatten := by decide
  have second : mixedDump.take 33 <+: [mixedDump.take 28, mixedDump.drop 28].flatten := by decide
  obtain ⟨-, between, -, written_only⟩ := decode_of_prefix written first
  obtain ⟨-, -, within, -⟩ := decode_of_prefix written second
  have read : decode (mixedDump.take 28) = .ok [{ segments := [] }] := between 1 (by decide) rfl
  exact ⟨read, written_only _ read, within (by decide)⟩

end FrameStream.Dump
