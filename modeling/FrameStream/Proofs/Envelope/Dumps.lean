import FrameStream.Envelope.Dump.Lemmas
import FrameStream.Proofs.Results

/-!
# Dumps read back

An envelope whose count and lengths fit has one *layout*, and that is what is appended for it, whatever is in the
buffer already (`append_of_fits`, `append_of_not_fits`).  A text begins with an envelope exactly if it begins with its
layout (`takeEnvelope_eq_some_iff`), and a dump is read exactly if it is the layouts of its envelopes, one behind the
other (`decode_eq_ok_iff`).  No envelope that is read has the greatest timestamp, since it stands for none; it is all
that a dump does not keep (`decode_inverse_encodeAll`).
-/

namespace FrameStream

/-- A timestamp as it comes back: the greatest one is none. -/
def settledTime (t : Option UInt64) : Option UInt64 := t.filter (·.toNat != Dump.noTime)

def Timing.settled (t : Timing) : Timing :=
  { pts := settledTime t.pts, dts := settledTime t.dts, duration := settledTime t.duration }

def Envelope.settled (e : Envelope) : Envelope := { e with timing := e.timing.settled }

theorem settledTime_some {t : UInt64} : settledTime (some t) = if t.toNat = Dump.noTime then none else some t := by
  by_cases greatest : t.toNat = Dump.noTime <;> simp [settledTime, greatest]

theorem settledTime_eq_self {t : Option UInt64} (h : t ≠ some 0xFFFFFFFFFFFFFFFF) : settledTime t = t := by
  cases t with
  | none => rfl
  | some t =>
    have other : t.toNat ≠ Dump.noTime := fun greatest => h (congrArg some (UInt64.toNat_inj.1 greatest))
    rw [settledTime_some, if_neg other]

theorem Envelope.settled_eq_self {e : Envelope}
    (h : some 0xFFFFFFFFFFFFFFFF ∉ [e.timing.pts, e.timing.dts, e.timing.duration]) : e.settled = e := by
  simp only [List.mem_cons, List.not_mem_nil, or_false, not_or] at h
  simp only [settled, Timing.settled, settledTime_eq_self (Ne.symm h.1), settledTime_eq_self (Ne.symm h.2.1),
    settledTime_eq_self (Ne.symm h.2.2)]

theorem settledTime_settledTime (t : Option UInt64) : settledTime (settledTime t) = settledTime t := by
  cases t with
  | none => rfl
  | some t =>
    rw [settledTime_some]
    split
    · rfl
    · rename_i other
      rw [settledTime_some, if_neg other]

namespace Dump

/-! ### Writing -/

/-- The count and all lengths have room in four octets. -/
def Fits (e : Envelope) : Prop :=
  e.segments.length < 0x100000000 ∧ ∀ s ∈ e.segments, s.length < 0x100000000

def segmentLayout (s : Bytes) : Bytes := bigEndian 4 s.length ++ s

def timesLayout (t : Timing) : Bytes := encodeTime t.pts ++ (encodeTime t.dts ++ encodeTime t.duration)

/-- The octets of an envelope. -/
def layout (e : Envelope) : Bytes :=
  bigEndian 4 e.segments.length ++ (e.segments.flatMap segmentLayout ++ timesLayout e.timing)

private theorem encodeLength_of_lt {what : String} {n : Nat} (h : n < 0x100000000) :
    encodeLength what n = .ok (bigEndian 4 n) := if_pos h

private theorem mapM_encodeLength_of_fits {what : String} {segments : List Bytes}
    (h : ∀ s ∈ segments, s.length < 0x100000000) :
    segments.mapM (fun s => encodeLength what s.length) = .ok (segments.map fun s => bigEndian 4 s.length) := by
  induction segments with
  | nil => rfl
  | cons s segments ih =>
    rw [List.forall_mem_cons] at h
    rw [List.mapM_cons, encodeLength_of_lt h.1, ok_bind, ih h.2]
    rfl

private theorem exists_error_of_long (what : String) {segments : List Bytes}
    (h : ∃ s ∈ segments, 0x100000000 ≤ s.length) :
    ∃ c, segments.mapM (fun s => encodeLength what s.length) = .error c := by
  induction segments with
  | nil => simp at h
  | cons s segments ih =>
    rw [List.mapM_cons]
    by_cases short : s.length < 0x100000000
    · obtain ⟨t, ht, long⟩ := h
      have later : t ∈ segments := by
        rcases List.mem_cons.1 ht with rfl | later
        · omega
        · exact later
      obtain ⟨c, fails⟩ := ih ⟨t, later, long⟩
      rw [encodeLength_of_lt short, ok_bind, fails]
      exact ⟨c, rfl⟩
    · exact ⟨_, by rw [encodeLength, if_neg short, error_bind]⟩

/-- Segments and their lengths in turn. -/
private theorem flatten_zip_lengths (segments : List Bytes) :
    (((segments.map fun s => bigEndian 4 s.length).zip segments).map fun (length, s) => length ++ s).flatten =
      segments.flatMap segmentLayout := by
  induction segments with
  | nil => rfl
  | cons s segments ih => simpa [segmentLayout] using ih

theorem append_of_fits {e : Envelope} (h : Fits e) (buffer : Bytes) :
    append buffer e = (.ok (), buffer ++ layout e) := by
  have lengths : encodeLengths e =
      .ok (bigEndian 4 e.segments.length, e.segments.map fun s => bigEndian 4 s.length) := by
    rw [encodeLengths, encodeLength_of_lt h.1, ok_bind, mapM_encodeLength_of_fits h.2, ok_bind]
  unfold append
  rw [lengths]
  dsimp only
  rw [List.foldl_append_eq_append, List.foldl_append_eq_append, flatten_zip_lengths]
  simp [layout, timesLayout]

theorem append_of_not_fits {e : Envelope} (h : ¬ Fits e) : ∃ c, ∀ buffer, append buffer e = (.error c, buffer) := by
  have fails : ∃ c, encodeLengths e = .error c := by
    unfold encodeLengths
    by_cases few : e.segments.length < 0x100000000
    · have long : ∃ s ∈ e.segments, 0x100000000 ≤ s.length := by simpa [Fits, few] using h
      obtain ⟨c, fails⟩ := exists_error_of_long "segment length" long
      rw [encodeLength_of_lt few, ok_bind, fails]
      exact ⟨c, rfl⟩
    · exact ⟨_, by rw [encodeLength, if_neg few, error_bind]⟩
  obtain ⟨c, fails⟩ := fails
  refine ⟨c, fun buffer => ?_⟩
  unfold append
  rw [fails]

theorem encode_eq_ok_iff {e : Envelope} {bs : Bytes} : encode e = .ok bs ↔ Fits e ∧ bs = layout e := by
  unfold encode
  by_cases h : Fits e
  · rw [append_of_fits h, List.nil_append]
    simp [h, eq_comm]
  · obtain ⟨c, fails⟩ := append_of_not_fits h
    rw [fails]
    simp [h]

theorem mapM_encode_eq_ok_iff {es : List Envelope} {parts : List Bytes} :
    es.mapM encode = .ok parts ↔ (∀ e ∈ es, Fits e) ∧ parts = es.map layout := by
  induction es generalizing parts with
  | nil => simp [pure, Except.pure, eq_comm]
  | cons e es ih =>
    rw [List.mapM_cons, List.forall_mem_cons, List.map_cons]
    simp only [bind_eq_ok, encode_eq_ok_iff, ih]
    constructor
    · rintro ⟨_, ⟨fits, rfl⟩, _, ⟨others, rfl⟩, same⟩
      exact ⟨⟨fits, others⟩, (Except.ok.inj same).symm⟩
    · rintro ⟨⟨fits, others⟩, rfl⟩
      exact ⟨_, ⟨fits, rfl⟩, _, ⟨others, rfl⟩, rfl⟩

theorem encodeAll_eq_ok_iff {es : List Envelope} {bs : Bytes} :
    encodeAll es = .ok bs ↔ (∀ e ∈ es, Fits e) ∧ bs = es.flatMap layout := by
  unfold encodeAll
  simp only [map_eq_ok, mapM_encode_eq_ok_iff, List.flatMap_def]
  constructor
  · rintro ⟨_, ⟨fits, rfl⟩, rfl⟩
    exact ⟨fits, rfl⟩
  · rintro ⟨fits, rfl⟩
    exact ⟨_, ⟨fits, rfl⟩, rfl⟩

/-! ### Reading -/

/-- A timestamp that is read is never the greatest. -/
theorem takeTime_eq_some_iff {t : Option UInt64} {bs rest : Bytes} :
    takeTime bs = some (t, rest) ↔ settledTime t = t ∧ bs = encodeTime t ++ rest := by
  have bound : Nat.pow 256 8 = 0x10000000000000000 := rfl
  simp only [takeTime, Option.map_eq_some_iff, Prod.exists, Prod.mk.injEq, takeNumber_eq_some_iff]
  constructor
  · rintro ⟨n, _, ⟨fits, rfl⟩, rfl, rfl⟩
    by_cases greatest : n = noTime
    · rw [if_pos greatest, greatest]
      exact ⟨rfl, rfl⟩
    · have back : (UInt64.ofNat n).toNat = n := UInt64.toNat_ofNat_of_lt' (by rwa [bound] at fits)
      rw [if_neg greatest, settledTime_some, back, if_neg greatest, encodeTime, back]
      exact ⟨rfl, rfl⟩
  · rintro ⟨settled, rfl⟩
    cases t with
    | none => exact ⟨noTime, rest, ⟨by decide, rfl⟩, if_pos rfl, rfl⟩
    | some t =>
      have other : t.toNat ≠ noTime := by
        intro greatest
        rw [settledTime_some, if_pos greatest] at settled
        cases settled
      have fits : t.toNat < Nat.pow 256 8 := by
        rw [bound]
        exact t.toNat_lt
      exact ⟨t.toNat, rest, ⟨fits, rfl⟩, by rw [if_neg other, UInt64.ofNat_toNat], rfl⟩

theorem takeSegment_eq_some_iff {s bs rest : Bytes} :
    takeSegment bs = some (s, rest) ↔ s.length < 0x100000000 ∧ bs = segmentLayout s ++ rest := by
  have bound : Nat.pow 256 4 = 0x100000000 := rfl
  simp only [takeSegment, Option.bind_eq_bind, Option.bind_eq_some_iff, Prod.exists, takeNumber_eq_some_iff,
    splitExactly_eq_some_iff, bound, segmentLayout]
  constructor
  · rintro ⟨_, _, ⟨short, rfl⟩, rfl, rfl⟩
    exact ⟨short, (List.append_assoc _ _ _).symm⟩
  · rintro ⟨short, rfl⟩
    exact ⟨s.length, s ++ rest, ⟨short, List.append_assoc _ _ _⟩, rfl, rfl⟩

theorem takeSegments_eq_some_iff {count : Nat} {segments : List Bytes} {bs rest : Bytes} :
    takeSegments count bs = some (segments, rest) ↔
      segments.length = count ∧ (∀ s ∈ segments, s.length < 0x100000000) ∧
        bs = segments.flatMap segmentLayout ++ rest := by
  induction count generalizing segments bs rest with
  | zero =>
    simp only [takeSegments, Option.some.injEq, Prod.mk.injEq]
    constructor
    · rintro ⟨rfl, rfl⟩
      simp
    · rintro ⟨none_left, -, rfl⟩
      obtain rfl := List.length_eq_zero_iff.1 none_left
      exact ⟨rfl, rfl⟩
  | succ count ih =>
    simp only [takeSegments, Option.bind_eq_bind, Option.bind_eq_some_iff, Prod.exists, takeSegment_eq_some_iff, ih,
      Option.some.injEq, Prod.mk.injEq]
    constructor
    · rintro ⟨s, _, ⟨short, rfl⟩, others, _, ⟨rfl, shorts, rfl⟩, rfl, rfl⟩
      exact ⟨rfl, List.forall_mem_cons.2 ⟨short, shorts⟩, by simp⟩
    · rintro ⟨length, shorts, rfl⟩
      obtain ⟨s, others, rfl⟩ := List.exists_cons_of_length_eq_add_one length
      rw [List.forall_mem_cons] at shorts
      exact ⟨s, _, ⟨shorts.1, by simp⟩, others, rest, ⟨by simpa using length, shorts.2, rfl⟩, rfl, rfl⟩

/-- A text begins with an envelope exactly if it begins with its layout. -/
theorem takeEnvelope_eq_some_iff {e : Envelope} {bs rest : Bytes} :
    takeEnvelope bs = some (e, rest) ↔ Fits e ∧ e.settled = e ∧ bs = layout e ++ rest := by
  have bound : Nat.pow 256 4 = 0x100000000 := rfl
  simp only [takeEnvelope, Option.bind_eq_bind, Option.bind_eq_some_iff, Prod.exists, takeNumber_eq_some_iff,
    takeSegments_eq_some_iff, takeTime_eq_some_iff, Option.some.injEq, Prod.mk.injEq, bound]
  constructor
  · rintro ⟨_, _, ⟨few, rfl⟩, segments, _, ⟨rfl, shorts, rfl⟩, pts, _, ⟨pts_settled, rfl⟩, dts, _,
      ⟨dts_settled, rfl⟩, duration, _, ⟨duration_settled, rfl⟩, rfl, rfl⟩
    refine ⟨⟨few, shorts⟩, ?_, by simp [layout, timesLayout]⟩
    simp [Envelope.settled, Timing.settled, pts_settled, dts_settled, duration_settled]
  · obtain ⟨segments, pts, dts, duration⟩ := e
    rintro ⟨⟨few, shorts⟩, settled, rfl⟩
    simp only [Envelope.settled, Timing.settled, Envelope.mk.injEq, Timing.mk.injEq, true_and] at settled
    obtain ⟨pts_settled, dts_settled, duration_settled⟩ := settled
    exact ⟨segments.length, _, ⟨few, by simp [layout, timesLayout]⟩, segments, _, ⟨rfl, shorts, rfl⟩, pts, _,
      ⟨pts_settled, rfl⟩, dts, _, ⟨dts_settled, rfl⟩, duration, rest, ⟨duration_settled, rfl⟩, rfl, rfl⟩

/-! ### Whole dumps -/

theorem layout_ne_nil (e : Envelope) : layout e ≠ [] := by
  intro h
  have count := congrArg List.length (List.append_eq_nil_iff.1 h).1
  rw [length_bigEndian] at count
  cases count

private theorem eq_nil_of_flatMap_layout {es : List Envelope} (h : es.flatMap layout = []) : es = [] := by
  cases es with
  | nil => rfl
  | cons e es => exact absurd (List.append_eq_nil_iff.1 h).1 (layout_ne_nil e)

/-- With as much fuel as there are octets, what is read are envelopes without the greatest timestamp, and the text is
their layouts. -/
theorem decodeFrom_eq_ok_iff {fuel index : Nat} {bs : Bytes} {es : List Envelope} (enough : bs.length ≤ fuel) :
    decodeFrom fuel index bs = .ok es ↔ (∀ e ∈ es, Fits e ∧ e.settled = e) ∧ bs = es.flatMap layout := by
  induction fuel generalizing index bs es with
  | zero =>
    obtain rfl : bs = [] := List.length_eq_zero_iff.1 (Nat.le_zero.1 enough)
    rw [decodeFrom]
    constructor
    · rintro ⟨⟩
      exact ⟨nofun, rfl⟩
    · rintro ⟨-, whole⟩
      rw [eq_nil_of_flatMap_layout whole.symm]
  | succ fuel ih =>
    cases bs with
    | nil =>
      rw [decodeFrom]
      constructor
      · rintro ⟨⟩
        exact ⟨nofun, rfl⟩
      · rintro ⟨-, whole⟩
        rw [eq_nil_of_flatMap_layout whole.symm]
    | cons b bs =>
      rw [decodeFrom]
      -- a dump of some envelopes begins with the first of them
      have first {e : Envelope} {others : List Envelope} (each : ∀ f ∈ e :: others, Fits f ∧ f.settled = f)
          (whole : b :: bs = (e :: others).flatMap layout) :
          takeEnvelope (b :: bs) = some (e, others.flatMap layout) := by
        obtain ⟨fits, settled⟩ := each e List.mem_cons_self
        exact takeEnvelope_eq_some_iff.2 ⟨fits, settled, whole⟩
      cases taken : takeEnvelope (b :: bs) with
      | none =>
        refine ⟨nofun, ?_⟩
        rintro ⟨each, whole⟩
        cases es with
        | nil => cases whole
        | cons e others =>
          rw [first each whole] at taken
          cases taken
      | some front =>
        obtain ⟨e, rest⟩ := front
        obtain ⟨fits, settled, parts⟩ := takeEnvelope_eq_some_iff.1 taken
        have shorter : rest.length ≤ fuel := by
          have total := congrArg List.length parts
          have some_octet := List.length_pos_iff.2 (layout_ne_nil e)
          rw [List.length_append] at total
          omega
        dsimp only
        rw [map_eq_ok]
        constructor
        · rintro ⟨others, read, rfl⟩
          obtain ⟨each, rfl⟩ := (ih shorter).1 read
          exact ⟨List.forall_mem_cons.2 ⟨⟨fits, settled⟩, each⟩, parts⟩
        · rintro ⟨each, whole⟩
          cases es with
          | nil => cases whole
          | cons f others =>
            rw [first each whole] at taken
            cases taken
            exact ⟨others, (ih shorter).2 ⟨(List.forall_mem_cons.1 each).2, rfl⟩, rfl⟩

theorem decode_eq_ok_iff {bs : Bytes} {es : List Envelope} :
    decode bs = .ok es ↔ (∀ e ∈ es, Fits e ∧ e.settled = e) ∧ bs = es.flatMap layout :=
  decodeFrom_eq_ok_iff (Nat.le_refl _)

/-! ### There and back -/

theorem layout_settled (e : Envelope) : layout e.settled = layout e := by
  have time (t : Option UInt64) : encodeTime (settledTime t) = encodeTime t := by
    cases t with
    | none => rfl
    | some t =>
      rw [settledTime_some]
      split
      · rename_i greatest
        rw [encodeTime, encodeTime, greatest]
      · rfl
  simp only [layout, timesLayout, Envelope.settled, Timing.settled, time]

theorem settled_settled (e : Envelope) : e.settled.settled = e.settled := by
  simp only [Envelope.settled, Timing.settled, settledTime_settledTime]

/-- What was written is read again, but for the greatest timestamp. -/
theorem decode_flatMap_layout {es : List Envelope} (fits : ∀ e ∈ es, Fits e) :
    decode (es.flatMap layout) = .ok (es.map Envelope.settled) := by
  rw [decode_eq_ok_iff]
  refine ⟨?_, ?_⟩
  · intro f hf
    obtain ⟨e, he, rfl⟩ := List.mem_map.1 hf
    exact ⟨fits e he, settled_settled e⟩
  · simp only [List.flatMap_map, layout_settled]

/-- A dump gives back its envelopes but for the greatest timestamp, every text that is read is the dump of what was
read, and an envelope is appended as a whole or not at all. -/
theorem decode_inverse_encodeAll :
    (∀ es bs, encodeAll es = .ok bs → decode bs = .ok (es.map Envelope.settled) ∧
      ((∀ e ∈ es, some 0xFFFFFFFFFFFFFFFF ∉ [e.timing.pts, e.timing.dts, e.timing.duration]) →
        decode bs = .ok es)) ∧
    (∀ bs es, decode bs = .ok es → encodeAll es = .ok bs) ∧
    (∀ e, (e.segments.length ≤ 0xFFFFFFFF ∧ ∀ s ∈ e.segments, s.length ≤ 0xFFFFFFFF) →
      ∃ bs, encode e = .ok bs ∧ ∀ buffer, append buffer e = (.ok (), buffer ++ bs)) ∧
    ∀ e, (0xFFFFFFFF < e.segments.length ∨ ∃ s ∈ e.segments, 0xFFFFFFFF < s.length) →
      ∃ c, encode e = .error c ∧ ∀ buffer, append buffer e = (.error c, buffer) := by
  refine ⟨?_, ?_, ?_, ?_⟩
  · intro es bs written
    obtain ⟨fits, rfl⟩ := encodeAll_eq_ok_iff.1 written
    have read := decode_flatMap_layout fits
    refine ⟨read, fun timely => ?_⟩
    have same : ∀ e ∈ es, e.settled = id e := fun e he => Envelope.settled_eq_self (timely e he)
    rw [read, List.map_congr_left same, List.map_id]
  · intro bs es read
    obtain ⟨each, rfl⟩ := decode_eq_ok_iff.1 read
    exact encodeAll_eq_ok_iff.2 ⟨fun e he => (each e he).1, rfl⟩
  · rintro e ⟨few, short⟩
    have fits : Fits e := ⟨by omega, fun s hs => by have := short s hs; omega⟩
    exact ⟨layout e, encode_eq_ok_iff.2 ⟨fits, rfl⟩, append_of_fits fits⟩
  · intro e long
    have unfit : ¬ Fits e := by
      rintro ⟨few, short⟩
      rcases long with many | ⟨s, hs, long⟩
      · omega
      · have := short s hs
        omega
    obtain ⟨c, fails⟩ := append_of_not_fits unfit
    exact ⟨c, by rw [encode, fails], fails⟩

/-- An envelope without segments and one of three, the second with the greatest timestamp; and the dump of them. -/
def mixedEnvelopes : List Envelope := [
  { segments := [] },
  { segments := [[1, 2], [], [3]], timing := { pts := some 0xFFFFFFFFFFFFFFFF, duration := some 0 } }]

def mixedDump : Bytes :=
  [0, 0, 0, 0] ++ List.replicate 24 255 ++
    [0, 0, 0, 3, 0, 0, 0, 2, 1, 2, 0, 0, 0, 0, 0, 0, 0, 1, 3] ++ List.replicate 16 255 ++ List.replicate 8 0

/-- The dump is read but for the greatest timestamp and is written again from what was read; one segment is appended
behind what was there, and more segments than can be counted are not. -/
theorem decode_mixedDump :
    encodeAll mixedEnvelopes = .ok mixedDump ∧ decode mixedDump = .ok (mixedEnvelopes.map Envelope.settled) ∧
      encodeAll (mixedEnvelopes.map Envelope.settled) = .ok mixedDump ∧
      append [7] { segments := [[5]] } = (.ok (), [7, 0, 0, 0, 1, 0, 0, 0, 1, 5] ++ List.replicate 24 255) ∧
      ∃ e : Envelope, e.segments.length = 0x100000000 ∧ ∃ c, append [7] e = (.error c, [7]) := by
  obtain ⟨forth, back, whole, nothing⟩ := decode_inverse_encodeAll
  have written : encodeAll mixedEnvelopes = .ok mixedDump := rfl
  have read := (forth mixedEnvelopes mixedDump written).1
  obtain ⟨bs, alone, appended⟩ := whole { segments := [[5]] } ⟨by decide, by decide⟩
  have octets : encode { segments := [[5]] } = .ok ([0, 0, 0, 1, 0, 0, 0, 1, 5] ++ List.replicate 24 255) := rfl
  obtain ⟨e, many⟩ : ∃ e : Envelope, e.segments.length = 0x100000000 :=
    ⟨⟨List.replicate 0x100000000 [], {}⟩, List.length_replicate⟩
  obtain ⟨c, -, refused⟩ := nothing e (.inl (by omega))
  refine ⟨written, read, back mixedDump _ read, ?_, e, many, c, refused [7]⟩
  rw [appended [7], Except.ok.inj (alone.symm.trans octets)]
  rfl

end Dump

end FrameStream
