import FrameStream.Proofs.Relay.Steps

/-!
# What goes out for a buffer

`Buffer.frame` says what consumers are told of a buffer: the format as it was negotiated last, the timing and content
of the buffer, and the location as far as it is known.  Whenever a buffer goes through, every source gets this frame
under its own id and topic, behind the end of the segment before if there is one (`fanOut_of_reached`).  The size is
kept in two places, with the format and as the first transformation; they agree along every run (`isSized_reached`).
-/

namespace FrameStream

def StreamFormat.size (f : StreamFormat) : Transformation := .initialSize f.width.toUInt64 f.height.toUInt64

/-- What the consumers of a source are told of a buffer. -/
def Buffer.frame (b : Buffer) (format : StreamFormat) (location : Option Path) (objects : List FrameObject)
    (content : FrameContent) (sourceId : String) : Frame where
  sourceId := sourceId
  framerate := format.framerate
  width := format.width.toUInt64
  height := format.height.toUInt64
  codec := some format.codec
  content := content
  keyframe := some (!b.delta)
  pts := b.timing.pts.getD 0
  dts := b.timing.dts
  duration := b.timing.duration
  timeBase := (1, 1000000000)
  transformations := [.initialSize format.width.toUInt64 format.height.toUInt64]
  objects := objects
  attributes := match location with
    | none => []
    | some l => [{ scope := "default", name := "location", values := [⟨.text (Utf8.decodeLossy l.octets), none⟩] }]

namespace Relay

variable {c : Config} {r : Relay} {m : Moment} {b : Buffer}

/-! ### The size -/

/-- The size is that of the format. -/
def IsSized (r : Relay) : Prop := r.initialSize = r.tracker.format.map StreamFormat.size

private theorem isSized_ofConfig (made : ofConfig c = .ok r) : r.IsSized := by
  unfold ofConfig at made
  split at made
  · cases made
  · cases made
    rfl

theorem IsSized.of_change {after : Relay} (h : r.IsSized) (change : r.Change after) : after.IsSized := by
  cases change with
  | started => exact h
  | stopped => exact h
  | negotiated => rfl
  | relocated location t same => exact h.trans (congrArg (Option.map StreamFormat.size) same.format.symm)
  | tracked t same => exact h.trans (congrArg (Option.map StreamFormat.size) same.format.symm)

/-- Whatever is done, a stop and a refused negotiation included, the size stays that of the format. -/
theorem isSized_reached (made : ofConfig c = .ok r) (steps : List Step) : (r.reached steps).IsSized := by
  induction steps with
  | nil => exact isSized_ofConfig made
  | cons step past ih => exact ih.of_change (Moment.change ⟨r.reached past, step⟩)

/-! ### Frames -/

/-- Between the round and the frames the relay is as it was, but for the tracker. -/
theorem isOf_entered (kept : m.before.IsOf c) : m.entered.IsOf c :=
  kept.of_change (.tracked _ m.sameStream_entered)

/-- A picture that depicts a buffer, in a relay whose size is that of the format. -/
theorem Depicts.frame_eq {p : Picture} (shown : r.Depicts b p) (sized : r.IsSized) (sourceId : String) :
    p.frame sourceId =
      b.frame p.format r.tracker.location ((r.tracker.nextRecord.1.map FrameMetadata.objects).getD []) p.content
        sourceId := by
  have size : p.initialSize = p.format.size := by
    have same := shown.initialSize.symm.trans sized
    rw [shown.format] at same
    exact Option.some.inj same
  obtain ⟨format, initialSize, location, metadata, timing, content, keyframe⟩ := p
  obtain ⟨-, -, rfl, rfl, rfl, -, rfl⟩ := shown
  obtain rfl : initialSize = format.size := size
  unfold Picture.frame Buffer.frame
  dsimp only
  cases r.tracker.location <;> rfl

/-- How the content travels is told by the frame type alone. -/
theorem content_cases (kept : r.IsOf c) {content : FrameContent} (h : r.contentOf b = .ok content) :
    (c.frameType = .embedded ∧ content = .embedded b.data) ∨
      (c.frameType = .zeromq ∧ content = .external "zeromq" none) := by
  have same : r.config.frameType = c.frameType := by rw [kept.config]
  unfold contentOf at h
  rw [same] at h
  split at h
  · rename_i embedded
    cases h
    exact .inl ⟨embedded, rfl⟩
  · rename_i zeromq
    cases h
    exact .inr ⟨zeromq, rfl⟩
  · cases h

/-- Only a frame type that is neither of the two is refused. -/
theorem frameType_of_unsupported (same : r.config.frameType = c.frameType) {name : String}
    (h : r.contentOf b = .error name) : c.frameType = .other name := by
  unfold contentOf at h
  rw [same] at h
  split at h
  · cases h
  · cases h
  · rename_i other type
    cases h
    exact type

/-- A buffer that went through. -/
theorem sent_of_succeeded (kept : m.before.IsOf c) (asked : m.step.operation = .transform b) (h : m.succeeded) :
    ∃ p, m.entered.Depicts b p ∧ m.emitted = m.round ++ m.entered.fanOut p b := by
  rcases Moment.transform_cases kept asked with ⟨-, fails⟩ | passage
  · rw [fails] at h
    cases h
  · cases passage with
    | interrupted shut n handed fails =>
      rw [fails] at h
      cases h
    | refused handed emitted fails =>
      rw [fails] at h
      cases h
    | broken shut p shown n handed fails =>
      rw [fails] at h
      cases h
    | sent p shown handed emitted => exact ⟨p, shown, emitted⟩

/-- Behind the end of the segment before, if there is one, every source gets the same frame for a buffer under its own
id; the envelope that is left to the host is the last of them. -/
theorem fanOut_of_reached (made : ofConfig c = .ok r) (past : List Step) (b : Buffer) (files : Files)
    (accepts : Nat → Bool) {primary : Envelope} :
    let m : Moment := ⟨r.reached past, { operation := .transform b, files, accepts }⟩
    m.outcome.result = .ok (some primary) → ∃ format content raw,
      m.before.format? = some format ∧
      ((c.frameType = .embedded ∧ content = .embedded b.data ∧ raw = []) ∨
        (c.frameType = .zeromq ∧ content = .external "zeromq" none ∧ raw = [b.data])) ∧
      m.outcome.pushed ++ [primary] =
        (if m.before.tracker.boundary then endOfStreamRound m.before.sources else []) ++
          m.before.sources.map fun s => {
            segments := [Utf8.encode (s.id ++ "/"), (Message.frame (b.frame format m.before.location?
              ((m.entered.tracker.nextRecord.1.map FrameMetadata.objects).getD []) content s.id)).encode] ++ raw
            timing := b.timing } := by
  intro m result
  have kept : m.before.IsOf c := isOf_reached (isOf_ofConfig made) past
  have stream := (m.before.tracker.sameStream_enter m.prepared.tracker).trans
    (m.before.tracker.sameStream_prepare m.step.files)
  have entered : m.before.Change m.entered := .tracked _ stream
  have succeeded : m.succeeded := by
    rw [Moment.succeeded, result]
    rfl
  have emitted : m.emitted = m.outcome.pushed ++ [primary] := by
    rw [Moment.emitted, Moment.primary, result]
  obtain ⟨p, shown, sent⟩ := sent_of_succeeded kept rfl succeeded
  have sized : m.entered.IsSized := (isSized_reached made past).of_change entered
  have location : m.entered.tracker.location = m.before.location? := stream.location
  have envelope (s : Source) : s.bufferEnvelope (.frame (p.frame s.id)) p.timing
      (if p.content.isExternal then some b.data else none) =
      { segments := [Utf8.encode (s.id ++ "/"), (Message.frame (b.frame p.format m.before.location?
          ((m.entered.tracker.nextRecord.1.map FrameMetadata.objects).getD []) p.content s.id)).encode] ++
          (if p.content.isExternal then some b.data else none).toList
        timing := b.timing } := by
    rw [shown.frame_eq sized, shown.timing, location]
    rfl
  refine ⟨p.format, p.content, (if p.content.isExternal then some b.data else none).toList, ?_, ?_, ?_⟩
  · exact stream.format.symm.trans shown.format
  · rcases content_cases (kept.of_change entered) shown.content with ⟨embedded, content⟩ | ⟨zeromq, content⟩
    · exact .inl ⟨embedded, content, by rw [content]; rfl⟩
    · exact .inr ⟨zeromq, content, by rw [content]; rfl⟩
  · rw [← emitted, sent, Moment.round, fanOut]
    congr 1
    exact List.map_congr_left fun s _ => envelope s

/-- Two sources whose frames travel behind their messages. -/
def twinConfig : Config := { multistream := true, pattern := some "cam-%d", streams := 2 }

def twinRelay : Relay := { config := twinConfig, tracker := .ofConfig twinConfig }

/-- A frame of one file went out, a format without a size was refused, and then another file was named. -/
def twinMoved : List Step := [
  { operation := .relocate (some (.ofText "b.mp4")) },
  { operation := .negotiate { name := "video/x-h264" } },
  { operation := .transform {} },
  { operation := .negotiate { name := "video/x-h264", width := some 640, height := some 480 } },
  { operation := .relocate (some (.ofText "a.mp4")) },
  { operation := .start }]

theorem fanOut_twinMoved :
    let b : Buffer := { data := [1, 2], timing := { dts := some 7 }, delta := true }
    let m : Moment := ⟨twinRelay.reached twinMoved, { operation := .transform b }⟩
    let frame (id : String) : Frame := b.frame ⟨"h264", 640, 480, "30/1"⟩ (some (.ofText "b.mp4")) []
      (.external "zeromq" none) id
    ∃ primary, m.outcome.result = .ok (some primary) ∧ m.outcome.pushed ++ [primary] = [
      Source.endOfStream ⟨"cam-0"⟩,
      Source.endOfStream ⟨"cam-1"⟩,
      { segments := [Utf8.encode "cam-0/", (Message.frame (frame "cam-0")).encode, [1, 2]],
        timing := { dts := some 7 } },
      { segments := [Utf8.encode "cam-1/", (Message.frame (frame "cam-1")).encode, [1, 2]],
        timing := { dts := some 7 } }] := by
  intro b m frame
  obtain ⟨one, negotiated, moved, boundary, sources, unread⟩ : m.primary.length = 1 ∧
      m.before.format? = some ⟨"h264", 640, 480, "30/1"⟩ ∧ m.before.location? = some (.ofText "b.mp4") ∧
      m.before.tracker.boundary = true ∧ m.before.sources = [⟨"cam-0"⟩, ⟨"cam-1"⟩] ∧
      m.entered.tracker.nextRecord.1.isNone := by decide +kernel
  obtain ⟨primary, result⟩ : ∃ primary, m.outcome.result = .ok (some primary) := by
    unfold Moment.primary at one
    split at one
    · rename_i primary result
      exact ⟨primary, result⟩
    · cases one
  have made : ofConfig twinConfig = .ok twinRelay := rfl
  obtain ⟨format, content, raw, known, way, sent⟩ :=
    fanOut_of_reached made twinMoved b {} (fun _ => true) result
  obtain rfl : _ = format := Option.some.inj (negotiated.symm.trans known)
  obtain ⟨-, rfl, rfl⟩ := way.resolve_left fun embedded => absurd embedded.1 (by decide)
  refine ⟨primary, result, ?_⟩
  rw [sent, boundary, sources, moved, Option.isNone_iff_eq_none.1 unread]
  rfl

end Relay

end FrameStream
