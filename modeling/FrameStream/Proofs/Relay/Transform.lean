import FrameStream.Proofs.Relay.Delivery
import FrameStream.Proofs.Relay.Preparation
import FrameStream.Relay.Basic

/-!
# Frames in one form

Whether there is a boundary or not, a buffer that passes the checks takes the same way: metadata is prepared, the
end of stream goes out if there is a boundary, a fault of the metadata refuses the buffer, and otherwise the frames
are built (`transform_eq`).
-/

namespace FrameStream

/-! ### Frames of a picture -/

theorem Picture.sourceId_frame (p : Picture) (sourceId : String) : (p.frame sourceId).sourceId = sourceId := by
  unfold frame
  split <;> rfl

/-- The objects are those of the metadata, for every source. -/
theorem Picture.objects_frame (p : Picture) (sourceId : String) :
    (p.frame sourceId).objects = (p.metadata.map FrameMetadata.objects).getD [] := by
  unfold frame
  split <;> rfl

/-- The location is the only attribute. -/
theorem Picture.attributes_frame (p : Picture) (sourceId : String) :
    (p.frame sourceId).attributes = (p.location.map locationAttribute).toList := by
  unfold frame
  cases p.location with
  | none => rfl
  | some location => exact Frame.putAttribute.eq_1 _

namespace Relay

/-! ### One form for all buffers -/

/-- The picture for a buffer. -/
def pictureOf (format : StreamFormat) (initialSize : Transformation) (content : FrameContent) (b : Buffer)
    (r : Relay) : Picture :=
  { format, initialSize, location := r.tracker.location, metadata := r.tracker.nextRecord.1, timing := b.timing,
    content, keyframe := b.isKeyframe }

/-- The picture is that of a buffer, as the relay sees it. -/
structure Depicts (r : Relay) (b : Buffer) (p : Picture) : Prop where
  format : r.tracker.format = some p.format
  initialSize : r.initialSize = some p.initialSize
  location : p.location = r.tracker.location
  metadata : p.metadata = r.tracker.nextRecord.1
  timing : p.timing = b.timing
  content : r.contentOf b = .ok p.content
  keyframe : p.keyframe = b.isKeyframe

/-- A record was taken for the next frame. -/
def recordTaken (r : Relay) : Relay := { r with tracker := r.tracker.nextRecord.2 }

/-- Builds the frames for a buffer, with the metadata there. -/
def build (initialSize : Transformation) (b : Buffer) (r : Relay) : Script Relay Envelope :=
  match r.contentOf b with
  | .error name => .note (.frameTypeUnsupported name) (.done (.error (.frameType name)) r)
  | .ok content =>
    match r.tracker.format with
    | none => .done (.error .notNegotiated) r.recordTaken
    | some format => r.recordTaken.emit (pictureOf format initialSize content b r) b

theorem relayFrame_eq (files : Files) (initialSize : Transformation) (b : Buffer) (r : Relay) :
    r.relayFrame files initialSize b =
      .noteAll (r.tracker.ensureLoaded files).notices (match (r.tracker.ensureLoaded files).failure with
        | some f => .done (.error (.sidecar f)) { r with tracker := (r.tracker.ensureLoaded files).tracker }
        | none => { r with tracker := (r.tracker.ensureLoaded files).tracker : Relay }.build initialSize b) := by
  unfold relayFrame
  dsimp only
  congr 1
  cases (r.tracker.ensureLoaded files).failure with
  | some f => rfl
  | none =>
    -- taking a record changes neither the format nor the location that the frames are built from
    obtain ⟨i, taken⟩ := (r.tracker.ensureLoaded files).tracker.nextRecord_eq
    unfold build pictureOf recordTaken
    generalize (r.tracker.ensureLoaded files).tracker.nextRecord = next at taken ⊢
    obtain ⟨record, tracker⟩ := next
    obtain rfl : tracker = _ := taken
    rfl

/-- Metadata that is there is not looked for. -/
private theorem relayFrame_of_sameLocation (files : Files) (initialSize : Transformation) (b : Buffer) {r : Relay}
    (h : sameLocation r.tracker.loadedFor.join r.tracker.location) :
    r.relayFrame files initialSize b = r.build initialSize b := by
  rw [relayFrame_eq, Tracker.ensureLoaded_of_sameLocation files h]
  rfl

theorem transform_eq (files : Files) {r : Relay} (b : Buffer) {initialSize : Transformation}
    (started : r.isStarted) (negotiated : r.initialSize = some initialSize) :
    r.transform files b =
      .noteAll (r.tracker.prepare files).notices (.pushAll
        (if r.tracker.boundary then endOfStreamRound r.sources else [])
        (.sinkClosed { r with tracker := (r.tracker.prepare files).tracker })
        (match (r.tracker.prepare files).failure with
          | some f => .done (.error (.sidecar f))
              { r with tracker := r.tracker.enter (r.tracker.prepare files).tracker }
          | none => { r with tracker := r.tracker.enter (r.tracker.prepare files).tracker : Relay }.build
              initialSize b)) := by
  obtain ⟨config, sources, tracker, size⟩ := r
  cases negotiated
  have some_source : ¬ sources.isEmpty := by simpa [isStarted] using started
  unfold transform
  rw [if_neg some_source]
  dsimp only [Tracker.checkBoundary]
  by_cases boundary : tracker.boundary
  · rw [if_pos boundary, if_pos boundary, Tracker.prepare, Tracker.enter, if_pos boundary, if_pos boundary]
    have built := relayFrame_of_sameLocation files initialSize b
      (r := ⟨config, sources, (tracker.advance.reload files).tracker.endSegment, some initialSize⟩)
      (tracker.advance.sameLocation_reload files)
    cases (tracker.advance.reload files).failure with
    | some f => rfl
    | none => exact congrArg (fun s => Script.noteAll _ (Script.pushAll _ _ s)) built
  · rw [if_neg boundary, if_neg boundary, Tracker.prepare, Tracker.enter, if_neg boundary, if_neg boundary]
    exact relayFrame_eq files initialSize b _

theorem transform_of_stopped (files : Files) {r : Relay} (b : Buffer) (stopped : r.isStarted = false) :
    r.transform files b = .done (.error .notStarted) r := by
  have none_made : r.sources.isEmpty := by simpa [isStarted] using stopped
  rw [transform, if_pos none_made]

theorem transform_of_unnegotiated (files : Files) {r : Relay} (b : Buffer) (started : r.isStarted = true)
    (missing : r.initialSize = none) : r.transform files b = .done (.error .notNegotiated) r := by
  have some_source : ¬ r.sources.isEmpty := by simpa [isStarted] using started
  rw [transform, if_neg some_source, missing]

/-- A buffer that does not pass the checks changes nothing. -/
theorem transform_of_refused (files : Files) {r : Relay} (b : Buffer)
    (refused : r.isStarted = false ∨ r.initialSize = none) :
    ∃ f, r.transform files b = .done (.error f) r := by
  cases started : r.isStarted with
  | false => exact ⟨.notStarted, transform_of_stopped files b started⟩
  | true =>
    have missing : r.initialSize = none := refused.resolve_left (by simp [started])
    exact ⟨.notNegotiated, transform_of_unnegotiated files b started missing⟩

/-! ### Building -/

/-- The frames of a buffer went out. -/
def frameSent (r : Relay) : Relay := { r.recordTaken with tracker := r.recordTaken.tracker.frameEmitted }

/-- With sources and a format, either the frame type is refused and no record is taken, or there is one envelope for
each source, of which all but the last are pushed. -/
theorem build_cases (initialSize : Transformation) (b : Buffer) {r : Relay} {format : StreamFormat}
    (started : r.isStarted) (known : r.tracker.format = some format) :
    (∃ name, r.contentOf b = .error name ∧
      r.build initialSize b = .note (.frameTypeUnsupported name) (.done (.error (.frameType name)) r)) ∨
    ∃ content last, r.contentOf b = .ok content ∧
      (r.fanOut (pictureOf format initialSize content b r) b).getLast? = some last ∧
      r.build initialSize b =
        .pushAll (r.fanOut (pictureOf format initialSize content b r) b).dropLast (.sinkClosed r.recordTaken)
          (.done (.ok last) r.frameSent) := by
  unfold build
  cases r.contentOf b with
  | error name => exact .inl ⟨name, rfl, rfl⟩
  | ok content =>
    right
    have some_source : r.sources ≠ [] := by simpa [isStarted] using started
    have some_envelope : r.fanOut (pictureOf format initialSize content b r) b ≠ [] := by
      simpa [fanOut] using some_source
    refine ⟨content, _, rfl, List.getLast?_eq_some_getLast some_envelope, ?_⟩
    dsimp only
    rw [known]
    dsimp only
    unfold emit
    dsimp only
    rw [show ∀ p, r.recordTaken.fanOut p b = r.fanOut p b from fun _ => rfl,
      List.getLast?_eq_some_getLast some_envelope]
    rfl

end Relay

end FrameStream
