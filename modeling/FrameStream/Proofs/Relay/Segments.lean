import FrameStream.Proofs.Relay.Memory

/-!
# Where streams end

The rounds that end the streams are due at two kinds of moments: at the end of the stream as the host says, and
before a buffer where a frame went out since the last round and one of the enabled triggers holds between this
buffer and the one before it.  `roundDue` says so in terms of the history alone.  Along every run without a stop the
tracker remembers just what that needs (`traced_reached`), and the rounds are sent where they are due and nowhere
else (`emitted_of_reached`).
-/

namespace FrameStream.Relay

/-! ### Rounds that are due -/

namespace Moment

/-- The end of some stream is sent. -/
def endsStreams (m : Moment) : Bool := m.emitted.any Envelope.isEndOfStream

end Moment

/-- An enabled trigger holds between a buffer and the admitted one before it: another location, another format, or
a file that was opened. -/
def boundaryBefore (c : Config) (past : List Moment) (m : Moment) : Bool :=
  match past.find? Moment.admitted with
  | none => false
  | some before =>
    (c.eosOnFileEnd && !sameLocation m.before.location? before.before.location?) ||
      (c.eosOnFormatChange && m.before.format? != before.before.format?) ||
      (c.eosOnLoopEnd && heldSince Moment.opensFile Moment.admitted past)

/-- The streams have to end at this moment, before any frame of it. -/
def roundDue (c : Config) (past : List Moment) (m : Moment) : Bool :=
  m.atEnd || (m.admitted && heldSince Moment.succeeded Moment.endsStreams past && boundaryBefore c past m)

/-! ### What the tracker remembers -/

variable {c : Config} {r : Relay} {past : List Moment} {m : Moment}

/-- While a segment is in progress, the tracker sees a boundary where the history has one. -/
theorem boundary_of_followed (made : m.before.IsOf c) (followed : Followed past m.before) :
    m.before.tracker.boundary = (m.before.tracker.inProgress && boundaryBefore c past m) := by
  have triggers : m.before.tracker.triggers = ⟨c.eosOnFileEnd, c.eosOnLoopEnd, c.eosOnFormatChange⟩ :=
    made.triggers
  unfold Tracker.boundary boundaryBefore
  rw [followed.previous]
  cases past.find? Moment.admitted with
  | none => exact (Bool.and_false _).symm
  | some before =>
    rw [← followed.reopened, triggers]
    rfl

/-- A round was completed last when the end of some stream was sent last. -/
structure Traced (past : List Moment) (r : Relay) : Prop extends Followed past r where
  rounds : heldSince Moment.succeeded Moment.completesRound past =
    heldSince Moment.succeeded Moment.endsStreams past

theorem boundary_eq (made : m.before.IsOf c) (traced : Traced past m.before) :
    m.before.tracker.boundary =
      (heldSince Moment.succeeded Moment.endsStreams past && boundaryBefore c past m) := by
  rw [boundary_of_followed made traced.toFollowed, traced.inProgress, traced.rounds]

/-- The step that was not a stop, with a sink that took everything. -/
def Step.IsSteady (s : Step) : Prop := s.operation ≠ .stop ∧ s.IsOpen

private theorem any_round {sources : List Source} (h : sources ≠ []) :
    (endOfStreamRound sources).any Envelope.isEndOfStream = true := by
  obtain ⟨s, others, rfl⟩ := List.exists_cons_of_ne_nil h
  simp [endOfStreamRound]

/-- If the sink takes everything, the end of some stream is sent only in a complete round. -/
private theorem completesRound_eq (made : m.before.IsOf c) (steady : m.step.IsSteady) :
    m.completesRound = m.endsStreams := by
  cases passes : m.admitted with
  | true =>
    obtain ⟨b, asked, passage⟩ := Moment.passage_of_admitted made passes
    have started := isStarted_of_admitted passes
    have some_source : m.before.sources ≠ [] := by simpa [isStarted] using started
    have boundary {frames : List Envelope} (h : m.emitted = m.round ++ frames)
        (plain : ∀ e ∈ frames, e.isEndOfStream = false) : m.completesRound = m.endsStreams := by
      have none_ends : frames.any Envelope.isEndOfStream = false := by simpa using plain
      rw [completesRound_of_round started h plain, Moment.endsStreams, h, List.any_append, none_ends, Moment.round]
      cases m.before.tracker.boundary
      · rfl
      · simp [any_round some_source]
    cases passage with
    | interrupted shut => exact absurd steady.2 shut
    | broken shut => exact absurd steady.2 shut
    | refused handed emitted => exact boundary (emitted.trans (List.append_nil _).symm) (by simp)
    | sent p shown handed emitted => exact boundary emitted fun e he => (frame_of_mem_fanOut he).1
  | false =>
    cases ending : m.atEnd with
    | true =>
      have started : m.before.isStarted := by
        simp only [Moment.atEnd, Bool.and_eq_true] at ending
        exact ending.1
      have some_source : m.before.sources ≠ [] := by simpa [isStarted] using started
      have emitted := (Moment.atEnd_open ending steady.2).1
      rw [completesRound_of_append started emitted, Moment.endsStreams, emitted, List.any_append,
        any_round some_source, Bool.true_or]
    | false =>
      obtain ⟨-, emitted, -, -⟩ := Moment.quiet_cases steady.1 passes ending
      rw [completesRound_of_frames (by simp [emitted]), Moment.endsStreams, emitted]
      rfl

/-- Along a run without a stop the tracker remembers what the rounds depend on. -/
theorem traced_reached (made : ofConfig c = .ok r) {steps : List Step} (steady : ∀ s ∈ steps, s.IsSteady) :
    Traced (r.history steps) (r.reached steps) := by
  have followed := followed_reached made fun s hs => (steady s hs).1
  have rounds : ∀ m ∈ r.history steps, m.completesRound = m.endsStreams := by
    clear followed
    induction steps with
    | nil => simp [history]
    | cons step past ih =>
      rw [List.forall_mem_cons] at steady
      rw [history, List.forall_mem_cons]
      have kept : (r.reached past).IsOf c := isOf_reached (isOf_ofConfig made) past
      exact ⟨completesRound_eq (m := ⟨r.reached past, step⟩) kept steady.1, ih steady.2⟩
  exact ⟨followed, heldSince_congr fun m hm => ⟨rfl, rounds m hm⟩⟩

/-! ### What is sent -/

/-- Rounds are sent where they are due and nowhere else, before the frames of the same moment and even if there are
none; and the consumers are asked to shut down only behind the round at the end of the stream. -/
theorem emitted_of_reached (made : ofConfig c = .ok r) {past : List Step} (next : Step)
    (steady : ∀ s ∈ next :: past, s.IsSteady) :
    let m : Moment := ⟨r.reached past, next⟩
    (m.before.isStarted → c.sources = .ok m.before.sources) ∧
      ∃ frames, (∀ e ∈ frames, e.isEndOfStream = false ∧ e.isShutdown = false) ∧
        m.emitted =
          (if roundDue c (r.history past) m then endOfStreamRound m.before.sources else []) ++ frames ++
            (if m.atEnd then (shutdownEnvelope? c.shutdownAuth m.before.sources).toList else []) := by
  intro m
  rw [List.forall_mem_cons] at steady
  have kept : m.before.IsOf c := isOf_reached (isOf_ofConfig made) past
  have boundary := boundary_eq kept (traced_reached made steady.2)
  refine ⟨fun started => kept.sources.resolve_left (by simpa [isStarted] using started), ?_⟩
  cases passes : m.admitted with
  | true =>
    obtain ⟨b, asked, passage⟩ := Moment.passage_of_admitted kept passes
    have midway : m.atEnd = false := by
      rw [Moment.atEnd, asked]
      simp
    have due : roundDue c (r.history past) m = m.before.tracker.boundary := by
      rw [roundDue, midway, passes, boundary]
      rfl
    rw [due, midway]
    cases passage with
    | interrupted shut => exact absurd steady.1.2 shut
    | broken shut => exact absurd steady.1.2 shut
    | refused handed emitted fails tracker => exact ⟨[], by simp, by rw [emitted, Moment.round]; simp⟩
    | sent p shown handed emitted succeeds tracker =>
      exact ⟨m.entered.fanOut p b, fun e he => frame_of_mem_fanOut he, by rw [emitted, Moment.round]; simp⟩
  | false =>
    have due : roundDue c (r.history past) m = m.atEnd := by
      rw [roundDue, passes]
      simp
    rw [due]
    cases ending : m.atEnd with
    | true =>
      have token : m.before.config.shutdownAuth = c.shutdownAuth := by rw [kept.config]
      refine ⟨[], by simp, ?_⟩
      rw [(Moment.atEnd_open ending steady.1.2).1, Moment.closing, token]
      simp
    | false =>
      obtain ⟨-, emitted, -⟩ := Moment.quiet_cases steady.1.1 passes ending
      exact ⟨[], by simp, by rw [emitted]; rfl⟩

/-- One source, and a token for shutting down. -/
def cameraConfig : Config := { sourceId := some "cam", shutdownAuth := some "token" }

def cameraRelay : Relay := { config := cameraConfig, tracker := .ofConfig cameraConfig }

/-- A frame of one file went out, and then another file was named. -/
def secondFile : List Step := [
  { operation := .relocate (some (.ofText "b.mp4")) },
  { operation := .transform {} },
  { operation := .negotiate { name := "video/x-h264", width := some 640, height := some 480 } },
  { operation := .relocate (some (.ofText "a.mp4")) },
  { operation := .start }]

/-- The frame of the second file comes behind a round, and the end of the stream behind one more and in front of the
request to shut down. -/
theorem emitted_secondFile :
    (let m : Moment := ⟨cameraRelay.reached secondFile, { operation := .transform {} }⟩
      ∃ frames, (∀ e ∈ frames, e.isEndOfStream = false ∧ e.isShutdown = false) ∧
        m.emitted = [Source.endOfStream ⟨"cam"⟩] ++ frames) ∧
    (let m : Moment := ⟨cameraRelay.reached secondFile, { operation := .handle .endOfStream }⟩
      ∃ frames, (∀ e ∈ frames, e.isEndOfStream = false ∧ e.isShutdown = false) ∧
        m.emitted = [Source.endOfStream ⟨"cam"⟩] ++ frames ++ [Source.envelope ⟨"cam"⟩ (.shutdown "token")]) := by
  have made : ofConfig cameraConfig = .ok cameraRelay := rfl
  have steady : ∀ s ∈ secondFile, s.IsSteady := by
    simp [secondFile, Step.IsSteady, Step.IsOpen]
  have sources : (cameraRelay.reached secondFile).sources = [⟨"cam"⟩] := by decide +kernel
  have boundary : roundDue cameraConfig (cameraRelay.history secondFile)
      ⟨cameraRelay.reached secondFile, { operation := .transform {} }⟩ = true := by decide +kernel
  have ending : roundDue cameraConfig (cameraRelay.history secondFile)
      ⟨cameraRelay.reached secondFile, { operation := .handle .endOfStream }⟩ = true := by decide +kernel
  constructor
  · obtain ⟨-, frames, plain, sent⟩ := emitted_of_reached made { operation := .transform {} }
      (List.forall_mem_cons.2 ⟨⟨by decide, rfl⟩, steady⟩)
    refine ⟨frames, plain, ?_⟩
    rw [sent, boundary, sources]
    simp [endOfStreamRound, Moment.atEnd]
  · obtain ⟨-, frames, plain, sent⟩ := emitted_of_reached made { operation := .handle .endOfStream }
      (List.forall_mem_cons.2 ⟨⟨by decide, rfl⟩, steady⟩)
    refine ⟨frames, plain, ?_⟩
    rw [sent, ending, sources]
    have there : Moment.atEnd ⟨cameraRelay.reached secondFile, { operation := .handle .endOfStream }⟩ = true := by
      decide +kernel
    rw [there]
    rfl

end FrameStream.Relay
