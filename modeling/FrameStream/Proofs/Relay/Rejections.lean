import FrameStream.Proofs.Relay.Interruptions
import FrameStream.Proofs.Relay.Reopening
import FrameStream.Proofs.Relay.Restarts
import FrameStream.Proofs.Relay.Settled

/-!
# Buffers that are refused

A buffer is refused because it comes too early, for faulty metadata, or for a frame type that cannot be produced.  The
refusal comes before any frame is built, so that it costs no frame, and no record: the records are those that were
there, or they were loaded just now and none of them is used (`metadata_prepared`).  All that may go out is the end of
the segment before, at a boundary whose metadata is faulty; for a frame type that cannot be produced there is no
boundary, as no segment ever begins (`inProgress_of_unsupported`).
-/

namespace FrameStream.Relay

variable {c : Config} {r : Relay} {m : Moment} {b : Buffer}

/-! ### Segments of a session -/

/-- Since the last stop the tracker knows what the history says. -/
theorem followed_session (made : ofConfig c = .ok r) (steps : List Step) :
    Followed (session (r.history steps)) (r.reached steps) := by
  induction steps with
  | nil => exact followed_ofConfig made
  | cons step past ih =>
    rw [history, session, List.takeWhile_cons]
    by_cases stops : step.operation = .stop
    · obtain ⟨operation, files, accepts⟩ := step
      obtain rfl : operation = .stop := stops
      exact ⟨rfl, rfl, rfl⟩
    · rw [if_pos (by simpa using stops)]
      exact followed_after (m := ⟨r.reached past, step⟩) (isOf_reached (isOf_ofConfig made) past) ih stops

/-- Only frame types that can be produced are sent. -/
theorem supported_of_succeeded (kept : m.before.IsOf c) (succeeds : m.succeeded) (name : String) :
    c.frameType ≠ .other name := by
  intro type
  obtain ⟨b, asked, -⟩ := Moment.passage_of_admitted kept (admitted_of_succeeded succeeds)
  obtain ⟨p, shown, -⟩ := sent_of_succeeded kept asked succeeds
  rcases content_cases (isOf_entered kept) shown.content with ⟨embedded, -⟩ | ⟨zeromq, -⟩
  · rw [embedded] at type
    cases type
  · rw [zeromq] at type
    cases type

/-- With a frame type that cannot be produced no segment ever begins. -/
theorem inProgress_of_unsupported (made : ofConfig c = .ok r) (steps : List Step) {name : String}
    (type : c.frameType = .other name) : (r.reached steps).tracker.inProgress = false := by
  by_contra begun
  rw [(followed_session made steps).inProgress, Bool.not_eq_false] at begun
  obtain ⟨m, there, succeeds⟩ := exists_of_heldSince begun
  have within : m ∈ r.history steps := (List.takeWhile_prefix _).subset there
  exact supported_of_succeeded (isOf_of_mem_history (isOf_ofConfig made) within) succeeds name type

/-! ### Records -/

/-- Metadata that is not fresh makes way for what is found now. -/
theorem metadata_reload (files : Files) {t : Tracker} (stale : t.isFresh = false) :
    (t.reload files).tracker.frameIndex = 0 ∧
      (t.reload files).tracker.records.getD [] =
        if t.readMetadata then Sidecar.recordsAt files t.location else [] := by
  cases reads : t.readMetadata with
  | true =>
    have loaded := pairedAt_reload files reads stale
    exact ⟨loaded.frameIndex.trans (Nat.zero_min _), loaded.records⟩
  | false =>
    unfold Tracker.reload
    rw [if_neg (by simp [stale]), reads]
    exact ⟨rfl, rfl⟩

/-- Before a frame the records are those that were there, or all of those that are loaded. -/
theorem metadata_prepared (asked : m.step.operation = .transform b) (passes : m.admitted) :
    (m.load? = none → m.prepared.tracker.frameIndex = m.before.tracker.frameIndex ∧
      m.prepared.tracker.records = m.before.tracker.records) ∧
    ∀ load, m.load? = some load → m.prepared.tracker.frameIndex = 0 ∧
      m.prepared.tracker.records.getD [] = if m.before.tracker.readMetadata then load.records else [] := by
  unfold Moment.load? Moment.prepared
  rw [asked, Tracker.prepare_eq_ite]
  dsimp only
  rw [passes, Bool.true_and]
  cases m.before.tracker.boundary ||
      (m.before.tracker.readMetadata && !sameLocation m.before.tracker.loadedFor.join m.before.tracker.location) with
  | false => exact ⟨fun _ => ⟨rfl, rfl⟩, fun load loads => by cases loads⟩
  | true =>
    rw [if_pos rfl, Bool.true_and]
    cases fresh : m.before.tracker.isFresh with
    | true =>
      have unused : m.before.tracker.advance.isFresh = true := fresh
      rw [Tracker.reload_of_isFresh m.step.files unused]
      exact ⟨fun _ => ⟨rfl, rfl⟩, fun load loads => by cases loads⟩
    | false =>
      have stale : m.before.tracker.advance.isFresh = false := fresh
      constructor
      · intro unloaded
        cases unloaded
      · intro load loads
        cases loads
        exact metadata_reload m.step.files stale

/-! ### Refusals -/

/-- An admitted buffer is refused by the sink, or for what is found against it once the round is out. -/
theorem refusal_cases (kept : m.before.IsOf c) (asked : m.step.operation = .transform b) (passes : m.admitted)
    {e : Refusal} (fails : m.outcome.result = .error e) :
    (¬ m.step.IsOpen ∧ e = .sinkClosed) ∨
      (m.objection? b = some e ∧ m.handed = m.round ∧ m.emitted = m.round ∧ m.after = m.entered) := by
  obtain ⟨b', asked', passage⟩ := Moment.passage_of_admitted kept passes
  obtain rfl : b' = b := Operation.transform.inj (asked'.symm.trans asked)
  cases passage with
  | interrupted shut _ _ _ _ _ _ result => exact .inl ⟨shut, Except.error.inj (fails.symm.trans result)⟩
  | broken shut _ _ _ _ _ _ _ result => exact .inl ⟨shut, Except.error.inj (fails.symm.trans result)⟩
  | refused handed emitted _ _ _ after result =>
    obtain ⟨e', objection, result⟩ := result
    obtain rfl : e' = e := Except.error.inj (result.symm.trans fails)
    exact .inr ⟨objection, handed, emitted, after⟩
  | sent p shown handed emitted succeeds =>
    rw [Moment.succeeded, fails, Bool.and_comm] at succeeds
    cases succeeds

/-- A buffer that an open sink gets no frame of is refused for coming too early, or for what is found against it. -/
inductive Rejected (m : Moment) (b : Buffer) (e : Refusal) : Prop where
  | early (refused : m.admitted = false) (handed : m.handed = []) (emitted : m.emitted = [])
      (after : m.after = m.before)
  | found (passes : m.admitted = true) (objection : m.objection? b = some e) (handed : m.handed = m.round)
      (emitted : m.emitted = m.round) (after : m.after = m.entered)

theorem rejected_cases (kept : m.before.IsOf c) (taken : m.step.IsOpen) (asked : m.step.operation = .transform b)
    {e : Refusal} (fails : m.outcome.result = .error e) : Rejected m b e := by
  cases passes : m.admitted with
  | false =>
    obtain ⟨handed, emitted, after, -⟩ := early_of_refused asked passes
    exact .early passes handed emitted after
  | true =>
    rcases refusal_cases kept asked passes fails with ⟨shut, -⟩ | ⟨objection, handed, emitted, after⟩
    · exact absurd taken shut
    · exact .found passes objection handed emitted after

/-- What is found against a buffer at a boundary is faulty metadata. -/
theorem fault_of_boundary (made : ofConfig c = .ok r) (past : List Step) {next : Step} {e : Refusal} :
    let m : Moment := ⟨r.reached past, next⟩
    m.before.tracker.boundary = true → m.objection? b = some e →
      ∃ f, (m.before.tracker.advance.reload m.step.files).failure = some f ∧ e = .sidecar f := by
  intro m boundary objection
  have kept : m.entered.IsOf c := isOf_entered (isOf_reached (isOf_ofConfig made) past)
  have prepared : m.prepared = m.before.tracker.advance.reload m.step.files := if_pos boundary
  unfold Moment.objection? at objection
  rw [prepared] at objection
  cases fault : (m.before.tracker.advance.reload m.step.files).failure with
  | some f =>
    rw [fault] at objection
    exact ⟨f, rfl, (Option.some.inj objection).symm⟩
  | none =>
    -- a frame type that cannot be produced has no boundaries
    rw [fault] at objection
    cases content : m.entered.contentOf b with
    | ok content' =>
      rw [content] at objection
      cases objection
    | error name =>
      have type := frameType_of_unsupported (by rw [kept.config]) content
      rw [Tracker.boundary_of_idle (inProgress_of_unsupported made past type)] at boundary
      cases boundary

/-- A refused buffer costs nothing: at most the round of a boundary goes out, if the metadata behind it is faulty, but
no frame of any source; no record is used; and the relay keeps its configuration, its sources, its format and its
place.  A buffer that comes too early changes nothing at all. -/
theorem rejected_of_reached (made : ofConfig c = .ok r) (past : List Step) (b : Buffer) (files : Files)
    {e : Refusal} :
    let m : Moment := ⟨r.reached past, { operation := .transform b, files }⟩
    m.outcome.result = .error e →
      (m.emitted = [] ∧ m.after.tracker.inProgress = m.before.tracker.inProgress ∨
        m.emitted = endOfStreamRound m.before.sources ∧ m.after.tracker.inProgress = false ∧
          m.before.tracker.boundary = true ∧
            ∃ f, (m.before.tracker.advance.reload files).failure = some f ∧ e = .sidecar f) ∧
      m.frames = [] ∧
      (m.load? = none → m.after.tracker.frameIndex = m.before.tracker.frameIndex ∧
        m.after.tracker.records = m.before.tracker.records) ∧
      (∀ load, m.load? = some load → m.after.tracker.frameIndex = 0 ∧
        m.after.tracker.records.getD [] = if c.readMetadata then load.records else []) ∧
      m.after = { m.before with tracker := m.after.tracker } ∧ m.after.format? = m.before.format? ∧
      m.after.location? = m.before.location? ∧
      (e = .notStarted ∨ e = .notNegotiated → m.after = m.before) := by
  intro m fails
  have kept : m.before.IsOf c := isOf_reached (isOf_ofConfig made) past
  cases rejected_cases kept rfl rfl fails with
  | early refused handed emitted after =>
    have unloaded : m.load? = none := load?_of_refused rfl refused
    refine ⟨.inl ⟨emitted, by rw [after]⟩, by rw [Moment.frames, handed]; rfl, ?_⟩
    rw [after]
    refine ⟨fun _ => ⟨rfl, rfl⟩, fun load loads => ?_, rfl, rfl, rfl, fun _ => rfl⟩
    rw [unloaded] at loads
    cases loads
  | found passes objection handed emitted after =>
    have stream := m.sameStream_entered
    obtain ⟨-, -, inProgress⟩ := entered_eq m
    have entered : m.entered.tracker.frameIndex = m.prepared.tracker.frameIndex ∧
        m.entered.tracker.records = m.prepared.tracker.records := by
      unfold Moment.entered Tracker.enter
      split <;> exact ⟨rfl, rfl⟩
    obtain ⟨unchanged, loaded⟩ := metadata_prepared (m := m) rfl passes
    refine ⟨?_, ?_, ?_, ?_, ?_⟩
    · rw [emitted, Moment.round, after, inProgress]
      cases boundary : m.before.tracker.boundary with
      | false => exact .inl ⟨rfl, Bool.true_and _⟩
      | true => exact .inr ⟨rfl, rfl, rfl, fault_of_boundary made past boundary objection⟩
    · rw [Moment.frames, handed]
      exact (frames_round m 0).1
    · rw [after, entered.1, entered.2]
      exact unchanged
    · rw [after, entered.1, entered.2, ← kept.readMetadata]
      exact loaded
    · rw [after]
      refine ⟨rfl, stream.format, stream.location, ?_⟩
      unfold Moment.objection? at objection
      rintro (rfl | rfl)
      all_goals
        split at objection
        · cases objection
        · split at objection <;> cases objection

/-- A frame of the first file took one of its two records, and then another file was named. -/
def nextNamed : List Step := [
  { operation := .relocate (some (.ofText "b.mp4")) },
  { operation := .transform {}, files := recordingFiles },
  { operation := .relocate (some (.ofText "a.mp4")) },
  { operation := .negotiate { name := "video/x-h264", width := some 640, height := some 480 } },
  { operation := .start }]

/-- The sidecar of the other file is cut off. -/
def nextFaulty : Files := { files := [([Utf8.encode "b.json"], Utf8.encode "[")] }

/-- Both sources are told of the end of the first file, and that is all. -/
theorem rejected_nextNamed :
    let m : Moment := ⟨wornRelay.reached nextNamed, { operation := .transform {}, files := nextFaulty }⟩
    m.outcome.result = .error (.sidecar (.record (.ofText "b.json") 0 .truncated)) ∧
      m.emitted = [Source.endOfStream ⟨"cam-0"⟩, Source.endOfStream ⟨"cam-1"⟩] ∧ m.frames = [] ∧
      (m.before.tracker.inProgress = true ∧ m.after.tracker.inProgress = false) ∧
      (m.before.tracker.frameIndex = 1 ∧ m.after.tracker.frameIndex = 0 ∧ m.after.tracker.records.getD [] = []) ∧
      m.after.location? = some (.ofText "b.mp4") := by
  dsimp only
  have made : ofConfig wornConfig = .ok wornRelay := rfl
  obtain ⟨fails, some_sent, sources, location, begun, used, looked⟩ :
      let m : Moment := ⟨wornRelay.reached nextNamed, { operation := .transform {}, files := nextFaulty }⟩
      m.outcome.result = .error (.sidecar (.record (.ofText "b.json") 0 .truncated)) ∧ m.emitted ≠ [] ∧
      m.before.sources = [⟨"cam-0"⟩, ⟨"cam-1"⟩] ∧ m.before.location? = some (.ofText "b.mp4") ∧
      m.before.tracker.inProgress = true ∧ m.before.tracker.frameIndex = 1 ∧
      (m.load?.map fun load => load.records.length) = some 0 := by decide +kernel
  obtain ⟨round, plain, -, loaded, -, -, place, -⟩ := rejected_of_reached made nextNamed {} nextFaulty fails
  obtain ⟨sent, ended, -, -⟩ := round.resolve_left fun nothing => some_sent nothing.1
  obtain ⟨load, loads, nothing⟩ := Option.map_eq_some_iff.1 looked
  obtain ⟨index, records⟩ := loaded load loads
  refine ⟨fails, ?_, plain, ⟨begun, ended⟩, ⟨used, index, ?_⟩, place.trans location⟩
  · rw [sent, sources]
    rfl
  · rw [records, List.length_eq_zero_iff.1 nothing, ite_self]

end FrameStream.Relay
