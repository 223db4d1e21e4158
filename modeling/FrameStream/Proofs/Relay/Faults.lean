import FrameStream.Proofs.Relay.Rejections

/-!
# Faulty metadata

A faulty sidecar costs a file its records, and the step that found out is refused: the file that is opened, or a
buffer.  After that the relay counts as having looked there in vain (`isBareFor_of_fault`).  As long as the buffers
come from the same place it does not look again, not even at a boundary and whatever becomes of the sidecar; so that no
other buffer is refused for it, the frames go out without objects, and the streams end where they would anyway
(`spared_of_reached`).
-/

namespace FrameStream

/-! ### Metadata that was looked for in vain -/

namespace Tracker

variable {files : Files} {t : Tracker} {place : Option Path}

/-- Metadata was looked for at the place, and there is none. -/
structure IsBareFor (t : Tracker) (place : Option Path) : Prop where
  loadedFor : ∃ l, t.loadedFor = some l ∧ sameLocation l place
  records : t.records = none
  frameIndex : t.frameIndex = 0

/-- A load that fails leaves no records. -/
theorem isBareFor_of_reload {f : SidecarFault} (fault : (t.reload files).failure = some f) :
    (t.reload files).tracker.IsBareFor t.location := by
  unfold reload at fault ⊢
  split at fault
  · cases fault
  · rename_i stale
    rw [if_neg stale]
    dsimp only at fault ⊢
    split at fault
    · split at fault
      · exact ⟨⟨_, rfl, sameLocation_refl _⟩, rfl, rfl⟩
      · cases fault
      · cases fault
    · cases fault

theorem isBareFor_of_onTag {location : Path} {f : SidecarFault}
    (fault : (t.onTag files location).failure = some f) :
    (t.onTag files location).tracker.IsBareFor (some location) :=
  isBareFor_of_reload (t := { t with location := some location, reopened := true }) fault

theorem isBareFor_of_prepare {f : SidecarFault} (fault : (t.prepare files).failure = some f) :
    (t.prepare files).tracker.IsBareFor t.location := by
  rw [prepare_eq_ite] at fault ⊢
  split at fault
  · rename_i looks
    rw [if_pos looks]
    exact isBareFor_of_reload (t := t.advance) fault
  · cases fault

/-- At the same place metadata is not looked for again, whether or not there is a boundary. -/
theorem IsBareFor.prepare (bare : t.IsBareFor place) (there : sameLocation t.location place) :
    t.prepare files = { tracker := t.advance } := by
  obtain ⟨l, loaded, same⟩ := bare.loadedFor
  have here : sameLocation l t.location := sameLocation_trans same (sameLocation_symm there)
  have fresh : t.advance.isFresh = true := by
    have loadedFor : t.advance.loadedFor = some l := loaded
    have index : t.advance.frameIndex = 0 := bare.frameIndex
    unfold isFresh
    rw [loadedFor, index]
    exact here
  rw [prepare_eq_ite]
  split
  · exact reload_of_isFresh files fresh
  · rfl

theorem IsBareFor.enter {prepared : Tracker} (bare : prepared.IsBareFor place) (t : Tracker) :
    (t.enter prepared).IsBareFor place := by
  unfold Tracker.enter
  split <;> exact ⟨bare.loadedFor, bare.records, bare.frameIndex⟩

theorem IsBareFor.nextRecord (bare : t.IsBareFor place) : t.nextRecord = (none, t) := by
  unfold Tracker.nextRecord
  rw [bare.records]
  split <;> rfl

end Tracker

namespace Relay

variable {c : Config} {r : Relay} {m : Moment} {b : Buffer} {place : Option Path}

/-- A file that is opened in vain. -/
private theorem isBareFor_opened {location : String} (asked : m.step.operation = .handle (.tag (some location)))
    {f : SidecarFault} (fails : m.outcome.result = .error (.sidecar f)) :
    m.after.tracker.IsBareFor m.after.location? := by
  obtain ⟨result, tracker⟩ := outcome_opened asked
  have there := (m.before.tracker.sameStream_onTag m.step.files (.ofText location)).location
  cases fault : (m.before.tracker.onTag m.step.files (.ofText location)).failure with
  | some g =>
    rw [location?, tracker, there]
    exact Tracker.isBareFor_of_onTag fault
  | none =>
    rw [result, fault] at fails
    cases fails

/-- A buffer that is refused for its metadata. -/
private theorem isBareFor_transformed (kept : m.before.IsOf c) (asked : m.step.operation = .transform b)
    {f : SidecarFault} (fails : m.outcome.result = .error (.sidecar f)) :
    m.after.tracker.IsBareFor m.after.location? := by
  cases passes : m.admitted with
  | false =>
    obtain ⟨-, -, -, result | result⟩ := early_of_refused asked passes
    all_goals cases result.symm.trans fails
  | true =>
    rcases refusal_cases kept asked passes fails with ⟨-, closed⟩ | ⟨objection, -, -, after⟩
    · cases closed
    · rw [after, location?, m.sameStream_entered.location]
      unfold Moment.objection? at objection
      split at objection
      · rename_i g fault
        exact (Tracker.isBareFor_of_prepare fault).enter m.before.tracker
      · split at objection <;> cases objection

/-- A fault that is found when a file is opened or before a frame leaves the relay without records for its place. -/
theorem isBareFor_of_fault (kept : m.before.IsOf c) (asked : m.opensFile ∨ m.step.operation.isTransform)
    {f : SidecarFault} (fails : m.outcome.result = .error (.sidecar f)) :
    m.after.tracker.IsBareFor m.after.location? := by
  rcases asked with opens | asks
  · unfold Moment.opensFile at opens
    split at opens
    · rename_i location asked
      exact isBareFor_opened asked fails
    · cases opens
  · obtain ⟨b, asked⟩ := Operation.exists_buffer asks
    exact isBareFor_transformed kept asked fails

/-! ### At the same place -/

/-- The session goes on, no file is opened, and a buffer is one from the place. -/
structure Moment.StaysAt (m : Moment) (place : Option Path) : Prop where
  runs : m.step.operation ≠ .stop
  unopened : m.opensFile = false
  place : m.admitted → sameLocation m.before.location? place

/-- Before a frame nothing is looked for. -/
theorem entered_of_isBareFor (bare : m.before.tracker.IsBareFor place)
    (there : sameLocation m.before.location? place) :
    m.prepared = { tracker := m.before.tracker.advance } ∧ m.entered.tracker.IsBareFor place := by
  have prepared : m.prepared = { tracker := m.before.tracker.advance } := bare.prepare there
  have advanced : m.before.tracker.advance.IsBareFor place := ⟨bare.loadedFor, bare.records, bare.frameIndex⟩
  refine ⟨prepared, ?_⟩
  rw [Moment.entered, prepared]
  exact advanced.enter m.before.tracker

/-- What was looked for in vain is not looked for again. -/
theorem isBareFor_after (kept : m.before.IsOf c) (bare : m.before.tracker.IsBareFor place)
    (stays : m.StaysAt place) : m.after.tracker.IsBareFor place := by
  have unchanged {t : Tracker} (loadedFor : t.loadedFor = m.before.tracker.loadedFor)
      (records : t.records = m.before.tracker.records) (index : t.frameIndex = m.before.tracker.frameIndex) :
      t.IsBareFor place := ⟨loadedFor ▸ bare.loadedFor, records ▸ bare.records, index ▸ bare.frameIndex⟩
  cases passes : m.admitted with
  | true =>
    obtain ⟨prepared, entered⟩ := entered_of_isBareFor bare (stays.place passes)
    rcases frames_cases kept passes with ⟨-, tracker | tracker⟩ | ⟨-, -, tracker | tracker⟩
    · rw [tracker, prepared]
      exact unchanged rfl rfl rfl
    · exact tracker ▸ entered
    · rw [tracker, entered.nextRecord]
      exact entered
    · rw [tracker, entered.nextRecord]
      exact ⟨entered.loadedFor, entered.records, entered.frameIndex⟩
  | false =>
    cases ending : m.atEnd with
    | true =>
      rcases Moment.atEnd_tracker ending with tracker | tracker
      · exact tracker ▸ bare
      · exact tracker ▸ unchanged rfl rfl rfl
    | false =>
      obtain ⟨-, -, -, change⟩ := Moment.quiet_cases stays.runs passes ending
      cases change with
      | opened location opens =>
        have unopened := stays.unopened
        rw [Moment.opensFile, opens] at unopened
        cases unopened
      | moved location _ tracker => exact tracker ▸ unchanged rfl rfl rfl
      | other _ format tracker => exact tracker ▸ unchanged rfl rfl rfl

theorem isBareFor_reached (kept : r.IsOf c) (bare : r.tracker.IsBareFor place) {steps : List Step}
    (stay : ∀ n ∈ r.history steps, n.StaysAt place) : (r.reached steps).tracker.IsBareFor place := by
  induction steps with
  | nil => exact bare
  | cons step past ih =>
    rw [history, List.forall_mem_cons] at stay
    exact isBareFor_after (m := ⟨r.reached past, step⟩) (isOf_reached kept past) (ih stay.2) stay.1

/-- Without a look at the metadata the frame type is all that can be found against a buffer. -/
theorem frameType_of_objection (kept : m.before.IsOf c)
    (prepared : m.prepared = { tracker := m.before.tracker.advance }) {e : Refusal}
    (objection : m.objection? b = some e) : ∃ name, e = .frameType name ∧ c.frameType = .other name := by
  unfold Moment.objection? at objection
  rw [prepared] at objection
  dsimp only at objection
  split at objection
  · rename_i name content
    cases objection
    exact ⟨name, rfl, frameType_of_unsupported (by rw [(isOf_entered kept).config]) content⟩
  · cases objection

/-- A buffer from a place that was looked at in vain is refused only for what it would be refused for anyway. -/
theorem spared_of_isBareFor (kept : m.before.IsOf c) (bare : m.before.tracker.IsBareFor place)
    (asked : m.step.operation = .transform b) (there : m.admitted → sameLocation m.before.location? place) :
    (∀ g, m.outcome.result ≠ .error (.sidecar g)) ∧
      (m.builds → m.Carries []) ∧
      (m.admitted → m.step.IsOpen → m.succeeded ∨ ∃ name, c.frameType = .other name) := by
  cases passes : m.admitted with
  | false =>
    obtain ⟨handed, -, -, result⟩ := early_of_refused asked passes
    refine ⟨fun g fails => ?_, fun builds => ?_, fun passes => by cases passes⟩
    · rcases result with result | result
      all_goals cases result.symm.trans fails
    · rw [Moment.builds, Moment.frames, handed, List.filter_nil, Bool.and_comm] at builds
      cases builds
  | true =>
    obtain ⟨prepared, entered⟩ := entered_of_isBareFor bare (there passes)
    refine ⟨fun g fails => ?_, fun builds => ?_, fun _ taken => ?_⟩
    · rcases refusal_cases kept asked passes fails with ⟨-, closed⟩ | ⟨objection, -⟩
      · cases closed
      · obtain ⟨name, other, -⟩ := frameType_of_objection kept prepared objection
        cases other
    · rcases frames_cases kept passes with ⟨idle, -⟩ | ⟨-, ⟨p, b, metadata, front, whole⟩, -⟩
      · rw [builds] at idle
        cases idle
      · rw [entered.nextRecord] at metadata
        refine ⟨fun s => p.frame s.id, p.timing, _, fun s => ⟨p.sourceId_frame s.id, ?_⟩, front, whole⟩
        rw [p.objects_frame, metadata]
        rfl
    · cases result : m.outcome.result with
      | ok sent =>
        left
        rw [Moment.succeeded, asked, result]
        rfl
      | error e =>
        rcases refusal_cases kept asked passes result with ⟨shut, -⟩ | ⟨objection, -⟩
        · exact absurd taken shut
        · obtain ⟨name, -, type⟩ := frameType_of_objection kept prepared objection
          exact .inr ⟨name, type⟩

/-- A faulty sidecar is the trouble of one step.  When a file or a buffer was refused for it, no later buffer of the
session is, as long as no file is opened and the buffers come from the place that the relay was left at, whatever
becomes of the sidecar.  The frames carry no objects, rounds are sent where they are due, and a buffer that comes
neither too early nor with a frame type that cannot be produced goes through to an open sink. -/
theorem spared_of_reached (made : ofConfig c = .ok r) (past : List Step) (faulty : Step) {f : SidecarFault}
    (later : List Step) (b : Buffer) (files : Files) (accepts : Nat → Bool) :
    let failed : Moment := ⟨r.reached past, faulty⟩
    let next : Step := { operation := .transform b, files, accepts }
    let history := session (r.history (later ++ faulty :: past))
    let m : Moment := ⟨r.reached (later ++ faulty :: past), next⟩
    failed.opensFile ∨ faulty.operation.isTransform → failed.outcome.result = .error (.sidecar f) →
    (∀ n ∈ failed.after.history (next :: later), n.StaysAt failed.after.location?) →
      (∀ g, m.outcome.result ≠ .error (.sidecar g)) ∧
      (m.builds → m.Carries []) ∧
      (m.admitted → next.IsOpen →
        m.emitted.filter Envelope.isEndOfStream =
          (if heldSince Moment.succeeded Moment.completesRound history && boundaryBefore c history m
            then endOfStreamRound m.before.sources else []) ∧
        (m.succeeded ∨ ∃ name, c.frameType = .other name)) := by
  intro failed next history m asked fails stay
  rw [Relay.history, List.forall_mem_cons] at stay
  have kept : m.before.IsOf c := isOf_reached (isOf_ofConfig made) _
  have failing : failed.before.IsOf c := isOf_reached (isOf_ofConfig made) past
  have later_reached : m.before = failed.after.reached later := reached_append r later (faulty :: past)
  have bare : m.before.tracker.IsBareFor failed.after.location? := by
    rw [later_reached]
    exact isBareFor_reached (isOf_after failing) (isBareFor_of_fault failing asked fails) stay.2
  have there : m.admitted → sameLocation m.before.location? failed.after.location? := by
    have place := stay.1.place
    rw [← later_reached] at place
    exact place
  obtain ⟨spared, plain, served⟩ := spared_of_isBareFor kept bare rfl there
  refine ⟨spared, plain, fun passes taken => ⟨?_, served passes taken⟩⟩
  have followed : Followed history m.before := followed_session made (later ++ faulty :: past)
  rw [(ends_of_admitted kept passes).2 taken, Moment.round, boundary_of_followed kept followed, followed.inProgress]

/-- A stream is about to begin. -/
def awaited : List Step := [
  { operation := .negotiate { name := "video/x-h264", width := some 640, height := some 480 } },
  { operation := .start }]

/-- A file is opened whose sidecar is cut off. -/
def openedInVain : Step where
  operation := .handle (.tag (some "a.mp4"))
  files := { files := [([Utf8.encode "a.json"], Utf8.encode "[")] }

/-- The sidecar is repaired before the first frame, and the format changes behind it. -/
def repaired : List Step := [
  { operation := .negotiate { name := "video/x-h264", width := some 1280, height := some 720 } },
  { operation := .transform {}, files := recordingFiles }]

/-- The frame in the new format comes behind the round, and neither the sidecar nor its repair is noticed. -/
theorem spared_repaired :
    let failed : Moment := ⟨recordingRelay.reached awaited, openedInVain⟩
    let next : Step := { operation := .transform {}, files := recordingFiles }
    let m : Moment := ⟨recordingRelay.reached (repaired ++ openedInVain :: awaited), next⟩
    failed.outcome.result = .error (.sidecar (.record (.ofText "a.json") 0 .truncated)) ∧
      (m.builds ∧ m.succeeded) ∧ m.Carries [] ∧
      m.emitted.filter Envelope.isEndOfStream = [Source.endOfStream ⟨"cam"⟩] := by
  dsimp only
  have made := ofConfig_recordingConfig
  let failed : Moment := ⟨recordingRelay.reached awaited, openedInVain⟩
  let next : Step := { operation := .transform {}, files := recordingFiles }
  let m : Moment := ⟨recordingRelay.reached (repaired ++ openedInVain :: awaited), next⟩
  have fails : failed.outcome.result = .error (.sidecar (.record (.ofText "a.json") 0 .truncated)) := by
    decide +kernel
  have steady : ∀ n ∈ failed.after.history (next :: repaired), n.step.operation ≠ .stop ∧ n.opensFile = false ∧
      sameLocation n.before.location? failed.after.location? = true := by decide +kernel
  obtain ⟨builds, passes, sources, due⟩ : m.builds = true ∧ m.admitted = true ∧ m.before.sources = [⟨"cam"⟩] ∧
      (heldSince Moment.succeeded Moment.completesRound
          (session (recordingRelay.history (repaired ++ openedInVain :: awaited))) &&
        boundaryBefore recordingConfig
          (session (recordingRelay.history (repaired ++ openedInVain :: awaited))) m) = true := by decide +kernel
  obtain ⟨-, plain, served⟩ := spared_of_reached made awaited openedInVain repaired {} recordingFiles (fun _ => true)
    (.inl rfl) fails fun n hn => ⟨(steady n hn).1, (steady n hn).2.1, fun _ => (steady n hn).2.2⟩
  obtain ⟨round, sent⟩ := served passes rfl
  refine ⟨fails, ⟨builds, sent.resolve_right ?_⟩, plain builds, ?_⟩
  · rintro ⟨name, type⟩
    cases type
  · rw [round, if_pos due, sources]
    rfl

end Relay

end FrameStream
