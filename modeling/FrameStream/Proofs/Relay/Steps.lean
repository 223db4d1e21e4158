import FrameStream.Proofs.Message.Kinds
import FrameStream.Proofs.Relay.Run

/-!
# What single steps do

A step is either the end of the stream, a buffer that passes the checks of the relay, or *quiet*: it hands nothing to
the sink, and all it may change is the location, the format or the metadata (`quiet_cases`).
-/

namespace FrameStream.Relay

/-- Frames end nothing, and ask nobody to shut down. -/
theorem frame_of_mem_fanOut {r : Relay} {p : Picture} {b : Buffer} {e : Envelope} (h : e ∈ r.fanOut p b) :
    e.isEndOfStream = false ∧ e.isShutdown = false := by
  obtain ⟨s, -, rfl⟩ := List.mem_map.1 h
  exact ⟨Source.isEndOfStream_frame _ _ _ _, Source.isShutdown_frame _ _ _ _⟩

def Operation.isTransform : Operation → Bool
  | .transform _ => true
  | _ => false

theorem Operation.exists_buffer {o : Operation} (h : o.isTransform) : ∃ b, o = .transform b := by
  cases o with
  | transform b => exact ⟨b, rfl⟩
  | _ => cases h

namespace Moment

/-- A buffer that comes after the relay was started and a format negotiated. -/
def admitted (m : Moment) : Bool :=
  m.step.operation.isTransform && m.before.isStarted && m.before.initialSize.isSome

/-- The stream is at its end, as the host says. -/
def atEnd (m : Moment) : Bool := m.before.isStarted && m.step.operation == .handle .endOfStream

theorem asked_of_atEnd {m : Moment} (h : m.atEnd) : m.step.operation = .handle .endOfStream := by
  rw [atEnd, Bool.and_eq_true, beq_iff_eq] at h
  exact h.2

/-- A file was opened, perhaps again. -/
def opensFile (m : Moment) : Bool :=
  match m.step.operation with
  | .handle (.tag (some _)) => true
  | _ => false

/-- A frame was made of a buffer and handed over to every source. -/
def succeeded (m : Moment) : Bool := m.step.operation.isTransform && m.outcome.result.isOk

/-- The envelopes that are handed over: to the sink, whether it takes them or not, and then to the host. -/
def handed (m : Moment) : List Envelope := m.script.offered m.step.accepts 0 ++ m.primary

theorem mem_handed_of_mem_emitted {m : Moment} {e : Envelope} (he : e ∈ m.emitted) : e ∈ m.handed := by
  rcases List.mem_append.1 he with pushed | left
  · exact List.mem_append_left _ (Script.pushed_subset_offered _ _ _ pushed)
  · exact List.mem_append_right _ left

/-- The caps that are accepted at this moment. -/
def acceptedCaps? (m : Moment) : Option Caps :=
  match m.step.operation with
  | .negotiate caps | .handle (.caps caps) =>
    if (StreamFormat.ofCaps caps m.before.config.framerate).isOk then some caps else none
  | _ => none

/-- The format that caps bring which are accepted now, or else the one that was there. -/
def nextFormat (m : Moment) : Option StreamFormat :=
  match m.acceptedCaps? with
  | some caps => (StreamFormat.ofCaps caps m.before.config.framerate).toOption
  | none => m.before.tracker.format

/-! ### Quiet steps -/

/-- All that a quiet step may change. -/
inductive QuietChange (m : Moment) : Prop where
  | opened (location : String) (h : m.step.operation = .handle (.tag (some location)))
      (tracker : m.after.tracker = (m.before.tracker.onTag m.step.files (.ofText location)).tracker)
  | moved (location : Option Path) (h : m.step.operation = .relocate location)
      (tracker : m.after.tracker = m.before.tracker.setLocation location)
  | other (h : m.opensFile = false) (format : Option StreamFormat)
      (tracker : m.after.tracker = { m.before.tracker with format }) (next : format = m.nextFormat)

/-- A script without pushes that leaves nothing to the host. -/
private theorem outcome_of_script {m : Moment} (notices : List Notice)
    {result : Except Refusal (Option Envelope)} {state : Relay}
    (script : m.script = .noteAll notices (.done result state))
    (nothing : (result = .ok none ∧ m.step.operation.isTransform = false) ∨ ∃ f, result = .error f) :
    m.handed = [] ∧ m.emitted = [] ∧ m.succeeded = false ∧ m.after = state := by
  have outcome : m.outcome = ⟨result, state, [], notices⟩ := by
    rw [Moment.outcome, script, Script.run_noteAll, Script.run, List.append_nil]
  have offered : m.script.offered m.step.accepts 0 = [] := by
    rw [script, Script.offered_noteAll]
    rfl
  unfold handed emitted primary succeeded after
  rw [offered, outcome]
  rcases nothing with ⟨rfl, other⟩ | ⟨f, rfl⟩
  · exact ⟨rfl, rfl, by rw [other]; rfl, rfl⟩
  · exact ⟨rfl, rfl, Bool.and_false _, rfl⟩

private theorem quiet_negotiate {m : Moment} {caps : Caps} (other : m.step.operation.isTransform = false)
    (unopened : m.opensFile = false) (script : m.script = (m.before.negotiate caps).map fun _ => none)
    (accepted : m.acceptedCaps? =
      if (StreamFormat.ofCaps caps m.before.config.framerate).isOk then some caps else none) :
    m.handed = [] ∧ m.emitted = [] ∧ m.succeeded = false ∧ m.QuietChange := by
  unfold negotiate at script
  cases made : StreamFormat.ofCaps caps m.before.config.framerate with
  | error reason =>
    rw [made] at script
    rw [made] at accepted
    obtain ⟨handed, emitted, fails, after⟩ := outcome_of_script [_] script (.inr ⟨_, rfl⟩)
    refine ⟨handed, emitted, fails, .other unopened m.before.tracker.format (by rw [after]) ?_⟩
    rw [nextFormat, accepted]
    rfl
  | ok format =>
    rw [made] at script
    rw [made] at accepted
    obtain ⟨handed, emitted, fails, after⟩ := outcome_of_script [] script (.inl ⟨rfl, other⟩)
    refine ⟨handed, emitted, fails, .other unopened (some format) (by rw [after]; rfl) ?_⟩
    have taken : m.acceptedCaps? = some caps := accepted
    rw [nextFormat, taken]
    dsimp only
    rw [made]
    rfl

private theorem quiet_start {m : Moment} (h : m.step.operation = .start) :
    m.handed = [] ∧ m.emitted = [] ∧ m.succeeded = false ∧ m.QuietChange := by
  have other : m.step.operation.isTransform = false := by
    rw [h]
    rfl
  have unopened : m.opensFile = false := by
    rw [opensFile, h]
  have script : m.script = m.before.start.map fun _ => none := by
    rw [Moment.script, h]
    rfl
  have next : m.before.tracker.format = m.nextFormat := by
    rw [nextFormat, acceptedCaps?, h]
  unfold start at script
  cases made : m.before.config.sources with
  | error e =>
    rw [made] at script
    obtain ⟨handed, emitted, fails, after⟩ := outcome_of_script [_] script (.inr ⟨e, rfl⟩)
    exact ⟨handed, emitted, fails, .other unopened m.before.tracker.format (by rw [after]) next⟩
  | ok sources =>
    rw [made] at script
    obtain ⟨handed, emitted, fails, after⟩ := outcome_of_script [] script (.inl ⟨rfl, other⟩)
    exact ⟨handed, emitted, fails, .other unopened m.before.tracker.format (by rw [after]) next⟩

private theorem quiet_openFile {m : Moment} {location : String}
    (h : m.step.operation = .handle (.tag (some location))) :
    m.handed = [] ∧ m.emitted = [] ∧ m.succeeded = false ∧ m.QuietChange := by
  have other : m.step.operation.isTransform = false := by
    rw [h]
    rfl
  have script : m.script = (m.before.openFile m.step.files (.ofText location)).map fun _ => none := by
    rw [Moment.script, h]
    rfl
  unfold openFile at script
  dsimp only at script
  cases fault : (m.before.tracker.onTag m.step.files (.ofText location)).failure with
  | some f =>
    rw [fault, Script.map_noteAll] at script
    obtain ⟨handed, emitted, fails, after⟩ := outcome_of_script _ script (.inr ⟨_, rfl⟩)
    exact ⟨handed, emitted, fails, .opened location h (by rw [after])⟩
  | none =>
    rw [fault, Script.map_noteAll] at script
    obtain ⟨handed, emitted, fails, after⟩ := outcome_of_script _ script (.inl ⟨rfl, other⟩)
    exact ⟨handed, emitted, fails, .opened location h (by rw [after])⟩

/-- A step that is neither the end of the stream nor an admitted buffer hands nothing over. -/
theorem quiet_cases {m : Moment} (stays : m.step.operation ≠ .stop) (refused : m.admitted = false)
    (midway : m.atEnd = false) :
    m.handed = [] ∧ m.emitted = [] ∧ m.succeeded = false ∧ m.QuietChange := by
  obtain ⟨r, operation, files, accepts⟩ := m
  cases operation with
  | start => exact quiet_start rfl
  | stop => exact absurd rfl stays
  | negotiate caps => exact quiet_negotiate rfl rfl rfl rfl
  | relocate location => exact ⟨rfl, rfl, rfl, .moved location rfl rfl⟩
  | handle event =>
    match event with
    | .caps caps => exact quiet_negotiate rfl rfl rfl rfl
    | .tag none => exact ⟨rfl, rfl, rfl, .other rfl r.tracker.format rfl rfl⟩
    | .tag (some location) => exact quiet_openFile rfl
    | .endOfStream =>
      have stopped : r.sources.isEmpty := by simpa [atEnd, isStarted] using midway
      have script : (Moment.mk r ⟨.handle .endOfStream, files, accepts⟩).script =
          .noteAll [] (.done (.error .notStarted) r) := by
        change r.endStream.map _ = _
        rw [endStream, if_pos stopped]
        rfl
      obtain ⟨handed, emitted, fails, after⟩ := outcome_of_script [] script (.inr ⟨_, rfl⟩)
      exact ⟨handed, emitted, fails, .other rfl r.tracker.format (by rw [after]) rfl⟩
  | transform b =>
    have checks : r.isStarted = false ∨ r.initialSize = none := by
      cases started : r.isStarted with
      | false => exact .inl rfl
      | true => exact .inr (by simpa [admitted, Operation.isTransform, started] using refused)
    obtain ⟨f, done⟩ := transform_of_refused files b checks
    have script : (Moment.mk r ⟨.transform b, files, accepts⟩).script = .noteAll [] (.done (.error f) r) := by
      change (r.transform files b).map some = _
      rw [done]
      rfl
    obtain ⟨handed, emitted, fails, after⟩ := outcome_of_script [] script (.inr ⟨_, rfl⟩)
    exact ⟨handed, emitted, fails, .other rfl r.tracker.format (by rw [after]) rfl⟩

/-! ### The end of the stream -/

/-- At the end of the stream every source is told, and then the consumers are asked to shut down. -/
def closing (m : Moment) : List Envelope :=
  (shutdownEnvelope? m.before.config.shutdownAuth m.before.sources).toList

private theorem script_atEnd {m : Moment} (h : m.atEnd) :
    m.script = .pushAll (endOfStreamRound m.before.sources) (.sinkClosed m.before)
      (.noteAll m.before.tracker.finish.notices
        (.pushAll m.closing (.sinkClosed { m.before with tracker := m.before.tracker.endSegment })
          (.done (.ok none) { m.before with tracker := m.before.tracker.endSegment }))) := by
  obtain ⟨r, operation, files, accepts⟩ := m
  obtain ⟨started, ending⟩ : r.isStarted ∧ operation = .handle .endOfStream := by simpa [atEnd] using h
  have some_source : ¬ r.sources.isEmpty := by simpa [isStarted] using started
  subst ending
  change r.endStream.map _ = _
  rw [endStream, if_neg some_source]
  dsimp only
  rw [Script.map_pushAll, Script.map_noteAll, Script.map_pushAll]
  rfl

/-- At the end of the stream either the whole round is taken, and the segment is over, or the sink refuses some of
it, and nothing has changed. -/
theorem atEnd_cases {m : Moment} (h : m.atEnd) :
    m.succeeded = false ∧
      ((∃ others, m.emitted = endOfStreamRound m.before.sources ++ others ∧
          (∀ e ∈ others, e.isShutdown = true) ∧ m.after.tracker = m.before.tracker.endSegment) ∨
        ∃ n < m.before.sources.length, m.emitted = (endOfStreamRound m.before.sources).take n ∧
          m.after.tracker = m.before.tracker) := by
  have asked : m.step.operation.isTransform = false := by
    rw [asked_of_atEnd h]
    rfl
  refine ⟨by rw [succeeded, asked]; rfl, ?_⟩
  have requests : ∀ n, ∀ e ∈ m.closing.take n, e.isShutdown = true := by
    intro n e he
    exact (isShutdown_of_shutdownEnvelope? (Option.mem_toList.1 (List.mem_of_mem_take he))).1
  have outcome : m.outcome = _ := congrArg (Script.run m.step.accepts 0) (script_atEnd h)
  unfold emitted primary after
  rcases Script.run_pushAll_cases m.step.accepts 0 (endOfStreamRound m.before.sources) m.before _ with
    ⟨went, -⟩ | ⟨n, short, -, went, -⟩
  · left
    rw [went, Script.run_noteAll] at outcome
    rcases Script.run_pushAll_cases m.step.accepts (0 + (endOfStreamRound m.before.sources).length) m.closing
        { m.before with tracker := m.before.tracker.endSegment }
        (.done (.ok none) { m.before with tracker := m.before.tracker.endSegment }) with
      ⟨went, -⟩ | ⟨n, -, -, went, -⟩
    · rw [went] at outcome
      rw [outcome]
      refine ⟨m.closing, by simp [Script.run], ?_, rfl⟩
      simpa using requests m.closing.length
    · rw [went] at outcome
      rw [outcome]
      exact ⟨m.closing.take n, by simp, requests n, rfl⟩
  · right
    rw [went] at outcome
    rw [outcome]
    exact ⟨n, by simpa [endOfStreamRound] using short, by simp, rfl⟩

/-- Whatever the sink refuses, the end of the stream changes nothing but the segment. -/
theorem atEnd_tracker {m : Moment} (h : m.atEnd) :
    m.after.tracker = m.before.tracker ∨ m.after.tracker = m.before.tracker.endSegment := by
  rcases (atEnd_cases h).2 with ⟨-, -, -, ended⟩ | ⟨-, -, -, same⟩
  · exact .inr ended
  · exact .inl same

theorem outcome_atEnd {m : Moment} (h : m.atEnd) (taken : m.step.IsOpen) :
    m.outcome = ⟨.ok none, { m.before with tracker := m.before.tracker.endSegment },
      endOfStreamRound m.before.sources ++ m.closing, m.before.tracker.finish.notices⟩ := by
  rw [Moment.outcome, taken]
  change m.script.runOpen = _
  rw [script_atEnd h, Script.runOpen_pushAll, Script.runOpen_noteAll, Script.runOpen_pushAll]
  simp

theorem atEnd_open {m : Moment} (h : m.atEnd) (taken : m.step.IsOpen) :
    m.emitted = endOfStreamRound m.before.sources ++ m.closing ∧
      m.after.tracker = m.before.tracker.endSegment := by
  unfold emitted primary after
  rw [outcome_atEnd h taken]
  exact ⟨List.append_nil _, rfl⟩

/-! ### Admitted buffers -/

/-- The tracker with the metadata for the frames seen to. -/
def prepared (m : Moment) : Tracked := m.before.tracker.prepare m.step.files

/-- The relay in the segment of the frames. -/
def entered (m : Moment) : Relay := { m.before with tracker := m.before.tracker.enter m.prepared.tracker }

/-- Between the segments the stream stays the same. -/
theorem sameStream_entered (m : Moment) : m.entered.tracker.SameStream m.before.tracker :=
  (m.before.tracker.sameStream_enter m.prepared.tracker).trans (m.before.tracker.sameStream_prepare m.step.files)

/-- The end of the segment before, if there is a boundary. -/
def round (m : Moment) : List Envelope :=
  if m.before.tracker.boundary then endOfStreamRound m.before.sources else []

theorem ends_of_mem_round {m : Moment} {e : Envelope} (h : e ∈ m.round) :
    e.isEndOfStream = true ∧ e.isShutdown = false := by
  unfold round at h
  split at h
  · exact isEndOfStream_of_mem_round h
  · cases h

/-- What is found against a buffer before any frame is built: faulty metadata, or else a frame type that cannot be
produced. -/
def objection? (m : Moment) (b : Buffer) : Option Refusal :=
  match m.prepared.failure with
  | some f => some (.sidecar f)
  | none =>
    match m.entered.contentOf b with
    | .error name => some (.frameType name)
    | .ok _ => none

/-- How an admitted buffer can fare. -/
inductive Passage (m : Moment) (b : Buffer) : Prop where
  /-- The sink refuses the end of a stream. -/
  | interrupted (shut : ¬ m.step.IsOpen) (n : Nat) (handed : m.handed = m.round.take (n + 1))
      (fails : m.succeeded = false) (tracker : m.after.tracker = m.prepared.tracker)
      (short : n < m.round.length) (emitted : m.emitted = m.round.take n)
      (result : m.outcome.result = .error .sinkClosed)
  /-- The metadata or the frame type is at fault. -/
  | refused (handed : m.handed = m.round) (emitted : m.emitted = m.round) (fails : m.succeeded = false)
      (tracker : m.after.tracker = m.entered.tracker)
      (fault : m.prepared.failure.isSome ∨ ∃ name, m.entered.contentOf b = .error name)
      (after : m.after = m.entered) (result : ∃ e, m.objection? b = some e ∧ m.outcome.result = .error e)
  /-- Frames are built, and the sink refuses one of them. -/
  | broken (shut : ¬ m.step.IsOpen) (p : Picture) (shown : m.entered.Depicts b p) (n : Nat)
      (handed : m.handed = m.round ++ (m.entered.fanOut p b).take (n + 1)) (fails : m.succeeded = false)
      (tracker : m.after.tracker = m.entered.recordTaken.tracker)
      (emitted : m.emitted = m.round ++ (m.entered.fanOut p b).take n)
      (result : m.outcome.result = .error .sinkClosed)
  /-- Frames are built, and every source gets its own. -/
  | sent (p : Picture) (shown : m.entered.Depicts b p)
      (handed : m.handed = m.round ++ m.entered.fanOut p b)
      (emitted : m.emitted = m.round ++ m.entered.fanOut p b) (succeeds : m.succeeded = true)
      (tracker : m.after.tracker = m.entered.frameSent.tracker)

/-- What is left to be done when the segment before has ended. -/
private def remainder (m : Moment) (initialSize : Transformation) (b : Buffer) : Script Relay (Option Envelope) :=
  match m.prepared.failure with
  | some f => .done (.error (.sidecar f)) m.entered
  | none => (m.entered.build initialSize b).map some

private theorem script_admitted {m : Moment} {b : Buffer} {initialSize : Transformation}
    (asked : m.step.operation = .transform b) (started : m.before.isStarted)
    (negotiated : m.before.initialSize = some initialSize) :
    m.script = .noteAll m.prepared.notices (.pushAll m.round
      (.sinkClosed { m.before with tracker := m.prepared.tracker }) (m.remainder initialSize b)) := by
  rw [Moment.script, asked]
  change (m.before.transform m.step.files b).map some = _
  rw [transform_eq m.step.files b started negotiated, Script.map_noteAll, Script.map_pushAll]
  unfold remainder entered prepared
  cases (m.before.tracker.prepare m.step.files).failure <;> rfl

/-- Either the remainder fails before any frame is built, or the frames are pushed but for the last. -/
private theorem remainder_cases {m : Moment} {c : Config} (made : m.before.IsOf c) (started : m.before.isStarted)
    {initialSize : Transformation} (negotiated : m.before.initialSize = some initialSize) (b : Buffer) :
    (∃ notices e, m.remainder initialSize b = .noteAll notices (.done (.error e) m.entered) ∧
      m.objection? b = some e ∧ (m.prepared.failure.isSome ∨ ∃ name, m.entered.contentOf b = .error name)) ∨
    ∃ p last, m.entered.Depicts b p ∧ (m.entered.fanOut p b).getLast? = some last ∧
      m.remainder initialSize b = .pushAll (m.entered.fanOut p b).dropLast (.sinkClosed m.entered.recordTaken)
        (.done (.ok (some last)) m.entered.frameSent) := by
  unfold remainder objection?
  cases m.prepared.failure with
  | some f => exact .inl ⟨[], _, rfl, rfl, .inl rfl⟩
  | none =>
    have same := m.sameStream_entered
    obtain ⟨format, known⟩ := Option.isSome_iff_exists.1 (made.format (Option.isSome_of_eq_some negotiated))
    rcases build_cases initialSize b (r := m.entered) started (same.format.trans known) with
      ⟨name, unsupported, built⟩ | ⟨content, last, accepted, final, built⟩
    · left
      refine ⟨[.frameTypeUnsupported name], .frameType name, ?_, by rw [unsupported], .inr ⟨name, unsupported⟩⟩
      dsimp only
      rw [built]
      rfl
    · right
      refine ⟨pictureOf format initialSize content b m.entered, last, ?_, final, ?_⟩
      · exact ⟨same.format.trans known, negotiated, rfl, rfl, rfl, accepted, rfl⟩
      · dsimp only
        rw [built, Script.map_pushAll]
        rfl

private theorem not_isOpen {m : Moment} {n : Nat} (h : m.step.accepts n = false) : ¬ m.step.IsOpen := by
  intro taken
  rw [taken] at h
  cases h

private theorem of_error {m : Moment} {f : Refusal} {state : Relay} {pushed offered : List Envelope}
    {notices : List Notice} (outcome : m.outcome = ⟨.error f, state, pushed, notices⟩)
    (offers : m.script.offered m.step.accepts 0 = offered) :
    m.handed = offered ∧ m.emitted = pushed ∧ m.succeeded = false ∧ m.after = state := by
  unfold handed emitted primary succeeded after
  rw [outcome, offers]
  exact ⟨List.append_nil _, List.append_nil _, Bool.and_false _, rfl⟩

private theorem of_ok {m : Moment} {e : Envelope} {state : Relay} {pushed offered : List Envelope}
    {notices : List Notice} (asks : m.step.operation.isTransform)
    (outcome : m.outcome = ⟨.ok (some e), state, pushed, notices⟩)
    (offers : m.script.offered m.step.accepts 0 = offered) :
    m.handed = offered ++ [e] ∧ m.emitted = pushed ++ [e] ∧ m.succeeded = true ∧ m.after = state := by
  unfold handed emitted primary succeeded after
  rw [outcome, offers, asks]
  exact ⟨rfl, rfl, rfl, rfl⟩

theorem passage_of_admitted {m : Moment} {c : Config} (made : m.before.IsOf c) (h : m.admitted) :
    ∃ b, m.step.operation = .transform b ∧ m.Passage b := by
  simp only [admitted, Bool.and_eq_true] at h
  obtain ⟨⟨asks, started⟩, negotiated⟩ := h
  obtain ⟨b, asked⟩ := Operation.exists_buffer asks
  obtain ⟨initialSize, size⟩ := Option.isSome_iff_exists.1 negotiated
  refine ⟨b, asked, ?_⟩
  have script := script_admitted asked started size
  have outcome : m.outcome = _ := congrArg (Script.run m.step.accepts 0) script
  have offers := congrArg (Script.offered m.step.accepts 0) script
  rw [Script.run_noteAll] at outcome
  rw [Script.offered_noteAll] at offers
  rcases Script.run_pushAll_cases m.step.accepts 0 m.round { m.before with tracker := m.prepared.tracker }
    (m.remainder initialSize b) with ⟨went, offered⟩ | ⟨n, short, shut, went, offered⟩
  · rw [went] at outcome
    rw [offered] at offers
    rcases remainder_cases made started size b with
      ⟨notices, e, fails, found, fault⟩ | ⟨p, last, shown, final, builds⟩
    · rw [fails, Script.run_noteAll] at outcome
      rw [fails, Script.offered_noteAll] at offers
      have result := congrArg Outcome.result outcome
      obtain ⟨handed, emitted, fails, after⟩ := of_error outcome offers
      exact .refused (handed.trans (List.append_nil _)) (emitted.trans (List.append_nil _)) fails
        (congrArg Relay.tracker after) fault after ⟨e, found, result⟩
    · obtain ⟨front, whole⟩ := List.getLast?_eq_some_iff.1 final
      rw [builds, whole, List.dropLast_concat] at outcome offers
      rcases Script.run_pushAll_cases m.step.accepts (0 + m.round.length) front m.entered.recordTaken
          (.done (.ok (some last)) m.entered.frameSent) with ⟨went, offered⟩ | ⟨n, short, shut, went, offered⟩
      · rw [went] at outcome
        rw [offered] at offers
        obtain ⟨handed, emitted, succeeds, after⟩ := of_ok asks outcome offers
        refine .sent p shown ?_ ?_ succeeds (congrArg Relay.tracker after)
        · rw [handed, whole]
          simp [Script.offered]
        · rw [emitted, whole]
          simp [Script.run]
      · rw [went] at outcome
        rw [offered] at offers
        have result := congrArg Outcome.result outcome
        obtain ⟨handed, emitted, fails, after⟩ := of_error outcome offers
        refine .broken (not_isOpen shut) p shown n ?_ fails (congrArg Relay.tracker after) ?_ result
        · rw [handed, whole, List.take_append_of_le_length (by omega)]
        · rw [emitted, whole, List.take_append_of_le_length (by omega)]
  · rw [went] at outcome
    rw [offered] at offers
    have result := congrArg Outcome.result outcome
    obtain ⟨handed, emitted, fails, after⟩ := of_error outcome offers
    exact .interrupted (not_isOpen shut) n handed fails (congrArg Relay.tracker after) short emitted result

/-- For a buffer either nothing is handed over, as it is not admitted, or it is admitted. -/
theorem transform_cases {m : Moment} {c : Config} {b : Buffer} (made : m.before.IsOf c)
    (asked : m.step.operation = .transform b) : (m.handed = [] ∧ m.succeeded = false) ∨ m.Passage b := by
  cases passes : m.admitted with
  | false =>
    have stays : m.step.operation ≠ .stop := by
      rw [asked]
      exact nofun
    have midway : m.atEnd = false := by simp [atEnd, asked]
    obtain ⟨handed, -, fails, -⟩ := quiet_cases stays passes midway
    exact .inl ⟨handed, fails⟩
  | true =>
    obtain ⟨b', asked', passage⟩ := passage_of_admitted made passes
    obtain rfl : b' = b := Operation.transform.inj (asked'.symm.trans asked)
    exact .inr passage

end Moment

end FrameStream.Relay
