import FrameStream.Proofs.Relay.Segments

/-!
# Tokens for shutting down

The token of a configuration is in nothing but the requests to shut down.  A relay that was given another token, or
none, goes the same way step by step: to the same results, notices and states, and to the same envelopes apart from
those requests (`withToken_of_reached`).  For every operation but the end of the stream the two scripts are the same
but for the token in their states (`perform_withToken`), whatever the sink refuses.  At the end of the stream they
differ in the request behind the round, which only a sink that takes everything does not notice.
-/

namespace FrameStream

/-! ### Scripts with other states -/

namespace Script

variable {σ τ α β : Type}

/-- The script with its states changed. -/
def mapStates (g : σ → τ) : Script σ α → Script τ α
  | done result state => done result (g state)
  | push e refused next => push e (refused.mapStates g) (next.mapStates g)
  | note n next => note n (next.mapStates g)

theorem mapStates_noteAll (g : σ → τ) (ns : List Notice) (s : Script σ α) :
    (noteAll ns s).mapStates g = noteAll ns (s.mapStates g) := by
  induction ns with
  | nil => rfl
  | cons n ns ih => exact congrArg (note n) ih

theorem mapStates_pushAll (g : σ → τ) (es : List Envelope) (refused s : Script σ α) :
    (pushAll es refused s).mapStates g = pushAll es (refused.mapStates g) (s.mapStates g) := by
  induction es with
  | nil => rfl
  | cons e es ih => exact congrArg (push e (refused.mapStates g)) ih

theorem mapStates_map (g : σ → τ) (f : α → β) (s : Script σ α) : (s.map f).mapStates g = (s.mapStates g).map f := by
  induction s with
  | done => rfl
  | push e refused next stopped ih => exact congrArg₂ (push e) stopped ih
  | note n next ih => exact congrArg (note n) ih

theorem run_mapStates (g : σ → τ) (accepts : Nat → Bool) (attempt : Nat) (s : Script σ α) :
    (s.mapStates g).run accepts attempt =
      ⟨(s.run accepts attempt).result, g (s.run accepts attempt).state, (s.run accepts attempt).pushed,
        (s.run accepts attempt).notices⟩ := by
  induction s generalizing attempt with
  | done => rfl
  | push e refused next stopped ih =>
    simp only [mapStates, run]
    split
    · rw [ih]
    · rw [stopped]
  | note n next ih => simp only [mapStates, run, ih]

end Script

/-! ### The relay with another token -/

/-- The configuration with another token, or with none. -/
def Config.withToken (token : Option String) (c : Config) : Config := { c with shutdownAuth := token }

namespace Relay

variable {c : Config} {r : Relay}

/-- The relay with another token, or with none. -/
def withToken (token : Option String) (r : Relay) : Relay := { r with config := r.config.withToken token }

/-- The token does not decide whether a configuration is valid. -/
theorem ofConfig_withToken (token : Option String) (c : Config) :
    ofConfig (c.withToken token) = withToken token <$> ofConfig c := by
  unfold ofConfig
  rw [show (c.withToken token).validate = c.validate from rfl]
  cases c.validate <;> rfl

variable (token : Option String) (files : Files) (r : Relay)

theorem start_withToken : (r.withToken token).start = r.start.mapStates (withToken token) := by
  unfold start
  rw [show (r.withToken token).config.sources = r.config.sources from rfl]
  cases r.config.sources <;> rfl

theorem negotiate_withToken (caps : Caps) :
    (r.withToken token).negotiate caps = (r.negotiate caps).mapStates (withToken token) := by
  unfold negotiate
  rw [show (r.withToken token).config.framerate = r.config.framerate from rfl]
  cases StreamFormat.ofCaps caps r.config.framerate <;> rfl

theorem openFile_withToken (location : Path) :
    (r.withToken token).openFile files location = (r.openFile files location).mapStates (withToken token) := by
  unfold openFile
  dsimp only
  rw [show (r.withToken token).tracker = r.tracker from rfl, Script.mapStates_noteAll]
  cases (r.tracker.onTag files location).failure <;> rfl

theorem emit_withToken (p : Picture) (b : Buffer) :
    (r.withToken token).emit p b = (r.emit p b).mapStates (withToken token) := by
  unfold emit
  dsimp only
  rw [show (r.withToken token).fanOut p b = r.fanOut p b from rfl]
  cases (r.fanOut p b).getLast? with
  | none => rfl
  | some last =>
    dsimp only
    rw [Script.mapStates_pushAll]
    rfl

theorem build_withToken (initialSize : Transformation) (b : Buffer) :
    (r.withToken token).build initialSize b = (r.build initialSize b).mapStates (withToken token) := by
  unfold build
  rw [show (r.withToken token).contentOf b = r.contentOf b from rfl,
    show (r.withToken token).tracker = r.tracker from rfl]
  cases r.contentOf b with
  | error name => rfl
  | ok content =>
    dsimp only
    cases r.tracker.format with
    | none => rfl
    | some format => exact r.recordTaken.emit_withToken token _ b

theorem transform_withToken (b : Buffer) :
    (r.withToken token).transform files b = (r.transform files b).mapStates (withToken token) := by
  cases started : r.isStarted with
  | false =>
    have starts : (r.withToken token).isStarted = false := started
    rw [transform_of_stopped files b started, transform_of_stopped files b starts]
    rfl
  | true =>
    have starts : (r.withToken token).isStarted = true := started
    cases negotiated : r.initialSize with
    | none =>
      have missing : (r.withToken token).initialSize = none := negotiated
      rw [transform_of_unnegotiated files b started negotiated, transform_of_unnegotiated files b starts missing]
      rfl
    | some initialSize =>
      have size : (r.withToken token).initialSize = some initialSize := negotiated
      rw [transform_eq files b started negotiated, transform_eq files b starts size, Script.mapStates_noteAll,
        Script.mapStates_pushAll]
      rw [show (r.withToken token).tracker = r.tracker from rfl]
      cases (r.tracker.prepare files).failure with
      | some f => rfl
      | none =>
        have built := build_withToken token { r with tracker := r.tracker.enter (r.tracker.prepare files).tracker }
          initialSize b
        exact congrArg (fun s => Script.noteAll _ (Script.pushAll _ _ s)) built

/-- The scripts of all operations but the end of the stream are the same but for the token in their states. -/
theorem perform_withToken {o : Operation} (midway : o = .handle .endOfStream → r.isStarted = false) :
    (r.withToken token).perform files o = (r.perform files o).mapStates (withToken token) := by
  cases o with
  | start => exact (congrArg (Script.map _) (r.start_withToken token)).trans (Script.mapStates_map _ _ _).symm
  | stop => rfl
  | negotiate caps =>
    exact (congrArg (Script.map _) (r.negotiate_withToken token caps)).trans (Script.mapStates_map _ _ _).symm
  | relocate location => rfl
  | handle event =>
    cases event with
    | caps caps =>
      exact (congrArg (Script.map _) (r.negotiate_withToken token caps)).trans (Script.mapStates_map _ _ _).symm
    | tag location =>
      cases location with
      | some location =>
        exact (congrArg (Script.map _) (r.openFile_withToken token files _)).trans (Script.mapStates_map _ _ _).symm
      | none => rfl
    | endOfStream =>
      have stopped : r.sources.isEmpty := by simpa [isStarted] using midway rfl
      change (r.withToken token).endStream.map _ = (r.endStream.map _).mapStates _
      rw [endStream, endStream, if_pos stopped, if_pos (show (r.withToken token).sources.isEmpty from stopped)]
      rfl
  | transform b =>
    exact (congrArg (Script.map _) (r.transform_withToken token files b)).trans (Script.mapStates_map _ _ _).symm

/-! ### Steps -/

namespace Moment

variable {m : Moment} {e : Envelope}

/-- The relay with another token takes the same step. -/
def withToken (token : Option String) (m : Moment) : Moment := ⟨m.before.withToken token, m.step⟩

/-- Nobody sees the token but who reads the requests to shut down. -/
structure Unswayed (token : Option String) (m : Moment) : Prop where
  result : (m.withToken token).outcome.result = m.outcome.result
  state : (m.withToken token).after = m.after.withToken token
  notices : (m.withToken token).outcome.notices = m.outcome.notices
  others : (m.withToken token).emitted.filter (!·.isShutdown) = m.emitted.filter (!·.isShutdown)
  /-- With a token each, both ask to shut down at the same places. -/
  places : token.isSome → m.before.config.shutdownAuth.isSome →
    (m.withToken token).emitted.map (·.isShutdown) = m.emitted.map (·.isShutdown)

private theorem unswayed_midway (token : Option String) (midway : m.atEnd = false) : m.Unswayed token := by
  have stopped : m.step.operation = .handle .endOfStream → m.before.isStarted = false := by
    intro asked
    rw [atEnd, asked, beq_self_eq_true, Bool.and_true] at midway
    exact midway
  have script : (m.withToken token).script = m.script.mapStates (Relay.withToken token) :=
    perform_withToken token m.step.files m.before stopped
  have outcome : (m.withToken token).outcome = { m.outcome with state := m.after.withToken token } := by
    rw [Moment.outcome, script, Script.run_mapStates]
    rfl
  have emitted : (m.withToken token).emitted = m.emitted := by
    rw [Moment.emitted, Moment.emitted, primary, primary, outcome]
  exact ⟨by rw [outcome], by rw [after, outcome], by rw [outcome], by rw [emitted], fun _ _ => by rw [emitted]⟩

/-- With a token there is one request. -/
private theorem map_closing (started : m.before.isStarted) (token : m.before.config.shutdownAuth.isSome) :
    m.closing.map (·.isShutdown) = [true] := by
  obtain ⟨own, known⟩ := Option.isSome_iff_exists.1 token
  obtain ⟨s, others, sources⟩ := List.exists_cons_of_ne_nil (l := m.before.sources) (by simpa [isStarted] using started)
  rw [closing, known, sources]
  simp [shutdownEnvelope?]

private theorem unswayed_atEnd (token : Option String) (ending : m.atEnd) (taken : m.step.IsOpen) :
    m.Unswayed token := by
  have ends : (m.withToken token).atEnd := ending
  have here := outcome_atEnd ending taken
  have there := outcome_atEnd ends taken
  have sent := (atEnd_open ending taken).1
  have sends : (m.withToken token).emitted = endOfStreamRound m.before.sources ++ (m.withToken token).closing :=
    (atEnd_open ends taken).1
  have started : m.before.isStarted := (Bool.and_eq_true_iff.1 ending).1
  refine ⟨by rw [here, there], by rw [after, after, here, there]; rfl, by rw [here, there]; rfl, ?_, ?_⟩
  · rw [sent, sends, List.filter_append, List.filter_append, closing, closing, filter_shutdownEnvelope?,
      filter_shutdownEnvelope?]
  · intro some_token some_own
    rw [sent, sends, List.map_append, List.map_append, map_closing started some_own,
      map_closing (m := m.withToken token) started some_token]

theorem unswayed (token : Option String) (taken : m.step.IsOpen) : m.Unswayed token := by
  cases ending : m.atEnd with
  | false => exact unswayed_midway token ending
  | true => exact unswayed_atEnd token ending taken

/-- A request to shut down goes out under the topic of the first source and carries the token of the relay. -/
theorem request_of_mem_emitted {c : Config} (kept : m.before.IsOf c) (taken : m.step.IsOpen) (he : e ∈ m.emitted)
    (asks : e.isShutdown) :
    ∃ own s, c.shutdownAuth = some own ∧ m.before.sources.head? = some s ∧ e = s.envelope (.shutdown own) := by
  cases ending : m.atEnd with
  | true =>
    rw [(atEnd_open ending taken).1, List.mem_append] at he
    rcases he with round | closing
    · rw [(isEndOfStream_of_mem_round round).2] at asks
      cases asks
    · have request := Option.mem_toList.1 closing
      rw [kept.config] at request
      unfold shutdownEnvelope? at request
      split at request
      · rename_i own s others token sources
        cases request
        exact ⟨own, s, token, by rw [sources]; rfl, rfl⟩
      · cases request
  | false =>
    exfalso
    cases passes : m.admitted with
    | true =>
      obtain ⟨b, -, passage⟩ := passage_of_admitted kept passes
      have plain : ∀ e ∈ m.round, e.isShutdown = false := fun e he => (ends_of_mem_round he).2
      cases passage with
      | interrupted shut => exact shut taken
      | broken shut => exact shut taken
      | refused _ emitted =>
        rw [emitted] at he
        rw [plain e he] at asks
        cases asks
      | sent _ _ _ emitted =>
        rw [emitted, List.mem_append] at he
        rcases he with round | frame
        · rw [plain e round] at asks
          cases asks
        · rw [(frame_of_mem_fanOut frame).2] at asks
          cases asks
    | false =>
      by_cases stops : m.step.operation = .stop
      · have emitted : m.emitted = [] := by
          unfold Moment.emitted primary Moment.outcome Moment.script
          rw [stops]
          rfl
        rw [emitted] at he
        cases he
      · rw [(quiet_cases stops passes ending).2.1] at he
        cases he

end Moment

/-! ### Whole runs -/

theorem reached_withToken (token : Option String) (r : Relay) {steps : List Step} (taken : ∀ s ∈ steps, s.IsOpen) :
    (r.withToken token).reached steps = (r.reached steps).withToken token := by
  induction steps with
  | nil => rfl
  | cons step past ih =>
    rw [List.forall_mem_cons] at taken
    change (Moment.mk ((r.withToken token).reached past) step).after = _
    rw [ih taken.2]
    exact (Moment.unswayed (m := ⟨r.reached past, step⟩) token taken.1).state

/-- Of two configurations that differ in the token only, a relay is made or refused for the same reason, and whatever
is done to both, step by step the results, notices and states are the same, and the envelopes are the same apart
from the requests to shut down.  Such a request carries the token of its own relay; if both have a token, both ask at
the same places. -/
theorem withToken_of_reached (c : Config) (token : Option String) :
    ofConfig (c.withToken token) = withToken token <$> ofConfig c ∧
    ∀ r, ofConfig c = .ok r → ∀ (past : List Step) (next : Step), (∀ t ∈ next :: past, t.IsOpen) →
      let m : Moment := ⟨r.reached past, next⟩
      let n : Moment := ⟨(r.withToken token).reached past, next⟩
      n.outcome.result = m.outcome.result ∧ n.outcome.notices = m.outcome.notices ∧
        n.before = m.before.withToken token ∧ n.after = m.after.withToken token ∧
        n.emitted.filter (!·.isShutdown) = m.emitted.filter (!·.isShutdown) ∧
        (∀ e ∈ m.emitted, e.isShutdown → ∃ own s, c.shutdownAuth = some own ∧ m.before.sources.head? = some s ∧
          e = s.envelope (.shutdown own)) ∧
        (∀ e ∈ n.emitted, e.isShutdown → ∃ own s, token = some own ∧ n.before.sources.head? = some s ∧
          e = s.envelope (.shutdown own)) ∧
        (token.isSome → c.shutdownAuth.isSome → n.emitted.map (·.isShutdown) = m.emitted.map (·.isShutdown)) := by
  refine ⟨ofConfig_withToken token c, ?_⟩
  intro r made past next taken m n
  rw [List.forall_mem_cons] at taken
  have kept : m.before.IsOf c := isOf_reached (isOf_ofConfig made) past
  have made_other : ofConfig (c.withToken token) = .ok (r.withToken token) := by
    rw [ofConfig_withToken, made]
    rfl
  have kept_other : n.before.IsOf (c.withToken token) := isOf_reached (isOf_ofConfig made_other) past
  have before : n.before = m.before.withToken token := reached_withToken token r taken.2
  have same : n = m.withToken token := congrArg (Moment.mk · next) before
  have seen : m.Unswayed token := Moment.unswayed token taken.1
  have own : m.before.config.shutdownAuth = c.shutdownAuth := by rw [kept.config]
  refine ⟨same ▸ seen.result, same ▸ seen.notices, before, same ▸ seen.state, same ▸ seen.others, ?_, ?_, ?_⟩
  · exact fun e he asks => Moment.request_of_mem_emitted kept taken.1 he asks
  · exact fun e he asks => Moment.request_of_mem_emitted kept_other taken.1 he asks
  · intro some_token some_own
    rw [same]
    exact seen.places some_token (own ▸ some_own)

/-- At the end of the stream, the relay with another token asks to shut down behind the same round. -/
theorem withToken_secondFile :
    let m : Moment := ⟨cameraRelay.reached secondFile, { operation := .handle .endOfStream }⟩
    let n : Moment := ⟨(cameraRelay.withToken (some "other")).reached secondFile, { operation := .handle .endOfStream }⟩
    (ofConfig cameraConfig = .ok cameraRelay ∧ ∀ t ∈ { operation := .handle .endOfStream } :: secondFile, t.IsOpen) ∧
      n.after = m.after.withToken (some "other") ∧ n.emitted ≠ m.emitted ∧
      n.emitted.map (·.isShutdown) = m.emitted.map (·.isShutdown) := by
  intro m n
  have made : ofConfig cameraConfig = .ok cameraRelay := rfl
  have taken : ∀ t ∈ { operation := .handle .endOfStream } :: secondFile, t.IsOpen := by
    simp [secondFile, Step.IsOpen]
  obtain ⟨-, -, -, state, -, -, -, places⟩ :=
    (withToken_of_reached cameraConfig (some "other")).2 cameraRelay made secondFile _ taken
  exact ⟨⟨made, taken⟩, state, by decide +kernel, places rfl rfl⟩

end Relay

end FrameStream
