import FrameStream.Proofs.Relay.Steps

/-!
# Many sources as one each

A relay with many sources does for each of them what a relay with that source alone would do.  The relay `narrowed`
to a source takes every step the way the whole relay does (`seen_step`): with the same result, to the narrowed
state, and sending just the envelopes under the topic of the source, requests to shut down apart.  Ids are distinct,
and so are their topics, so that one envelope of each round and of each fan-out is left.
-/

namespace FrameStream

/-! ### Distinct sources -/

private theorem nodup_of_firstRepeated? {seen ids : List String} (h : firstRepeated? seen ids = none) :
    ids.Nodup ∧ ∀ id ∈ ids, id ∉ seen := by
  induction ids generalizing seen with
  | nil => exact ⟨List.nodup_nil, nofun⟩
  | cons id rest ih =>
    rw [firstRepeated?] at h
    split at h
    · cases h
    · rename_i new
      have new : id ∉ seen := by simpa using new
      obtain ⟨distinct, others⟩ := ih h
      have apart : id ∉ rest := fun again => others id again List.mem_cons_self
      refine ⟨List.nodup_cons.2 ⟨apart, distinct⟩, ?_⟩
      intro other there
      rcases List.mem_cons.1 there with rfl | there
      · exact new
      · exact fun before => others other there (List.mem_cons_of_mem _ before)

theorem Config.nodup_sources {c : Config} {sources : List Source} (h : c.sources = .ok sources) :
    sources.Nodup := by
  have ids : ∀ ids, c.sourceIds = .ok ids → ids.Nodup := by
    intro ids made
    unfold sourceIds at made
    split at made
    · obtain ⟨all, -, made⟩ := bind_eq_ok.1 made
      split at made
      · cases made
      · rename_i none_repeated
        cases made
        exact (nodup_of_firstRepeated? none_repeated).1
    · split at made
      · cases made
      · cases made
        exact List.nodup_singleton _
  obtain ⟨all, made, rfl⟩ := map_eq_ok.1 h
  exact List.Pairwise.map Source.mk (fun _ _ different same => different (congrArg Source.id same)) (ids all made)

theorem Relay.IsOf.nodup_sources {c : Config} {r : Relay} (kept : r.IsOf c) : r.sources.Nodup := by
  rcases kept.sources with none_left | all
  · rw [none_left]
    exact List.nodup_nil
  · exact Config.nodup_sources all

theorem Source.topic_inj {s t : Source} (h : s.topic = t.topic) : s = t := by
  have same := congrArg String.toList (Utf8.encode_inj.1 h)
  simp only [String.toList_append] at same
  have ids := String.toList_inj.1 (List.append_cancel_right same)
  cases s
  cases t
  exact congrArg Source.mk ids

/-- Of envelopes for each of distinct sources, one is under the topic of each. -/
theorem filter_map_topic {sources : List Source} {s : Source} (distinct : sources.Nodup) (there : s ∈ sources)
    {f : Source → Envelope} (topics : ∀ t, (f t).topic = t.topic) (plain : ∀ t, (f t).isShutdown = false) :
    (sources.map f).filter (fun e => e.topic == s.topic && !e.isShutdown) = [f s] := by
  have own : (fun t => (f t).topic == s.topic && !(f t).isShutdown) = (· == s) := by
    funext t
    rw [topics, plain, Bool.not_false, Bool.and_true]
    by_cases same : t = s
    · rw [same, beq_self_eq_true, beq_self_eq_true]
    · rw [beq_false_of_ne same, beq_false_of_ne fun h => same (Source.topic_inj h)]
  have once : sources.filter (· == s) = [s] := by
    rw [List.filter_beq, List.count_eq_one_of_mem distinct there]
    rfl
  rw [List.filter_map, Function.comp_def, own, once]
  rfl

/-! ### The relay for one source -/

/-- The configuration with one source alone. -/
def Config.narrowed (s : Source) (c : Config) : Config := { c with multistream := false, sourceId := some s.id }

theorem Config.sources_narrowed (s : Source) (c : Config) : (c.narrowed s).sources = .ok [s] := rfl

namespace Relay

variable {c : Config} {r : Relay} {sources : List Source} {s : Source}

/-- The relay with one source alone. -/
def narrowed (s : Source) (r : Relay) : Relay :=
  { r with config := r.config.narrowed s, sources := if r.sources.isEmpty then [] else [s] }

theorem isStarted_narrowed (s : Source) (r : Relay) : (r.narrowed s).isStarted = r.isStarted := by
  unfold isStarted narrowed
  cases r.sources <;> rfl

theorem narrowed_ofConfig (made : ofConfig c = .ok r) (s : Source) :
    ofConfig (c.narrowed s) = .ok (r.narrowed s) := by
  unfold ofConfig at made ⊢
  rw [show (c.narrowed s).validate = c.validate from rfl]
  split at made
  · cases made
  · cases made
    rfl

/-- The envelopes that come of a step, the one that is left to the host behind the others. -/
private def sent (o : Outcome Relay (Option Envelope)) : List Envelope :=
  o.pushed ++ match o.result with
    | .ok (some e) => [e]
    | _ => []

/-- Both come to the same, as far as the source is concerned. -/
private structure Seen (s : Source) (whole part : Outcome Relay (Option Envelope)) : Prop where
  result : Option.isSome <$> part.result = Option.isSome <$> whole.result
  state : part.state = whole.state.narrowed s
  sent : (sent whole).filter (fun e => e.topic == s.topic && !e.isShutdown) = (sent part).filter (!·.isShutdown)

/-! ### Steps without pushes -/

private theorem seen_of_silent {m n : Moment} (notices : List Notice) {result : Except Refusal (Option Envelope)}
    {state : Relay} (whole : m.script = .noteAll notices (.done result state))
    (part : n.script = .noteAll notices (.done result (state.narrowed s)))
    (nothing : result.toOption.join = none) : Seen s m.outcome n.outcome := by
  rw [Moment.outcome, Moment.outcome, whole, part, Script.run_noteAll, Script.run_noteAll]
  refine ⟨rfl, rfl, ?_⟩
  cases result with
  | ok primary =>
    cases primary with
    | some e => cases nothing
    | none => rfl
  | error f => rfl

private theorem seen_start {m n : Moment} (sources_of : m.before.config.sources = .ok sources) (there : s ∈ sources)
    (asked : m.step.operation = .start) (same : n = ⟨m.before.narrowed s, m.step⟩) : Seen s m.outcome n.outcome := by
  have whole : m.script = .noteAll [] (.done (.ok none) { m.before with sources }) := by
    rw [Moment.script, asked]
    change m.before.start.map _ = _
    rw [start, sources_of]
    rfl
  have part : n.script = .noteAll [] (.done (.ok none) (Relay.narrowed s { m.before with sources })) := by
    rw [same, Moment.script, asked]
    change (m.before.narrowed s).start.map _ = _
    rw [start, show (m.before.narrowed s).config.sources = .ok [s] from Config.sources_narrowed s _]
    have some_source : sources.isEmpty = false := by
      cases sources with
      | nil => exact absurd there List.not_mem_nil
      | cons => rfl
    unfold narrowed
    simp [some_source, Script.map]
  exact seen_of_silent [] whole part rfl

private theorem seen_negotiate {m n : Moment} {caps : Caps}
    (whole : m.script = (m.before.negotiate caps).map fun _ => none)
    (part : n.script = ((m.before.narrowed s).negotiate caps).map fun _ => none) : Seen s m.outcome n.outcome := by
  unfold negotiate at whole part
  rw [show (m.before.narrowed s).config.framerate = m.before.config.framerate from rfl] at part
  cases made : StreamFormat.ofCaps caps m.before.config.framerate with
  | error reason =>
    rw [made] at whole part
    exact seen_of_silent [_] whole part rfl
  | ok format =>
    rw [made] at whole part
    exact seen_of_silent [] whole part rfl

private theorem seen_openFile {m n : Moment} {files : Files} {location : Path}
    (whole : m.script = (m.before.openFile files location).map fun _ => none)
    (part : n.script = ((m.before.narrowed s).openFile files location).map fun _ => none) :
    Seen s m.outcome n.outcome := by
  unfold openFile at whole part
  dsimp only at whole part
  rw [show (m.before.narrowed s).tracker = m.before.tracker from rfl] at part
  rw [Script.map_noteAll] at whole part
  cases fault : (m.before.tracker.onTag files location).failure with
  | some f =>
    rw [fault] at whole part
    exact seen_of_silent _ whole part rfl
  | none =>
    rw [fault] at whole part
    exact seen_of_silent _ whole part rfl

/-! ### Rounds and frames -/

private theorem filter_round (distinct : sources.Nodup) (there : s ∈ sources) :
    (endOfStreamRound sources).filter (fun e => e.topic == s.topic && !e.isShutdown) = [s.endOfStream] :=
  filter_map_topic distinct there (fun _ => rfl) Source.isShutdown_endOfStream

private theorem seen_endStream {m n : Moment} (distinct : m.before.sources.Nodup) (there : s ∈ m.before.sources)
    (taken : m.step.IsOpen) (ending : m.atEnd) (same : n = ⟨m.before.narrowed s, m.step⟩) :
    Seen s m.outcome n.outcome := by
  have some_source : m.before.sources.isEmpty = false := by
    cases h : m.before.sources with
    | nil => exact absurd (h ▸ there) List.not_mem_nil
    | cons => rfl
  have alone : n.before.sources = [s] := by
    rw [same]
    change (if m.before.sources.isEmpty then [] else [s]) = [s]
    rw [some_source]
    rfl
  have closes : n.atEnd := by
    rw [same, Moment.atEnd, isStarted_narrowed]
    exact ending
  rw [Moment.outcome_atEnd ending taken, Moment.outcome_atEnd closes (by rw [same]; exact taken)]
  refine ⟨rfl, by rw [same]; rfl, ?_⟩
  have silent (token : Option String) (sources : List Source) :
      (shutdownEnvelope? token sources).toList.filter (fun e => e.topic == s.topic && !e.isShutdown) = [] := by
    rw [← List.filter_filter, filter_shutdownEnvelope?]
    rfl
  have once : (endOfStreamRound [s]).filter (!·.isShutdown) = [s.endOfStream] := by simp [endOfStreamRound]
  simp only [sent, Moment.closing, List.append_nil, List.filter_append, filter_round distinct there, silent,
    filter_shutdownEnvelope?, alone, once]

private theorem seen_noteAll {S T : Script Relay (Option Envelope)} (ns ms : List Notice)
    (h : Seen s S.runOpen T.runOpen) : Seen s (Script.noteAll ns S).runOpen (Script.noteAll ms T).runOpen := by
  rw [Script.runOpen_noteAll, Script.runOpen_noteAll]
  exact ⟨h.result, h.state, h.sent⟩

private theorem seen_pushAll {S T : Script Relay (Option Envelope)} {es fs : List Envelope}
    (x y : Script Relay (Option Envelope))
    (same : es.filter (fun e => e.topic == s.topic && !e.isShutdown) = fs.filter (!·.isShutdown))
    (h : Seen s S.runOpen T.runOpen) : Seen s (Script.pushAll es x S).runOpen (Script.pushAll fs y T).runOpen := by
  rw [Script.runOpen_pushAll, Script.runOpen_pushAll]
  refine ⟨h.result, h.state, ?_⟩
  have behind := h.sent
  simp only [sent, List.append_assoc, List.filter_append] at behind ⊢
  rw [same, behind]

/-- The frames for all sources, of which that for the one source is left. -/
private theorem filter_fanOut (distinct : r.sources.Nodup) (there : s ∈ r.sources) (p : Picture) (b : Buffer) :
    (r.fanOut p b).filter (fun e => e.topic == s.topic && !e.isShutdown) =
      ((r.narrowed s).fanOut p b).filter (!·.isShutdown) := by
  have alone : (r.narrowed s).sources = [s] := by
    cases h : r.sources with
    | nil => exact absurd (h ▸ there) List.not_mem_nil
    | cons => simp [narrowed, h]
  unfold fanOut
  rw [filter_map_topic distinct there (fun _ => rfl) fun _ => Source.isShutdown_frame _ _ _ _, alone]
  simp

private theorem seen_build (distinct : r.sources.Nodup) (there : s ∈ r.sources) (initialSize : Transformation)
    (b : Buffer) {format : StreamFormat} (started : r.isStarted) (known : r.tracker.format = some format) :
    Seen s ((r.build initialSize b).map some).runOpen (((r.narrowed s).build initialSize b).map some).runOpen := by
  have carried : (r.narrowed s).contentOf b = r.contentOf b := rfl
  have starts : (r.narrowed s).isStarted := by
    rw [isStarted_narrowed]
    exact started
  rcases build_cases initialSize b started known with ⟨name, refused, built⟩ | ⟨content, last, accepted, final, built⟩
  · rcases build_cases initialSize b starts known with ⟨name', refused', built'⟩ | ⟨_, _, accepted', -, -⟩
    · rw [carried, refused] at refused'
      cases refused'
      rw [built, built']
      exact ⟨rfl, rfl, rfl⟩
    · rw [carried, refused] at accepted'
      cases accepted'
  · rcases build_cases initialSize b starts known with ⟨_, refused', -⟩ | ⟨content', last', accepted', final', built'⟩
    · rw [carried, accepted] at refused'
      cases refused'
    · rw [carried, accepted] at accepted'
      cases accepted'
      obtain ⟨front, whole⟩ := List.getLast?_eq_some_iff.1 final
      obtain ⟨front', part⟩ := List.getLast?_eq_some_iff.1 final'
      have same := filter_fanOut distinct there (pictureOf format initialSize content b r) b
      change _ = ((r.narrowed s).fanOut (pictureOf format initialSize content b (r.narrowed s)) b).filter _ at same
      rw [whole, part] at same
      rw [built, built', whole, part, List.dropLast_concat, List.dropLast_concat, Script.map_pushAll,
        Script.map_pushAll, Script.runOpen_pushAll, Script.runOpen_pushAll]
      refine ⟨rfl, rfl, ?_⟩
      simpa [sent, Script.map] using same

private theorem seen_transform (made : r.IsOf c) (distinct : r.sources.Nodup)
    (there : r.isStarted → s ∈ r.sources) (files : Files) (b : Buffer) :
    Seen s ((r.transform files b).map some).runOpen (((r.narrowed s).transform files b).map some).runOpen := by
  cases started : r.isStarted with
  | false =>
    have none_left : r.sources.isEmpty := by simpa [isStarted] using started
    have none_left' : (r.narrowed s).sources.isEmpty := by simp [narrowed, none_left]
    unfold transform
    rw [if_pos none_left, if_pos none_left']
    exact ⟨rfl, rfl, rfl⟩
  | true =>
    have starts : (r.narrowed s).isStarted := by
      rw [isStarted_narrowed]
      exact started
    cases negotiated : r.initialSize with
    | none =>
      have missing : (r.narrowed s).initialSize = none := negotiated
      have some_source : ¬ r.sources.isEmpty := by simpa [isStarted] using started
      have some_source' : ¬ (r.narrowed s).sources.isEmpty := by simpa [isStarted] using starts
      unfold transform
      rw [if_neg some_source, if_neg some_source', negotiated, missing]
      exact ⟨rfl, rfl, rfl⟩
    | some initialSize =>
      obtain ⟨format, known⟩ := Option.isSome_iff_exists.1 (made.format (Option.isSome_of_eq_some negotiated))
      have stream := (r.tracker.sameStream_enter (r.tracker.prepare files).tracker).trans
        (r.tracker.sameStream_prepare files)
      have alone : (r.narrowed s).sources = [s] := by
        cases h : r.sources with
        | nil => exact absurd (h ▸ there started) List.not_mem_nil
        | cons => simp [narrowed, h]
      rw [transform_eq files b started negotiated, transform_eq files b starts (r := r.narrowed s) negotiated,
        Script.map_noteAll, Script.map_noteAll, Script.map_pushAll, Script.map_pushAll]
      apply seen_noteAll
      apply seen_pushAll
      · change _ = (if r.tracker.boundary then endOfStreamRound (r.narrowed s).sources else []).filter _
        rw [alone]
        cases r.tracker.boundary with
        | false => rfl
        | true =>
          rw [if_pos rfl, if_pos rfl, filter_round distinct (there started)]
          simp [endOfStreamRound]
      · have same : ((r.narrowed s).tracker.prepare files).failure = (r.tracker.prepare files).failure := rfl
        rw [same]
        cases (r.tracker.prepare files).failure with
        | some f => exact ⟨rfl, rfl, rfl⟩
        | none =>
          exact seen_build (r := { r with tracker := r.tracker.enter (r.tracker.prepare files).tracker })
            distinct (there started) initialSize b started (stream.format.trans known)

/-! ### Whole runs -/

/-- A step of the relay with all sources is seen as a step of the relay with one. -/
private theorem seen_step {m n : Moment} (made : m.before.IsOf c) (split : c.sources = .ok sources)
    (there : s ∈ sources) (taken : m.step.IsOpen) (same : n = ⟨m.before.narrowed s, m.step⟩) :
    Seen s m.outcome n.outcome := by
  have sources_of : m.before.config.sources = .ok sources := made.sources_config.trans split
  have present : m.before.isStarted → s ∈ m.before.sources := by
    intro started
    have some_source : m.before.sources ≠ [] := by simpa [isStarted] using started
    have all := (made.sources.resolve_left some_source).symm.trans split
    rw [Except.ok.inj all]
    exact there
  have distinct := made.nodup_sources
  subst same
  obtain ⟨r, operation, files, accepts⟩ := m
  cases operation with
  | start => exact seen_start sources_of there rfl rfl
  | stop => exact ⟨rfl, rfl, rfl⟩
  | negotiate caps => exact seen_negotiate rfl rfl
  | relocate location => exact ⟨rfl, rfl, rfl⟩
  | handle event =>
    cases event with
    | caps caps => exact seen_negotiate rfl rfl
    | tag location =>
      cases location with
      | some location => exact seen_openFile rfl rfl
      | none => exact ⟨rfl, rfl, rfl⟩
    | endOfStream =>
      cases started : r.isStarted with
      | true =>
        have ending : Moment.atEnd ⟨r, .handle .endOfStream, files, accepts⟩ := by
          rw [Moment.atEnd, started]
          rfl
        exact seen_endStream distinct (present started) taken ending rfl
      | false =>
        have none_left : r.sources.isEmpty := by simpa [isStarted] using started
        have none_left' : (r.narrowed s).sources.isEmpty := by simp [narrowed, none_left]
        have refused {q : Relay} (h : q.sources.isEmpty) :
            q.perform files (.handle .endOfStream) = .done (.error .notStarted) q := by
          change q.endStream.map _ = _
          rw [endStream, if_pos h]
          rfl
        exact seen_of_silent [] (refused none_left) (refused none_left') rfl
  | transform b =>
    cases taken
    exact seen_transform made distinct present files b

/-- For each of its sources, a relay does what the relay with that source alone does: step by step the results are
the same, the trackers are the same, and the envelopes under the topic of the source are the same, but for requests
to shut down. -/
theorem narrowed_of_reached (made : ofConfig c = .ok r) (split : c.sources = .ok sources) (there : s ∈ sources) :
    ofConfig (c.narrowed s) = .ok (r.narrowed s) ∧
      ∀ (past : List Step) (next : Step), (∀ t ∈ next :: past, t.IsOpen) →
        let m : Moment := ⟨r.reached past, next⟩
        let n : Moment := ⟨(r.narrowed s).reached past, next⟩
        Option.isSome <$> n.outcome.result = Option.isSome <$> m.outcome.result ∧
          n.after.tracker = m.after.tracker ∧
          m.emitted.filter (fun e => e.topic == s.topic && !e.isShutdown) = n.emitted.filter (!·.isShutdown) := by
  have follows : ∀ past : List Step, (∀ t ∈ past, t.IsOpen) →
      (r.narrowed s).reached past = (r.reached past).narrowed s := by
    intro past
    induction past with
    | nil => exact fun _ => rfl
    | cons step past ih =>
      intro taken
      rw [List.forall_mem_cons] at taken
      have kept := isOf_reached (isOf_ofConfig made) past
      change (Moment.mk ((r.narrowed s).reached past) step).after = _
      rw [ih taken.2]
      exact (seen_step (m := ⟨r.reached past, step⟩) kept split there taken.1 rfl).state
  refine ⟨narrowed_ofConfig made s, ?_⟩
  intro past next taken m n
  rw [List.forall_mem_cons] at taken
  have kept := isOf_reached (isOf_ofConfig made) past
  have same : n = ⟨m.before.narrowed s, m.step⟩ := congrArg (Moment.mk · next) (follows past taken.2)
  have seen := seen_step kept split there taken.1 same
  refine ⟨seen.result, ?_, seen.sent⟩
  rw [Moment.after, seen.state]
  rfl

/-- Started, and with a format. -/
def pairStarted : List Step := [
  { operation := .negotiate { name := "video/x-h264", width := some 640, height := some 480 } },
  { operation := .start }]

/-- Of the two frames for a buffer, the relay for the second source alone sends one. -/
theorem narrowed_pairStarted :
    let m : Moment := ⟨pairRelay.reached pairStarted, { operation := .transform {} }⟩
    let n : Moment := ⟨(pairRelay.narrowed ⟨"cam-1"⟩).reached pairStarted, { operation := .transform {} }⟩
    (m.emitted.length = 2 ∧ n.emitted.length = 1) ∧
      m.emitted.filter (fun e => e.topic == Source.topic ⟨"cam-1"⟩ && !e.isShutdown) =
        n.emitted.filter (!·.isShutdown) := by
  intro m n
  have taken : ∀ t ∈ { operation := .transform {} } :: pairStarted, t.IsOpen := by
    simp [pairStarted, Step.IsOpen]
  refine ⟨by decide +kernel, ?_⟩
  obtain ⟨-, narrowed⟩ := narrowed_of_reached ofConfig_pairConfig sources_pairConfig (s := ⟨"cam-1"⟩) (by simp)
  exact (narrowed pairStarted { operation := .transform {} } taken).2.2

end Relay

end FrameStream
