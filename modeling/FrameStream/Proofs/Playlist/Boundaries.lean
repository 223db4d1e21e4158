import FrameStream.Proofs.Playlist.Showing
import FrameStream.Proofs.Relay.FanOut

/-!
# Segments of a playlist

The relay is told of a file by the text of its path, and octets that are no text are replaced in it.  So whether a
segment ends between two frames that follow each other depends on these texts alone: with an end of stream for each
file one is sent between frames of files whose texts differ as paths, and none is sent for the sake of the files
between others (`between_of_heard`).  Paths that are text are told apart as they are (`Path.sameText_ofText`), but
different files of the same text share a segment (`between_illegibleFiles`).
-/

namespace FrameStream

/-- The paths are the same to whoever is told their text. -/
def Path.sameText (p q : Path) : Bool := (Path.ofText p.display).same (.ofText q.display)

/-- Paths that are text are told apart as they are. -/
theorem Path.sameText_ofText (s t : String) :
    (Path.ofText s).sameText (.ofText t) = (Path.ofText s).same (.ofText t) := by
  have display (s : String) : (Path.ofText s).display = s := Utf8.decodeLossy_encode s
  rw [sameText, display, display]

/-- The open file and the negotiated format. -/
structure Scene where
  path : Path
  format : Option StreamFormat
  deriving DecidableEq

namespace Showing

variable {c : Config} {r : Relay} {s : Showing} {source : Source}

/-- The envelopes for a source, but for requests to shut down. -/
def addressed (source : Source) (es : List Envelope) : List Envelope :=
  es.filter fun e => e.topic == source.topic && !e.isShutdown

/-- What a call makes the relay send. -/
def emitted (s : Showing) (call : Call) : List Envelope := (s.moment? call).toList.flatMap Relay.Moment.emitted

def scene (s : Showing) (opened : Option (Path × Media)) (call : Call) : Option Scene :=
  ((s.opening? call).or opened).map fun file => ⟨file.1, s.relay.tracker.format⟩

/-- What a source hears of a call, once `opened` was opened last: what its consumers are sent, but for requests to shut
down. -/
def hears (s : Showing) (source : Source) (opened : Option (Path × Media)) (call : Call) :
    List (Option Scene × Envelope) :=
  (addressed source (s.emitted call)).map fun e => (s.scene opened call, e)

/-- What a source hears of the calls, in order. -/
def heard (s : Showing) (source : Source) : List Call → List (Option Scene × Envelope)
  | [] => []
  | call :: past => s.heard source past ++ (s.reached past).hears source (s.opened past) call

/-! ### Frames that follow each other -/

/-- What is between a frame of one file and the next frame, of another or the same file. -/
def Divides (c : Config) (source : Source) (p q : Scene) (between : List (Option Scene × Envelope)) : Prop :=
  (p.path.sameText q.path = false → between = [(some q, source.endOfStream)]) ∧
    (p.path.sameText q.path = true → c.eosOnLoopEnd = false → (c.eosOnFormatChange = true → p.format = q.format) →
      between = [])

/-- The frame that was heard last, if there is one, was of a file and with what is behind it as told. -/
def Lately (heard : List (Option Scene × Envelope)) (told : Option Scene → List (Option Scene × Envelope) → Prop) :
    Prop :=
  ∀ before behind p e, heard = before ++ (p, e) :: behind → e.isEndOfStream = false →
    (∀ x ∈ behind, x.2.isEndOfStream = true) → told p behind

/-- Frames that follow each other are divided as their files are. -/
def Divided (c : Config) (source : Source) (heard : List (Option Scene × Envelope)) : Prop :=
  ∀ before later q f, heard = before ++ (q, f) :: later → f.isEndOfStream = false →
    Lately before fun p between => ∃ p' q', p = some p' ∧ q = some q' ∧ Divides c source p' q' between

/-- The frame that was heard last was sent for the buffer before, in the segment that is in progress; unless no frames
can be produced. -/
def Underway (c : Config) (heard : List (Option Scene × Envelope)) (t : Tracker) : Prop :=
  (∃ name, c.frameType = .other name) ∨
    Lately heard fun p behind => behind = [] ∧ t.inProgress = true ∧
      ∃ scene, p = some scene ∧ t.previous = some ⟨some (.ofText scene.path.display), scene.format⟩

variable {heard : List (Option Scene × Envelope)} {told told' : Option Scene → List (Option Scene × Envelope) → Prop}

/-- The last of several is the one behind which there is nothing, or it is behind that one. -/
private theorem concat_eq_append_cons {α : Type} {l before after : List α} {x a : α}
    (h : l ++ [x] = before ++ a :: after) :
    (after = [] ∧ x = a ∧ l = before) ∨ ∃ front, after = front ++ [x] ∧ l = before ++ a :: front := by
  rcases List.eq_nil_or_concat after with rfl | ⟨front, last, rfl⟩
  · obtain ⟨same, last⟩ := List.append_inj' h rfl
    exact .inl ⟨rfl, (List.cons.inj last).1, same⟩
  · rw [List.concat_eq_append, ← List.cons_append, ← List.append_assoc] at h
    obtain ⟨same, last⟩ := List.append_inj' h rfl
    obtain rfl := (List.cons.inj last).1
    exact .inr ⟨front, by rw [List.concat_eq_append], same⟩

private theorem lately_nil : Lately [] told := by
  intro before behind p e whole
  simp at whole

private theorem Lately.concat_end {q : Option Scene} {last : Envelope} (lately : Lately heard told)
    (ends : last.isEndOfStream = true) (next : ∀ p behind, told p behind → told' p (behind ++ [(q, last)])) :
    Lately (heard ++ [(q, last)]) told' := by
  intro before behind p e whole plain all
  rcases concat_eq_append_cons whole with ⟨-, same, -⟩ | ⟨front, rfl, earlier⟩
  · obtain ⟨-, rfl⟩ := Prod.mk.inj same
    rw [plain] at ends
    cases ends
  · exact next p front (lately before front p e earlier plain fun y hy => all y (List.mem_append_left _ hy))

private theorem lately_concat_frame {q : Option Scene} {f : Envelope} (plain : f.isEndOfStream = false)
    (next : told q []) : Lately (heard ++ [(q, f)]) told := by
  intro before behind p e whole plain' all
  rcases concat_eq_append_cons whole with ⟨rfl, same, -⟩ | ⟨front, rfl, -⟩
  · obtain ⟨rfl, rfl⟩ := Prod.mk.inj same
    exact next
  · have ends := all (q, f) (List.mem_append_right _ List.mem_cons_self)
    rw [plain] at ends
    cases ends

private theorem divided_nil : Divided c source [] := by
  intro before later q f whole
  simp at whole

private theorem Divided.concat_end {p : Option Scene} {last : Envelope} (divided : Divided c source heard)
    (ends : last.isEndOfStream = true) : Divided c source (heard ++ [(p, last)]) := by
  intro before later q f whole plain
  rcases concat_eq_append_cons whole with ⟨-, same, -⟩ | ⟨front, -, earlier⟩
  · obtain ⟨-, rfl⟩ := Prod.mk.inj same
    rw [plain] at ends
    cases ends
  · exact divided before front q f earlier plain

/-- What is to be said of a frame is about the frame before it. -/
private theorem Divided.concat_frame {scene : Scene} {f : Envelope} (divided : Divided c source heard)
    (lately : Lately heard fun p between => ∃ p', p = some p' ∧ Divides c source p' scene between) :
    Divided c source (heard ++ [(some scene, f)]) := by
  intro before later q f' whole plain
  rcases concat_eq_append_cons whole with ⟨-, same, rfl⟩ | ⟨front, -, earlier⟩
  · obtain ⟨rfl, rfl⟩ := Prod.mk.inj same
    intro before' between p e there plain' all
    obtain ⟨p', known, divides⟩ := lately before' between p e there plain' all
    exact ⟨p', scene, known, rfl, divides⟩
  · exact divided before front q f' earlier plain

/-! ### Boundaries between files -/

/-- Between frames of a segment in progress, a boundary is told by the texts of the files if it is for nothing else. -/
private theorem boundary_of_underway {t : Tracker} {p q : Scene} (triggers : t.triggers = c.triggers)
    (fileEnd : c.eosOnFileEnd = true) (inProgress : t.inProgress = true)
    (previous : t.previous = some ⟨some (.ofText p.path.display), p.format⟩)
    (location : t.location = some (.ofText q.path.display)) (format : t.format = q.format) :
    (p.path.sameText q.path = false → t.boundary = true) ∧
      (p.path.sameText q.path = true → c.eosOnLoopEnd = false → (c.eosOnFormatChange = true → p.format = q.format) →
        t.boundary = false) := by
  have same : sameLocation t.location (some (.ofText p.path.display)) = p.path.sameText q.path := by
    rw [location]
    change (Path.ofText q.path.display).same (.ofText p.path.display) =
      (Path.ofText p.path.display).same (.ofText q.path.display)
    unfold Path.same
    exact Bool.beq_comm
  have file : t.triggers.fileEnd = true := by rw [triggers]; exact fileEnd
  have loop : t.triggers.loopEnd = c.eosOnLoopEnd := by rw [triggers]; rfl
  have change : t.triggers.formatChange = c.eosOnFormatChange := by rw [triggers]; rfl
  unfold Tracker.boundary
  rw [previous]
  dsimp only
  rw [same, inProgress, file, loop, change, format]
  constructor
  · intro other
    simp [other]
  · intro same noLoop unchanged
    cases formatChange : c.eosOnFormatChange with
    | true => simp [same, noLoop, unchanged formatChange]
    | false => simp [same, noLoop]

/-! ### What a source hears -/

private theorem addressed_round {sources : List Source} (distinct : sources.Nodup) (there : source ∈ sources) :
    addressed source (endOfStreamRound sources) = [source.endOfStream] :=
  filter_map_topic distinct there (fun _ => rfl) Source.isShutdown_endOfStream

/-- Before a buffer a source hears of a boundary if there is one. -/
private theorem addressed_boundary {m : Relay.Moment} (distinct : m.before.sources.Nodup)
    (there : source ∈ m.before.sources) :
    addressed source m.round = if m.before.tracker.boundary then [source.endOfStream] else [] := by
  unfold Relay.Moment.round
  split
  · exact addressed_round distinct there
  · rfl

private theorem addressed_shown {m : Relay.Moment} {b : Buffer} {p : Picture} (distinct : m.before.sources.Nodup)
    (there : source ∈ m.before.sources) (emitted : m.emitted = m.round ++ m.entered.fanOut p b) :
    ∃ f : Envelope, f.isEndOfStream = false ∧
      addressed source m.emitted = (if m.before.tracker.boundary then [source.endOfStream] else []) ++ [f] := by
  have frames := filter_map_topic distinct there
    (f := fun s =>
      s.bufferEnvelope (.frame (p.frame s.id)) p.timing (if p.content.isExternal then some b.data else none))
    (fun _ => rfl) fun _ => Source.isShutdown_frame _ _ _ _
  refine ⟨source.bufferEnvelope (.frame (p.frame source.id)) p.timing
    (if p.content.isExternal then some b.data else none), Source.isEndOfStream_frame _ _ _ _, ?_⟩
  rw [emitted, addressed, List.filter_append, ← addressed, addressed_boundary distinct there]
  exact congrArg _ frames

/-- At the end of the stream a source hears of it. -/
private theorem addressed_ended {m : Relay.Moment} (distinct : m.before.sources.Nodup)
    (there : source ∈ m.before.sources)
    (emitted : m.emitted = endOfStreamRound m.before.sources ++ m.closing) :
    addressed source m.emitted = [source.endOfStream] := by
  have requests : addressed source m.closing = [] := by
    rw [addressed, ← List.filter_filter, Relay.Moment.closing, filter_shutdownEnvelope?]
    rfl
  rw [emitted, addressed, List.filter_append, ← addressed, ← addressed, addressed_round distinct there, requests]
  rfl

/-! ### Single calls -/

private theorem Underway.of_same {t u : Tracker} (underway : Underway c heard t)
    (inProgress : u.inProgress = t.inProgress) (previous : u.previous = t.previous) : Underway c heard u := by
  rcases underway with other | lately
  · exact .inl other
  · rw [← inProgress, ← previous] at lately
    exact .inr lately

/-- Between the frame before and the one that is sent now there is what the boundary calls for. -/
private theorem divided_shown {t : Tracker} {scene : Scene} (f : Envelope) (divided : Divided c source heard)
    (lately : Lately heard fun p behind => behind = [] ∧ t.inProgress = true ∧
      ∃ scene, p = some scene ∧ t.previous = some ⟨some (.ofText scene.path.display), scene.format⟩)
    (triggers : t.triggers = c.triggers) (fileEnd : c.eosOnFileEnd = true)
    (location : t.location = some (.ofText scene.path.display)) (format : t.format = scene.format) :
    Divided c source
      (heard ++ (if t.boundary then [(some scene, source.endOfStream)] else []) ++ [(some scene, f)]) := by
  cases boundary : t.boundary with
  | true =>
    rw [if_pos rfl]
    refine (divided.concat_end source.isEndOfStream_endOfStream).concat_frame ?_
    refine lately.concat_end source.isEndOfStream_endOfStream ?_
    rintro p behind ⟨rfl, inProgress, p', rfl, previous⟩
    refine ⟨p', rfl, fun _ => rfl, fun same noLoop unchanged => ?_⟩
    have uncalled :=
      (boundary_of_underway triggers fileEnd inProgress previous location format).2 same noLoop unchanged
    rw [boundary] at uncalled
    cases uncalled
  | false =>
    rw [if_neg Bool.false_ne_true, List.append_nil]
    refine divided.concat_frame ?_
    intro before behind p e there plain all
    obtain ⟨rfl, inProgress, p', rfl, previous⟩ := lately before behind p e there plain all
    refine ⟨p', rfl, fun other => ?_, fun _ _ _ => rfl⟩
    have called := (boundary_of_underway triggers fileEnd inProgress previous location format).1 other
    rw [boundary] at called
    cases called

/-- A buffer of the open file keeps the frames divided, and its frame is the last one from then on. -/
private theorem divided_played {m : Relay.Moment} {b : Buffer} {path : Path} (kept : m.before.IsOf c)
    (taken : m.step.IsOpen) (asked : m.step.operation = .transform b) (settled : m.before.tracker.IsSettled)
    (location : m.before.tracker.location = some (.ofText path.display)) (fileEnd : c.eosOnFileEnd = true)
    (there : source ∈ m.before.sources) (divided : Divided c source heard)
    (underway : Underway c heard m.before.tracker) :
    let scene : Scene := ⟨path, m.before.tracker.format⟩
    let heard' := heard ++ (addressed source m.emitted).map fun e => (some scene, e)
    Divided c source heard' ∧ Underway c heard' m.after.tracker := by
  intro scene heard'
  have distinct := kept.nodup_sources
  cases Relay.served_of_isSettled kept taken asked settled with
  | early refused emitted after =>
    have same : heard' = heard := by
      change heard ++ _ = _
      rw [emitted]
      exact List.append_nil heard
    rw [same, after]
    exact ⟨divided, underway⟩
  | unsupported name type emitted behind =>
    refine ⟨?_, .inl ⟨name, type⟩⟩
    change Divided c source (heard ++ _)
    rw [emitted, addressed_boundary distinct there]
    split
    · exact divided.concat_end source.isEndOfStream_endOfStream
    · rw [List.map_nil, List.append_nil]
      exact divided
  | shown p shown emitted behind inProgress =>
    obtain ⟨f, plain, chunk⟩ := addressed_shown distinct there emitted
    have whole : heard' =
        heard ++ (if m.before.tracker.boundary then [(some scene, source.endOfStream)] else []) ++
          [(some scene, f)] := by
      change heard ++ _ = _
      rw [chunk]
      split <;> simp
    have lately := underway.resolve_left ?_
    · rw [whole]
      refine ⟨divided_shown f divided lately kept.triggers fileEnd location rfl,
        .inr (lately_concat_frame plain ⟨rfl, inProgress, scene, rfl, ?_⟩)⟩
      rw [behind.previous, location]
    · rintro ⟨name, type⟩
      have content := shown.content
      have same : m.entered.config.frameType = .other name := by
        change m.before.config.frameType = _
        rw [kept.config]
        exact type
      unfold Relay.contentOf at content
      rw [same] at content
      cases content

private theorem hears_of_moment {opened : Option (Path × Media)} {call : Call} {m : Relay.Moment}
    (moment : s.moment? call = some m) :
    s.hears source opened call = (addressed source m.emitted).map fun e => (s.scene opened call, e) := by
  rw [hears, emitted, moment]
  simp

/-- A call that sends nothing and does not touch the segment leaves everything as it is. -/
private theorem divided_of_silent {opened : Option (Path × Media)} {call : Call} (divided : Divided c source heard)
    (underway : s.playlist.finished = true ∨ Underway c heard s.relay.tracker)
    (nothing : s.hears source opened call = [])
    (finished : (s.after call).playlist.finished = s.playlist.finished)
    (segment : (s.after call).relay.tracker.inProgress = s.relay.tracker.inProgress ∧
      (s.after call).relay.tracker.previous = s.relay.tracker.previous) :
    Divided c source (heard ++ s.hears source opened call) ∧
      ((s.after call).playlist.finished = true ∨
        Underway c (heard ++ s.hears source opened call) (s.after call).relay.tracker) := by
  rw [nothing, List.append_nil, finished]
  exact ⟨divided, underway.imp_right fun underway => underway.of_same segment.1 segment.2⟩

/-- Caps do not touch the segment, whether they are refused or not. -/
private theorem segment_of_caps {m : Relay.Moment} {caps : Caps} (asked : m.step.operation = .handle (.caps caps)) :
    m.after.tracker.inProgress = m.before.tracker.inProgress ∧
      m.after.tracker.previous = m.before.tracker.previous := by
  rcases (Relay.caps_cases asked).2 with ⟨format, -, tracker⟩ | ⟨-, tracker⟩
  · rw [tracker]
    exact ⟨rfl, rfl⟩
  · rw [tracker]
    exact ⟨rfl, rfl⟩

/-- A file that is named does not touch the segment before there is a buffer of it. -/
private theorem segment_of_located {m : Relay.Moment} {location : String}
    (asked : m.step.operation = .handle (.tag (some location))) :
    m.after.tracker.inProgress = m.before.tracker.inProgress ∧
      m.after.tracker.previous = m.before.tracker.previous := by
  obtain ⟨_, _, _, reloaded⟩ := Tracker.reload_eq m.step.files
    { m.before.tracker with location := some (.ofText location), reopened := true }
  rw [(Relay.outcome_opened asked).2, Tracker.onTag, reloaded]
  exact ⟨rfl, rfl⟩

private theorem divided_after {opened : Option (Path × Media)} {call : Call} (kept : s.relay.IsOf c)
    (started : s.relay.isStarted) (fileEnd : c.eosOnFileEnd = true)
    (there : source ∈ s.relay.sources) (does : s.Shows opened call) (divided : Divided c source heard)
    (underway : s.playlist.finished = true ∨ Underway c heard s.relay.tracker) :
    Divided c source (heard ++ s.hears source opened call) ∧
      ((s.after call).playlist.finished = true ∨
        Underway c (heard ++ s.hears source opened call) (s.after call).relay.tracker) := by
  cases does with
  | nothing moment relay unopened lastCaps finished =>
    refine divided_of_silent divided underway ?_ finished (by rw [relay]; exact ⟨rfl, rfl⟩)
    rw [hears, emitted, moment]
    rfl
  | negotiates path media m hands opening lastCaps finished =>
    have segment := segment_of_caps hands.asked
    rw [← hands.after, hands.before] at segment
    refine divided_of_silent divided underway ?_ finished segment
    rw [hears_of_moment hands.moment, (Relay.caps_cases hands.asked).1]
    rfl
  | locates path media m hands last lastCaps finished =>
    have segment := segment_of_located hands.asked
    rw [← hands.after, hands.before] at segment
    refine divided_of_silent divided underway ?_ finished segment
    rw [hears_of_moment hands.moment, Relay.emitted_opened hands.asked]
    rfl
  | ends m hands unopened lastCaps finished =>
    rw [← hands.before] at kept started there
    rw [hears_of_moment hands.moment,
      addressed_ended kept.nodup_sources there (Relay.ended_of_started started hands.asked hands.taken).1]
    exact ⟨divided.concat_end source.isEndOfStream_endOfStream, .inl finished⟩
  | plays path media b m hands unopened last inside location settled lastCaps running =>
    rw [running, ← hands.before] at underway
    rw [← hands.before] at kept settled location there
    obtain ⟨divided, underway⟩ := divided_played kept hands.taken hands.asked settled location fileEnd there divided
      (underway.resolve_left Bool.false_ne_true)
    have scene : s.scene opened call = some ⟨path, m.before.tracker.format⟩ := by
      rw [Showing.scene, unopened, last, hands.before]
      rfl
    rw [hears_of_moment hands.moment, scene, hands.after]
    exact ⟨divided, .inr underway⟩

/-! ### Whole runs -/

private theorem divided_heard (kept : s.relay.IsOf c) (started : s.relay.isStarted) (tracks : s.Tracks none)
    (fileEnd : c.eosOnFileEnd = true) (there : source ∈ s.relay.sources) (calls : List Call) :
    Divided c source (s.heard source calls) ∧
      ((s.reached calls).playlist.finished = true ∨
        Underway c (s.heard source calls) (s.reached calls).relay.tracker) := by
  induction calls with
  | nil => exact ⟨divided_nil, .inr (.inr lately_nil)⟩
  | cons call past ih =>
    have same := sources_reached s past
    have kept' := isOf_reached kept past
    have started' := isStarted_reached started past
    have does := (shows_cases kept' started' (tracks_reached kept started tracks past) call).1
    exact divided_after kept' started' fileEnd (same ▸ there) does ih.1 ih.2

/-- With an end of stream for each file, what a source gets between a frame and the next one is told by the texts of
the paths of their files: exactly one end of stream if the texts differ as paths, and nothing if they do not, unless
an end of stream is asked for when a file is opened again, or for another format and that is not the same. -/
theorem between_of_heard (made : Relay.ofConfig c = .ok r) (steps : List Relay.Step)
    (started : (r.reached steps).isStarted) (fileEnd : c.eosOnFileEnd = true) (paths : List Path) (loops : Nat)
    (calls : List Call) (there : source ∈ (r.reached steps).sources)
    {before between after : List (Option Scene × Envelope)} {p q : Option Scene} {e f : Envelope} :
    let s : Showing := ⟨.ofPaths paths loops, r.reached steps⟩
    s.heard source calls = before ++ (p, e) :: between ++ (q, f) :: after →
    e.isEndOfStream = false → f.isEndOfStream = false → (∀ x ∈ between, x.2.isEndOfStream = true) →
    ∃ p' q', p = some p' ∧ q = some q' ∧ Divides c source p' q' between := by
  intro s whole plain plain' all
  have kept : s.relay.IsOf c := Relay.isOf_reached (Relay.isOf_ofConfig made) steps
  have divided := (divided_heard kept started (tracks_ofPaths paths loops _) fileEnd there calls).1
  exact divided (before ++ (p, e) :: between) after q f whole plain' before between p e rfl plain all

def playingConfig : Config := { sourceId := some "cam", frameType := .embedded }

def playingRelay : Relay := { config := playingConfig, tracker := .ofConfig playingConfig }

/-- A name that is no text. -/
def illegible (octet : UInt8) : Path := ⟨[0x61, octet, 0x2E, 0x6D, 0x70, 0x34]⟩

/-- Every file is the same. -/
def alike : Call where
  opener := fun _ => .ok ⟨{ name := "video/x-h264", width := some 640, height := some 480 }, [.ok {}]⟩

/-- Nothing is sent between the frames of different files whose paths have the same text, and an end of stream is sent
before the frame of the next file. -/
theorem between_illegibleFiles :
    let s : Showing := ⟨.ofPaths [illegible 0xFF, illegible 0xFE, .ofText "b.mp4"] 0,
      playingRelay.reached [{ operation := .start }]⟩
    let scene (path : Path) : Scene := ⟨path, some ⟨"h264", 640, 480, "30/1"⟩⟩
    let source : Source := ⟨"cam"⟩
    (illegible 0xFF).same (illegible 0xFE) = false ∧
    ∃ e f ending g, s.heard source (List.replicate 7 alike) =
        [(some (scene (illegible 0xFF)), e), (some (scene (illegible 0xFE)), f),
          (some (scene (.ofText "b.mp4")), ending), (some (scene (.ofText "b.mp4")), g)] ∧
      e.isEndOfStream = false ∧ f.isEndOfStream = false ∧ ending = source.endOfStream ∧ g.isEndOfStream = false := by
  intro s scene source
  have made : Relay.ofConfig playingConfig = .ok playingRelay := rfl
  have started : (playingRelay.reached [{ operation := .start }]).isStarted := by decide +kernel
  have there : source ∈ (playingRelay.reached [{ operation := .start }]).sources := by decide +kernel
  have outline : (s.heard source (List.replicate 7 alike)).map (fun x => (x.1, x.2.isEndOfStream)) =
      [(some (scene (illegible 0xFF)), false), (some (scene (illegible 0xFE)), false),
        (some (scene (.ofText "b.mp4")), true), (some (scene (.ofText "b.mp4")), false)] := by decide +kernel
  obtain ⟨⟨_, e⟩, _, whole, first, outline⟩ := List.map_eq_cons_iff.1 outline
  obtain ⟨⟨_, f⟩, _, rfl, second, outline⟩ := List.map_eq_cons_iff.1 outline
  obtain ⟨⟨_, ending⟩, _, rfl, third, outline⟩ := List.map_eq_cons_iff.1 outline
  obtain ⟨⟨_, g⟩, _, rfl, fourth, outline⟩ := List.map_eq_cons_iff.1 outline
  obtain rfl := List.map_eq_nil_iff.1 outline
  obtain ⟨rfl, first⟩ := Prod.mk.inj first
  obtain ⟨rfl, second⟩ := Prod.mk.inj second
  obtain ⟨rfl, third⟩ := Prod.mk.inj third
  obtain ⟨rfl, fourth⟩ := Prod.mk.inj fourth
  have cut : s.heard source (List.replicate 7 alike) =
      [(some (scene (illegible 0xFF)), e)] ++ (some (scene (illegible 0xFE)), f) ::
        [(some (scene (.ofText "b.mp4")), ending)] ++ (some (scene (.ofText "b.mp4")), g) :: [] := whole
  obtain ⟨p, q, known, known', divides, -⟩ := between_of_heard made [{ operation := .start }] started rfl _ 0
    (List.replicate 7 alike) there cut second fourth (fun x hx => by
      rw [List.mem_singleton.1 hx]
      exact third)
  obtain rfl := Option.some.inj known
  obtain rfl := Option.some.inj known'
  have only := List.singleton_inj.1 (divides (by decide +kernel))
  exact ⟨by decide +kernel, e, f, ending, g, whole, first, second, (Prod.mk.inj only).2, fourth⟩

end Showing

end FrameStream
