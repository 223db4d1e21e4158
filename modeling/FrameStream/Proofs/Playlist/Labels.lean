import FrameStream.Proofs.Playlist.Showing

/-!
# Frames are labelled with their file

A playlist tells of caps only when they differ from those of the file before.  As long as none of them are refused,
the format that the relay works with is nevertheless that of the open file (`negotiated_reached`); so every frame
tells of the file that its buffer was read from and of the format of that file, also if the file was announced in
vain as its metadata is faulty (`labelled_of_reached`).
-/

namespace FrameStream

/-- The frame tells of the path and the format. -/
structure Frame.IsLabelled (f : Frame) (path : Path) (format : StreamFormat) : Prop where
  codec : f.codec = some format.codec
  width : f.width = format.width.toUInt64
  height : f.height = format.height.toUInt64
  framerate : f.framerate = format.framerate
  transformations : f.transformations = [.initialSize format.width.toUInt64 format.height.toUInt64]
  attributes : f.attributes =
    [{ scope := "default", name := "location", values := [⟨.text (Utf8.decodeLossy path.octets), none⟩] }]

/-- Text that was made of a path is its own text again. -/
private theorem isLabelled_frame (b : Buffer) (format : StreamFormat) (path : Path) (objects : List FrameObject)
    (content : FrameContent) (sourceId : String) :
    (b.frame format (some (.ofText path.display)) objects content sourceId).IsLabelled path format := by
  refine ⟨rfl, rfl, rfl, rfl, rfl, ?_⟩
  have text : Utf8.decodeLossy (Path.ofText path.display).octets = Utf8.decodeLossy path.octets :=
    Utf8.decodeLossy_encode path.display
  unfold Buffer.frame
  dsimp only
  rw [text]

namespace Showing

variable {c : Config} {r : Relay} {s : Showing} {opened : Option (Path × Media)}

/-! ### The format of the open file -/

/-- The caps that were told last are accepted, and the format is theirs. -/
def Negotiated (c : Config) (s : Showing) : Prop :=
  ∀ caps, s.playlist.lastCaps = some caps →
    ∃ format, StreamFormat.ofCaps caps c.framerate = .ok format ∧ s.relay.tracker.format = some format

private theorem Negotiated.of_same {after : Showing} (h : s.Negotiated c)
    (lastCaps : after.playlist.lastCaps = s.playlist.lastCaps)
    (format : after.relay.tracker.format = s.relay.tracker.format) : after.Negotiated c := by
  intro caps told
  rw [format]
  exact h caps (lastCaps ▸ told)

private theorem negotiated_after {call : Call} (kept : s.relay.IsOf c) (started : s.relay.isStarted)
    (does : s.Shows opened call) (accepted : ∀ m ∈ s.moment? call, m.capsRefusal? = none)
    (negotiated : s.Negotiated c) : (s.after call).Negotiated c := by
  cases does with
  | nothing moment relay unopened lastCaps => exact negotiated.of_same lastCaps (by rw [relay])
  | negotiates path media m hands opening lastCaps =>
    intro caps told
    obtain rfl : media.caps = caps := Option.some.inj (lastCaps.symm.trans told)
    have framerate : m.before.config.framerate = c.framerate := by rw [hands.before, kept.config]
    rcases (Relay.caps_cases hands.asked).2 with ⟨format, made, tracker⟩ | ⟨refused, -⟩
    · refine ⟨format, framerate ▸ made, ?_⟩
      rw [hands.after, tracker]
      rfl
    · rw [accepted m hands.moment] at refused
      cases refused
  | locates path media m hands last lastCaps =>
    refine negotiated.of_same lastCaps ?_
    rw [hands.after, (Relay.outcome_opened hands.asked).2, ← hands.before]
    exact (m.before.tracker.sameStream_onTag m.step.files _).format
  | plays path media b m hands unopened last there location settled lastCaps =>
    refine negotiated.of_same lastCaps ?_
    rw [← hands.before] at kept settled ⊢
    rw [hands.after]
    cases Relay.served_of_isSettled kept hands.taken hands.asked settled with
    | early refused emitted after => rw [after]
    | unsupported name type emitted behind => exact behind.stream.format
    | shown p shown emitted behind => exact behind.stream.format
  | ends m hands unopened lastCaps finished =>
    refine negotiated.of_same lastCaps ?_
    rw [← hands.before] at started ⊢
    rw [hands.after, (Relay.ended_of_started started hands.asked hands.taken).2]
    rfl

/-- As long as no caps are refused, the format is that of the caps told last. -/
theorem negotiated_reached (kept : s.relay.IsOf c) (started : s.relay.isStarted) (tracks : s.Tracks none)
    (calls : List Call) (accepted : ∀ m ∈ s.history calls, m.capsRefusal? = none) :
    (s.reached calls).Negotiated c := by
  induction calls with
  | nil =>
    intro caps told
    have silent : s.playlist.lastCaps = none := tracks.lastCaps
    rw [reached, silent] at told
    cases told
  | cons call past ih =>
    have kept' := isOf_reached kept past
    have started' := isStarted_reached started past
    have does := (shows_cases kept' started' (tracks_reached kept started tracks past) call).1
    refine negotiated_after kept' started' does ?_ (ih ?_)
    · intro m hm
      exact accepted m (List.mem_append_left _ (Option.mem_toList.2 hm))
    · intro m hm
      exact accepted m (List.mem_append_right _ hm)

/-! ### Frames -/

theorem isSized_reached (sized : s.relay.IsSized) (calls : List Call) : (s.reached calls).relay.IsSized := by
  induction calls with
  | nil => exact sized
  | cons call past ih => exact ih.of_change (change_after _ call)

/-- Behind the end of the segment before, if there is one, every source gets a frame for the buffer that tells of the
file and the format. -/
def Labels (m : Relay.Moment) (b : Buffer) (path : Path) (format : StreamFormat) : Prop :=
  ∃ (frame : String → Frame) (raw : Option Bytes),
    (∀ sourceId, (frame sourceId).IsLabelled path format ∧ (frame sourceId).sourceId = sourceId) ∧
    m.emitted = m.round ++ m.before.sources.map fun s => s.bufferEnvelope (.frame (frame s.id)) b.timing raw

/-- Every envelope that ends no stream is that of a source, at the time of the buffer, and holds a frame that tells of
the file and the format. -/
theorem Labels.holds {m : Relay.Moment} {b : Buffer} {path : Path} {format : StreamFormat}
    (labels : Labels m b path format) {e : Envelope} (sent : e ∈ m.emitted) (plain : e.isEndOfStream = false) :
    ∃ s ∈ m.before.sources, ∃ f raw,
      e.Holds s f raw ∧ e.timing = b.timing ∧ f.sourceId = s.id ∧ f.IsLabelled path format := by
  obtain ⟨frame, raw, own, emitted⟩ := labels
  rw [emitted] at sent
  rcases List.mem_append.1 sent with ends | sent
  · rw [(Relay.Moment.ends_of_mem_round ends).1] at plain
    cases plain
  · obtain ⟨s, there, rfl⟩ := List.mem_map.1 sent
    exact ⟨s, there, frame s.id, raw, s.holds_bufferEnvelope _ _ _, rfl, (own s.id).2, (own s.id).1⟩

private theorem labels_of_shown {m : Relay.Moment} {b : Buffer} {path : Path} {format : StreamFormat} {p : Picture}
    (sized : m.before.IsSized) (location : m.before.tracker.location = some (.ofText path.display))
    (known : m.before.tracker.format = some format) (shown : m.entered.Depicts b p)
    (emitted : m.emitted = m.round ++ m.entered.fanOut p b) : Labels m b path format := by
  have stream := m.sameStream_entered
  have entered : m.before.Change m.entered := .tracked _ stream
  have same : p.format = format := by
    have there := shown.format.symm.trans stream.format
    rw [known] at there
    exact Option.some.inj there
  have frame (sourceId : String) : p.frame sourceId =
      b.frame format (some (.ofText path.display))
        ((m.entered.tracker.nextRecord.1.map FrameMetadata.objects).getD []) p.content sourceId := by
    have there : m.entered.tracker.location = some (.ofText path.display) := stream.location.trans location
    rw [shown.frame_eq (sized.of_change entered), same, there]
  refine ⟨p.frame, if p.content.isExternal then some b.data else none, fun sourceId => ⟨?_, ?_⟩, ?_⟩
  · rw [frame]
    exact isLabelled_frame b format path _ p.content sourceId
  · exact p.sourceId_frame sourceId
  · rw [emitted, Relay.fanOut, ← shown.timing]
    rfl

/-- As long as no caps are refused, every frame tells of the file that its buffer was read from, by the text of its
path and in the format that follows from the caps of its reader; and every buffer gives frames, whatever became of the
metadata, unless they are of a type that cannot be produced. -/
theorem labelled_of_reached (made : Relay.ofConfig c = .ok r) (steps : List Relay.Step)
    (started : (r.reached steps).isStarted) (paths : List Path) (loops : Nat) (past : List Call) (call : Call)
    {m : Relay.Moment} {b : Buffer} :
    let s : Showing := ⟨.ofPaths paths loops, r.reached steps⟩
    (∀ m ∈ s.history past, m.capsRefusal? = none) →
    (s.reached past).moment? call = some m → m.step.operation = .transform b →
    ∃ path media format, s.opened past = some (path, media) ∧ .ok b ∈ media.buffers ∧
      StreamFormat.ofCaps media.caps c.framerate = .ok format ∧
      ((∃ name, c.frameType = .other name ∧ m.emitted = m.round) ∨ Labels m b path format) := by
  intro s accepted moment asked
  have made_of : s.relay.IsOf c := Relay.isOf_reached (Relay.isOf_ofConfig made) steps
  have tracks : (s.reached past).Tracks (s.opened past) :=
    tracks_reached made_of started (tracks_ofPaths paths loops _) past
  have kept : (s.reached past).relay.IsOf c := isOf_reached made_of past
  have running : (s.reached past).relay.isStarted := isStarted_reached started past
  have sized : (s.reached past).relay.IsSized := isSized_reached (Relay.isSized_reached made steps) past
  have negotiated := negotiated_reached made_of started (tracks_ofPaths paths loops _) past accepted
  have asks {o : Relay.Operation} {m' : Relay.Moment} (hands : (s.reached past).Hands call o m') :
      m' = m ∧ o = .transform b := by
    obtain rfl : m' = m := Option.some.inj (hands.moment.symm.trans moment)
    exact ⟨rfl, hands.asked.symm.trans asked⟩
  cases (shows_cases kept running tracks call).1 with
  | nothing silent =>
    rw [moment] at silent
    cases silent
  | negotiates path media m' hands => cases (asks hands).2
  | locates path media m' hands => cases (asks hands).2
  | ends m' hands => cases (asks hands).2
  | plays path media b' m' hands unopened last there location settled =>
    obtain ⟨rfl, same⟩ := asks hands
    obtain rfl : b' = b := Relay.Operation.transform.inj same
    rw [last] at tracks
    obtain ⟨format, made_format, known⟩ := negotiated media.caps tracks.lastCaps
    refine ⟨path, media, format, last, there, made_format, ?_⟩
    rw [← hands.before] at kept running sized known location settled
    cases Relay.served_of_isSettled kept hands.taken hands.asked settled with
    | early refused =>
      have size : m'.before.initialSize.isSome := by
        rw [sized, known]
        rfl
      rw [Relay.Moment.admitted, hands.asked, running, size] at refused
      cases refused
    | unsupported name type emitted => exact .inl ⟨name, type, emitted⟩
    | shown p shown emitted => exact .inr (labels_of_shown sized location known shown emitted)

/-- Another file was played before. -/
def readingStarted : List Relay.Step := [
  { operation := .negotiate { name := "video/x-vp8", width := some 320, height := some 240 } },
  { operation := .relocate (some (.ofText "before.mp4")) },
  { operation := .start }]

/-- Every file is the same, and the metadata beside it is cut off. -/
def faultySidecar : Call where
  opener := fun _ => .ok ⟨{ name := "video/x-h264", width := some 640, height := some 480 }, [.ok {}]⟩
  files := { files := [([Utf8.encode "a.json"], Utf8.encode "[")] }

/-- The file is announced in vain, and its frame goes out with the right label. -/
theorem labelled_faultySidecar :
    let s : Showing := ⟨.ofPaths [.ofText "a.mp4"] 0, Relay.recordingRelay.reached readingStarted⟩
    let announced : Relay.Moment := ⟨(s.reached [faultySidecar]).relay,
      { operation := .handle (.tag (some "a.mp4")), files := faultySidecar.files }⟩
    let m : Relay.Moment := ⟨(s.reached [faultySidecar, faultySidecar]).relay,
      { operation := .transform {}, files := faultySidecar.files }⟩
    (s.reached [faultySidecar]).moment? faultySidecar = some announced ∧
      announced.outcome.result.isOk = false ∧
      Labels m {} (.ofText "a.mp4") ⟨"h264", 640, 480, "30/1"⟩ := by
  intro s announced m
  have started : (Relay.recordingRelay.reached readingStarted).isStarted := by decide +kernel
  have accepted : (s.history [faultySidecar, faultySidecar]).all (·.capsRefusal?.isNone) := by decide +kernel
  have refused : announced.outcome.result.isOk = false := by decide +kernel
  obtain ⟨path, media, format, last, -, known, labels⟩ :=
    labelled_of_reached Relay.ofConfig_recordingConfig readingStarted started [.ofText "a.mp4"] 0
      [faultySidecar, faultySidecar] faultySidecar
      (fun m hm => Option.isNone_iff_eq_none.1 (List.all_eq_true.1 accepted m hm)) (m := m) rfl rfl
  have there : s.opened [faultySidecar, faultySidecar] =
      some (.ofText "a.mp4", ⟨{ name := "video/x-h264", width := some 640, height := some 480 }, [.ok {}]⟩) := rfl
  cases there.symm.trans last
  have here : StreamFormat.ofCaps { name := "video/x-h264", width := some 640, height := some 480 }
      Relay.recordingConfig.framerate = .ok ⟨"h264", 640, 480, "30/1"⟩ := rfl
  obtain rfl := Except.ok.inj (here.symm.trans known)
  refine ⟨rfl, refused, labels.resolve_left ?_⟩
  rintro ⟨name, other, -⟩
  cases other

end Showing

end FrameStream
