import FrameStream.Proofs.Config.Framerates
import FrameStream.Proofs.Relay.Pairing
import FrameStream.Proofs.Relay.Readback
import FrameStream.Proofs.Relay.Restarts

/-!
# The framerates of frames

A frame tells the framerate of the caps that were accepted last, whatever else happened since, a stop included
(`format_reached`).  Where these have none it is the one of the configuration, which was checked; but the two numbers
of a framerate in caps are not, so that a frame may tell of one with zero below the line (`framerate_of_reached`).
-/

namespace FrameStream

theorem Picture.framerate_frame (p : Picture) (sourceId : String) :
    (p.frame sourceId).framerate = p.format.framerate := by
  unfold frame
  split <;> rfl

/-- The framerate of caps, as it is written, or else the default one. -/
def Caps.framerateText (caps : Caps) (default : String) : String :=
  match caps.framerate with
  | some (num, den) => s!"{num}/{den}"
  | none => default

/-- The framerate of a format is that of its caps. -/
theorem StreamFormat.framerate_ofCaps {caps : Caps} {default : String} {format : StreamFormat}
    (described : ofCaps caps default = .ok format) : format.framerate = caps.framerateText default := by
  unfold ofCaps at described
  split at described
  · cases described
  · split at described
    · cases described
    · split at described
      · cases described
      · cases described
        rfl

/-- With a default that is a framerate, only a framerate with zero below the line is none. -/
theorem Caps.isFramerate_framerateText (caps : Caps) {default : String} (valid : isFramerate default = true) :
    isFramerate (caps.framerateText default) = true ↔ ∀ num, caps.framerate ≠ some (num, 0) := by
  unfold framerateText
  cases framerate : caps.framerate with
  | none => exact ⟨fun _ num zero => (by cases zero), fun _ => valid⟩
  | some pair =>
    obtain ⟨num, den⟩ := pair
    rw [isFramerate_fraction, bne_iff_ne]
    constructor
    · rintro other num' same
      cases same
      exact other rfl
    · rintro other rfl
      exact other num rfl

namespace Relay

variable {c : Config} {r : Relay} {m : Moment}

/-- The framerate of a configuration that is accepted was checked. -/
theorem isFramerate_of_ofConfig (made : ofConfig c = .ok r) : isFramerate c.framerate = true := by
  have valid := validate_of_ofConfig made
  by_contra invalid
  unfold Config.validate at valid
  rw [if_pos (by simpa using invalid)] at valid
  cases valid

/-! ### The format in force -/

/-- The format changes only by caps that are accepted. -/
theorem format_after (kept : m.before.IsOf c) : m.after.tracker.format = m.nextFormat := by
  have unchanged (other : m.acceptedCaps? = none) : m.nextFormat = m.before.tracker.format := by
    rw [Moment.nextFormat, other]
  by_cases stops : m.step.operation = .stop
  · rw [after_stop stops, unchanged (by rw [Moment.acceptedCaps?, stops])]
    rfl
  cases passes : m.admitted with
  | true =>
    obtain ⟨b, asked, -⟩ := Moment.passage_of_admitted kept passes
    have entered : m.entered.tracker.format = m.before.tracker.format := m.sameStream_entered.format
    have prepared := (m.before.tracker.sameStream_prepare m.step.files).format
    have taken := m.entered.tracker.sameStream_nextRecord.format
    rw [unchanged (by rw [Moment.acceptedCaps?, asked])]
    rcases frames_cases kept passes with ⟨-, tracker | tracker⟩ | ⟨-, -, tracker | tracker⟩
    · rw [tracker]
      exact prepared
    · rw [tracker, entered]
    · rw [tracker, taken, entered]
    · rw [tracker, ← entered, ← taken]
      rfl
  | false =>
    cases ending : m.atEnd with
    | true =>
      rw [unchanged (by rw [Moment.acceptedCaps?, Moment.asked_of_atEnd ending])]
      rcases Moment.atEnd_tracker ending with tracker | tracker
      · rw [tracker]
      · rw [tracker]
        rfl
    | false =>
      obtain ⟨-, -, -, change⟩ := Moment.quiet_cases stops passes ending
      cases change with
      | opened location asked tracker =>
        rw [tracker, unchanged (by rw [Moment.acceptedCaps?, asked])]
        exact (m.before.tracker.sameStream_onTag m.step.files (.ofText location)).format
      | moved location asked tracker =>
        rw [tracker, unchanged (by rw [Moment.acceptedCaps?, asked])]
        rfl
      | other _ format tracker next =>
        rw [tracker]
        exact next

/-- The format is the one that the caps describe which were accepted last. -/
theorem format_reached (made : ofConfig c = .ok r) (steps : List Step) :
    (r.reached steps).tracker.format = ((r.history steps).findSome? Moment.acceptedCaps?).bind fun caps =>
      (StreamFormat.ofCaps caps c.framerate).toOption := by
  induction steps with
  | nil =>
    unfold ofConfig at made
    split at made
    · cases made
    · cases made
      rfl
  | cons step past ih =>
    have kept : (r.reached past).IsOf c := isOf_reached (isOf_ofConfig made) past
    have after : (r.reached (step :: past)).tracker.format = (Moment.mk (r.reached past) step).nextFormat :=
      format_after kept
    have framerate : (r.reached past).config.framerate = c.framerate := by rw [kept.config]
    rw [after, Moment.nextFormat, history, List.findSome?_cons]
    cases accepted : (Moment.mk (r.reached past) step).acceptedCaps? with
    | none => exact ih
    | some caps => exact congrArg (fun default => (StreamFormat.ofCaps caps default).toOption) framerate

/-! ### Frames -/

/-- What goes out and neither ends a stream nor asks to shut down is a frame of a buffer. -/
theorem depicted_of_mem_emitted (kept : m.before.IsOf c) {e : Envelope} (he : e ∈ m.emitted)
    (continues : e.isEndOfStream = false) (stays : e.isShutdown = false) :
    ∃ b p, m.step.operation = .transform b ∧ m.entered.Depicts b p ∧ e ∈ m.entered.fanOut p b := by
  cases passes : m.admitted with
  | true =>
    obtain ⟨b, asked, -⟩ := Moment.passage_of_admitted kept passes
    obtain ⟨p, shown, there⟩ := depicted_of_mem_handed kept asked (Moment.mem_handed_of_mem_emitted he) continues
    exact ⟨b, p, asked, shown, there⟩
  | false =>
    exfalso
    by_cases stops : m.step.operation = .stop
    · have silent : m.emitted = [] := by
        unfold Moment.emitted Moment.primary Moment.outcome Moment.script
        rw [stops]
        rfl
      rw [silent] at he
      cases he
    cases ending : m.atEnd with
    | true =>
      have ended {e : Envelope} (round : e ∈ endOfStreamRound m.before.sources) : e.isEndOfStream = true :=
        (isEndOfStream_of_mem_round round).1
      have round : e ∉ endOfStreamRound m.before.sources := fun round => by simp [ended round] at continues
      rcases (Moment.atEnd_cases ending).2 with ⟨others, emitted, requests, -⟩ | ⟨n, -, emitted, -⟩
      · rw [emitted, List.mem_append] at he
        rw [requests e (he.resolve_left round)] at stays
        cases stays
      · rw [emitted] at he
        exact round (List.mem_of_mem_take he)
    | false =>
      obtain ⟨-, emitted, -⟩ := Moment.quiet_cases stops passes ending
      rw [emitted] at he
      cases he

/-- A frame tells the framerate of the caps that were accepted last, or that of the configuration if they have none.
It is one that the configuration would accept unless the caps have one with zero below the line. -/
theorem framerate_of_reached (made : ofConfig c = .ok r) (steps : List Step) (next : Step) :
    let m : Moment := ⟨r.reached steps, next⟩
    ∀ e ∈ m.emitted, e.isEndOfStream = false → e.isShutdown = false →
      ∃ b, ∃ p : Picture, ∃ s caps, next.operation = .transform b ∧ s ∈ m.before.sources ∧
        e = s.bufferEnvelope (.frame (p.frame s.id)) p.timing (if p.content.isExternal then some b.data else none) ∧
        (r.history steps).findSome? Moment.acceptedCaps? = some caps ∧
        (p.frame s.id).framerate = caps.framerateText c.framerate ∧
        (isFramerate (p.frame s.id).framerate = true ↔ ∀ num, caps.framerate ≠ some (num, 0)) := by
  intro m e he continues stays
  have kept : m.before.IsOf c := isOf_reached (isOf_ofConfig made) steps
  obtain ⟨b, p, asked, shown, framed⟩ := depicted_of_mem_emitted kept he continues stays
  obtain ⟨s, there, rfl⟩ := List.mem_map.1 framed
  have format : (r.reached steps).tracker.format = some p.format := m.sameStream_entered.format.symm.trans shown.format
  rw [format_reached made steps, Option.bind_eq_some_iff] at format
  obtain ⟨caps, accepted, described⟩ := format
  have framerate : (p.frame s.id).framerate = caps.framerateText c.framerate := by
    rw [p.framerate_frame]
    cases made : StreamFormat.ofCaps caps c.framerate with
    | error fault =>
      rw [made] at described
      cases described
    | ok format =>
      rw [made] at described
      cases described
      exact StreamFormat.framerate_ofCaps made
  refine ⟨b, p, s, caps, asked, there, rfl, accepted, framerate, ?_⟩
  rw [framerate]
  exact caps.isFramerate_framerateText (isFramerate_of_ofConfig made)

/-- Of two caps the first have a framerate with zero below the line, and the second no size. -/
def stilled : List Step := [
  { operation := .start },
  { operation := .stop },
  { operation := .negotiate { name := "video/x-h264", framerate := some (30, 1) } },
  { operation := .handle
      (.caps { name := "video/x-h264", width := some 640, height := some 480, framerate := some (30, 0) }) }]

/-- So they are refused, and a frame tells the framerate of the first ones, though the relay was stopped since. -/
theorem framerate_stilled :
    let m : Moment := ⟨recordingRelay.reached stilled, { operation := .transform {} }⟩
    m.succeeded ∧ ∃ e ∈ m.emitted, ∃ f : Frame, ∃ timing content,
      e = Source.bufferEnvelope ⟨"cam"⟩ (.frame f) timing content ∧
        f.framerate = "30/0" ∧ isFramerate f.framerate = false := by
  dsimp only
  have made := ofConfig_recordingConfig
  let m : Moment := ⟨recordingRelay.reached stilled, { operation := .transform {} }⟩
  obtain ⟨succeeds, single, plain, sources, caps⟩ : m.succeeded = true ∧ m.emitted.length = 1 ∧
      (∀ e ∈ m.emitted, e.isEndOfStream = false ∧ e.isShutdown = false) ∧ m.before.sources = [⟨"cam"⟩] ∧
      (recordingRelay.history stilled).findSome? Moment.acceptedCaps? = some
        { name := "video/x-h264", width := some 640, height := some 480, framerate := some (30, 0) } := by
    decide +kernel
  obtain ⟨e, emitted⟩ := List.length_eq_one_iff.1 single
  have there : e ∈ m.emitted := emitted ▸ List.mem_singleton_self e
  obtain ⟨b, p, s, caps', -, source, sent, accepted, framerate, valid⟩ :=
    framerate_of_reached made stilled { operation := .transform {} } e there (plain e there).1 (plain e there).2
  rw [caps] at accepted
  cases accepted
  obtain rfl : s = ⟨"cam"⟩ := List.mem_singleton.1 (sources ▸ source)
  refine ⟨succeeds, e, there, _, _, _, sent, framerate, Bool.eq_false_iff.2 fun accepted => ?_⟩
  exact valid.1 accepted 30 rfl

end Relay

end FrameStream
