import FrameStream.Proofs.Relay.Frames
import FrameStream.Proofs.Relay.Segments

/-!
# Sinks that refuse

A sink may refuse any push and take later ones.  What the tracker calls a segment in progress is then not what was
delivered: a buffer counts only once all of its frames were taken, although the first of them are out
(`inProgress_of_reached`).  So the frames of a buffer that was broken off are not followed by an end of stream when
the next file begins, unless another buffer of the same segment went through (`inProgress_brokenFanOut`).
-/

namespace FrameStream.Relay

namespace Moment

/-- A frame is taken by the sink, or left to the host. -/
def delivers (m : Moment) : Bool := m.emitted.any fun e => !e.isEndOfStream && !e.isShutdown

/-- Frames of a buffer are taken, but not all of them. -/
def breaksOff (m : Moment) : Bool := m.delivers && !m.succeeded

end Moment

variable {c : Config} {r : Relay} {past : List Moment} {m : Moment}

/-! ### Deliveries -/

theorem admitted_of_succeeded (h : m.succeeded) : m.admitted = true := by
  have asks : m.step.operation.isTransform = true := by
    rw [Moment.succeeded, Bool.and_eq_true] at h
    exact h.1
  have stays : m.step.operation ≠ .stop := by
    intro stops
    rw [stops] at asks
    cases asks
  have midway : m.atEnd = false := by
    apply Bool.eq_false_iff.2
    intro ending
    rw [Moment.asked_of_atEnd ending] at asks
    cases asks
  by_contra refused
  obtain ⟨-, -, fails, -⟩ := Moment.quiet_cases stays (Bool.eq_false_iff.2 refused) midway
  rw [fails] at h
  cases h

/-- A buffer that goes through delivers a frame. -/
private theorem delivers_of_succeeded (made : m.before.IsOf c) (h : m.succeeded) : m.delivers = true := by
  have passes := admitted_of_succeeded h
  obtain ⟨b, asked, -⟩ := Moment.passage_of_admitted made passes
  obtain ⟨p, -, emitted⟩ := sent_of_succeeded made asked h
  obtain ⟨s, others, sources⟩ := exists_source (isStarted_of_admitted passes)
  have entered : m.entered.sources = s :: others := sources
  rw [Moment.delivers, emitted, fanOut, entered, List.map_cons, List.any_append, List.any_cons,
    Source.isEndOfStream_frame, Source.isShutdown_frame]
  simp

/-- Whatever the sink refuses, no more than the round of a boundary is sent before a buffer, and all of it if nothing
is refused. -/
theorem ends_of_admitted (made : m.before.IsOf c) (passes : m.admitted) :
    m.emitted.filter Envelope.isEndOfStream <+: m.round ∧
      (m.step.IsOpen → m.emitted.filter Envelope.isEndOfStream = m.round) := by
  obtain ⟨b, asked, passage⟩ := Moment.passage_of_admitted made passes
  have round : m.round.filter Envelope.isEndOfStream = m.round := by
    rw [List.filter_eq_self]
    exact fun e he => (Moment.ends_of_mem_round he).1
  have none_ends (p : Picture) (n : Nat) :
      ((m.entered.fanOut p b).take n).filter Envelope.isEndOfStream = [] := by
    rw [List.filter_eq_nil_iff]
    intro e he
    simp [(frame_of_mem_fanOut (List.mem_of_mem_take he)).1]
  cases passage with
  | interrupted shut n handed fails tracker short emitted =>
    refine ⟨?_, fun taken => absurd taken shut⟩
    have part : (m.round.take n).filter Envelope.isEndOfStream = m.round.take n := by
      rw [List.filter_eq_self] at round ⊢
      exact fun e he => round e (List.mem_of_mem_take he)
    rw [emitted, part]
    exact List.take_prefix n m.round
  | refused handed emitted =>
    rw [emitted, round]
    exact ⟨List.prefix_rfl, fun _ => rfl⟩
  | broken shut p shown n handed fails tracker emitted =>
    refine ⟨?_, fun taken => absurd taken shut⟩
    rw [emitted, List.filter_append, round, none_ends, List.append_nil]
  | sent p shown handed emitted =>
    have frames := none_ends p (m.entered.fanOut p b).length
    rw [List.take_length] at frames
    rw [emitted, List.filter_append, round, frames, List.append_nil]
    exact ⟨List.prefix_rfl, fun _ => rfl⟩

/-! ### Runs -/

/-- A segment is in progress exactly if a buffer went through to every source since the last complete round, whatever
the sink refused.  Frames that were delivered since then are missed exactly if all of them belong to buffers that were
broken off; no round is sent for those at the next boundary. -/
theorem inProgress_of_reached (made : ofConfig c = .ok r) {past : List Step}
    (running : ∀ s ∈ past, s.operation ≠ .stop) :
    let history := r.history past
    let inProgress := (r.reached past).tracker.inProgress
    inProgress = heldSince Moment.succeeded Moment.completesRound history ∧
    heldSince Moment.delivers Moment.completesRound history =
      (inProgress || heldSince Moment.breaksOff Moment.completesRound history) ∧
    ∀ next : Step, let m : Moment := ⟨r.reached past, next⟩
      let round := if inProgress && boundaryBefore c history m then endOfStreamRound m.before.sources else []
      m.admitted → m.emitted.filter Envelope.isEndOfStream <+: round ∧
        (next.IsOpen → m.emitted.filter Envelope.isEndOfStream = round) := by
  intro history inProgress
  have followed : Followed history (r.reached past) := followed_reached made running
  refine ⟨followed.inProgress, ?_, ?_⟩
  · have delivered : heldSince Moment.delivers Moment.completesRound history =
        heldSince (fun m => m.succeeded || m.breaksOff) Moment.completesRound history := by
      apply heldSince_congr
      intro m hm
      refine ⟨?_, rfl⟩
      have kept : m.before.IsOf c := isOf_of_mem_history (isOf_ofConfig made) hm
      cases succeeds : m.succeeded with
      | true => rw [delivers_of_succeeded kept succeeds, Bool.true_or]
      | false => rw [Moment.breaksOff, succeeds, Bool.not_false, Bool.and_true, Bool.false_or]
    rw [delivered, heldSince_or, ← followed.inProgress]
  · intro next m round passes
    have kept : m.before.IsOf c := isOf_reached (isOf_ofConfig made) past
    have boundary : m.round = round := by
      rw [Moment.round, boundary_of_followed kept followed]
    rw [← boundary]
    exact ends_of_admitted kept passes

/-- Three sources whose frames carry the pictures. -/
def trioConfig : Config :=
  { multistream := true, pattern := some "cam-%d", streams := 3, frameType := .embedded }

def trioRelay : Relay := { config := trioConfig, tracker := .ofConfig trioConfig }

/-- The frame of the first source was taken and that of the second refused, and then another file was named. -/
def brokenFanOut : List Step := [
  { operation := .relocate (some (.ofText "b.mp4")) },
  { operation := .transform {}, accepts := fun n => n < 1 },
  { operation := .relocate (some (.ofText "a.mp4")) },
  { operation := .negotiate { name := "video/x-h264", width := some 640, height := some 480 } },
  { operation := .start }]

/-- A frame of the first file was delivered and no round since, but no segment counts as in progress; so the frames
of the second file come without an end of stream before them. -/
theorem inProgress_brokenFanOut :
    let history := trioRelay.history brokenFanOut
    let m : Moment := ⟨trioRelay.reached brokenFanOut, { operation := .transform {} }⟩
    heldSince Moment.delivers Moment.completesRound history = true ∧ m.before.tracker.inProgress = false ∧
      boundaryBefore trioConfig history m = true ∧ m.succeeded = true ∧
      m.emitted.filter Envelope.isEndOfStream = [] := by
  intro history m
  have running : ∀ s ∈ brokenFanOut, s.operation ≠ .stop := by simp [brokenFanOut]
  have made : ofConfig trioConfig = .ok trioRelay := rfl
  obtain ⟨segment, delivered, next⟩ := inProgress_of_reached made running
  have broken : heldSince Moment.breaksOff Moment.completesRound history = true := by decide +kernel
  have idle : heldSince Moment.succeeded Moment.completesRound history = false := by decide +kernel
  have boundary : boundaryBefore trioConfig history m = true := by decide +kernel
  have succeeds : m.succeeded = true := by decide +kernel
  have flag : m.before.tracker.inProgress = false := segment.trans idle
  refine ⟨?_, flag, boundary, succeeds, ?_⟩
  · rw [delivered, broken, Bool.or_true]
  · have ends := (next { operation := .transform {} } (admitted_of_succeeded succeeds)).2 rfl
    rw [flag] at ends
    exact ends

end FrameStream.Relay
