import FrameStream.Proofs.Relay.Steps

/-!
# What a relay remembers

Of all that happened the tracker keeps three things: the buffer before, whether a file was opened since, and whether
a buffer went through to every source since a round of ends of stream was completed.  Each is a fact about the
history alone, and the tracker knows it along every run without a stop, whatever the sink refuses
(`followed_reached`).
-/

namespace FrameStream.Relay

/-- Of the moments, latest first, one has the property `p`, and none later than that has `q`. -/
def heldSince (p q : Moment → Bool) : List Moment → Bool
  | [] => false
  | m :: past => p m || (!q m && heldSince p q past)

theorem heldSince_congr {p p' q q' : Moment → Bool} {past : List Moment}
    (h : ∀ m ∈ past, p m = p' m ∧ q m = q' m) : heldSince p q past = heldSince p' q' past := by
  induction past with
  | nil => rfl
  | cons m past ih =>
    rw [List.forall_mem_cons] at h
    rw [heldSince, heldSince, h.1.1, h.1.2, ih h.2]

/-- Since the same moments, one of two things happened if the one did or the other. -/
theorem heldSince_or (p p' q : Moment → Bool) (past : List Moment) :
    heldSince (fun m => p m || p' m) q past = (heldSince p q past || heldSince p' q past) := by
  induction past with
  | nil => rfl
  | cons m past ih =>
    simp only [heldSince, ih]
    cases p m <;> cases p' m <;> cases q m <;> simp

theorem exists_of_heldSince {p q : Moment → Bool} {past : List Moment} (h : heldSince p q past) :
    ∃ m ∈ past, p m = true := by
  induction past with
  | nil => cases h
  | cons m past ih =>
    rw [heldSince, Bool.or_eq_true, Bool.and_eq_true] at h
    rcases h with here | ⟨-, earlier⟩
    · exact ⟨m, List.mem_cons_self, here⟩
    · obtain ⟨n, there, holds⟩ := ih earlier
      exact ⟨n, List.mem_cons_of_mem m there, holds⟩

namespace Moment

/-- A whole round is taken: every source is told that its stream is at an end.  A round is the first that goes out
at a moment. -/
def completesRound (m : Moment) : Bool :=
  m.before.isStarted && (endOfStreamRound m.before.sources).isPrefixOf m.emitted

end Moment

variable {c : Config} {r : Relay} {past : List Moment} {m : Moment}

/-! ### Rounds that are complete -/

theorem exists_source (started : m.before.isStarted) : ∃ s others, m.before.sources = s :: others :=
  List.exists_cons_of_ne_nil (by simpa [isStarted] using started)

theorem completesRound_of_append {others : List Envelope} (started : m.before.isStarted)
    (h : m.emitted = endOfStreamRound m.before.sources ++ others) : m.completesRound = true := by
  rw [Moment.completesRound, started, h, Bool.true_and, List.isPrefixOf_iff_prefix]
  exact List.prefix_append _ _

/-- Part of a round is not a round. -/
private theorem completesRound_of_take {n : Nat} (short : n < m.before.sources.length)
    (h : m.emitted = (endOfStreamRound m.before.sources).take n) : m.completesRound = false := by
  apply Bool.eq_false_iff.2
  intro complete
  rw [Moment.completesRound, h, Bool.and_eq_true, List.isPrefixOf_iff_prefix] at complete
  have length := complete.2.length_le
  rw [List.length_take, endOfStreamRound, List.length_map] at length
  omega

/-- Frames are no round. -/
theorem completesRound_of_frames (h : ∀ e ∈ m.emitted, e.isEndOfStream = false) :
    m.completesRound = false := by
  apply Bool.eq_false_iff.2
  intro complete
  rw [Moment.completesRound, Bool.and_eq_true, List.isPrefixOf_iff_prefix] at complete
  obtain ⟨s, others, sources⟩ := exists_source complete.1
  rw [sources] at complete
  have ends := h s.endOfStream (complete.2.subset List.mem_cons_self)
  rw [Source.isEndOfStream_endOfStream] at ends
  cases ends

/-- Before a buffer, a round is complete exactly at a boundary, whether or not frames follow. -/
theorem completesRound_of_round {frames : List Envelope} (started : m.before.isStarted)
    (h : m.emitted = m.round ++ frames) (plain : ∀ e ∈ frames, e.isEndOfStream = false) :
    m.completesRound = m.before.tracker.boundary := by
  cases boundary : m.before.tracker.boundary with
  | true =>
    rw [Moment.round, boundary, if_pos rfl] at h
    exact completesRound_of_append started h
  | false =>
    rw [Moment.round, boundary] at h
    exact completesRound_of_frames (h ▸ plain)

/-! ### What the tracker keeps -/

/-- The tracker knows the buffer before, whether a file was opened since, and whether a buffer went through since
the last complete round. -/
structure Followed (past : List Moment) (r : Relay) : Prop where
  previous : r.tracker.previous =
    (past.find? Moment.admitted).map fun m => ⟨m.before.tracker.location, m.before.tracker.format⟩
  reopened : r.tracker.reopened = heldSince Moment.opensFile Moment.admitted past
  inProgress : r.tracker.inProgress = heldSince Moment.succeeded Moment.completesRound past

theorem followed_ofConfig (made : ofConfig c = .ok r) : Followed [] r := by
  unfold ofConfig at made
  split at made
  · cases made
  · cases made
    exact ⟨rfl, rfl, rfl⟩

private theorem followed_quiet (followed : Followed past m.before) (stays : m.step.operation ≠ .stop)
    (refused : m.admitted = false) (midway : m.atEnd = false) : Followed (m :: past) m.after := by
  obtain ⟨-, emitted, fails, change⟩ := Moment.quiet_cases stays refused midway
  have silent : m.completesRound = false := completesRound_of_frames (by simp [emitted])
  have same : m.after.tracker.previous = m.before.tracker.previous ∧
      m.after.tracker.reopened = (m.opensFile || m.before.tracker.reopened) ∧
      m.after.tracker.inProgress = m.before.tracker.inProgress := by
    cases change with
    | opened location h tracker =>
      have opens : m.opensFile = true := by rw [Moment.opensFile, h]
      obtain ⟨_, _, _, reloaded⟩ := Tracker.reload_eq m.step.files
        { m.before.tracker with location := some (.ofText location), reopened := true }
      rw [tracker, Tracker.onTag, reloaded, opens]
      exact ⟨rfl, rfl, rfl⟩
    | moved location h tracker =>
      have unopened : m.opensFile = false := by rw [Moment.opensFile, h]
      rw [tracker, unopened]
      exact ⟨rfl, rfl, rfl⟩
    | other unopened format tracker =>
      rw [tracker, unopened]
      exact ⟨rfl, rfl, rfl⟩
  refine ⟨?_, ?_, ?_⟩
  · rw [same.1, followed.previous, List.find?_cons_of_neg (by simp [refused])]
  · rw [same.2.1, followed.reopened, heldSince, refused]
    simp
  · rw [same.2.2, followed.inProgress, heldSince, fails, silent]
    simp

private theorem followed_atEnd (followed : Followed past m.before) (ending : m.atEnd) :
    Followed (m :: past) m.after := by
  obtain ⟨started, asked⟩ : m.before.isStarted ∧ m.step.operation = .handle .endOfStream := by
    simpa [Moment.atEnd] using ending
  have refused : m.admitted = false := by
    rw [Moment.admitted, asked]
    rfl
  have unopened : m.opensFile = false := by rw [Moment.opensFile, asked]
  obtain ⟨fails, passage⟩ := Moment.atEnd_cases ending
  -- the segment is over exactly if the round was taken as a whole
  have same : m.after.tracker.previous = m.before.tracker.previous ∧
      m.after.tracker.reopened = m.before.tracker.reopened ∧
      m.after.tracker.inProgress = (!m.completesRound && m.before.tracker.inProgress) := by
    rcases passage with ⟨others, emitted, -, tracker⟩ | ⟨n, short, emitted, tracker⟩
    · rw [tracker, completesRound_of_append started emitted]
      exact ⟨rfl, rfl, rfl⟩
    · rw [tracker, completesRound_of_take short emitted]
      exact ⟨rfl, rfl, rfl⟩
  refine ⟨?_, ?_, ?_⟩
  · rw [same.1, followed.previous, List.find?_cons_of_neg (by simp [refused])]
  · rw [same.2.1, followed.reopened, heldSince, unopened, refused]
    simp
  · rw [same.2.2, followed.inProgress, heldSince, fails]
    simp

/-- The metadata aside, what the tracker is between the round and the frames. -/
theorem entered_eq (m : Moment) :
    m.entered.tracker.previous = some ⟨m.before.tracker.location, m.before.tracker.format⟩ ∧
      m.entered.tracker.reopened = false ∧
      m.entered.tracker.inProgress = (!m.before.tracker.boundary && m.before.tracker.inProgress) := by
  obtain ⟨_, _, _, prepared⟩ := m.before.tracker.prepare_eq m.step.files
  unfold Moment.entered Moment.prepared Tracker.enter
  dsimp only
  rw [prepared]
  cases m.before.tracker.boundary <;> exact ⟨rfl, rfl, rfl⟩

theorem isStarted_of_admitted (passes : m.admitted) : m.before.isStarted := by
  simp only [Moment.admitted, Bool.and_eq_true] at passes
  exact passes.1.2

private theorem followed_admitted (made : m.before.IsOf c) (followed : Followed past m.before)
    (passes : m.admitted) : Followed (m :: past) m.after := by
  obtain ⟨b, asked, passage⟩ := Moment.passage_of_admitted made passes
  have started := isStarted_of_admitted passes
  have unopened : m.opensFile = false := by rw [Moment.opensFile, asked]
  have found : (m :: past).find? Moment.admitted = some m := List.find?_cons_of_pos passes
  have same : m.after.tracker.previous = some ⟨m.before.tracker.location, m.before.tracker.format⟩ ∧
      m.after.tracker.reopened = false ∧
      m.after.tracker.inProgress = (m.succeeded || (!m.completesRound && m.before.tracker.inProgress)) := by
    obtain ⟨previous, reopened, inProgress⟩ := entered_eq m
    cases passage with
    | interrupted shut n handed fails tracker short emitted =>
      obtain ⟨_, _, _, prepared⟩ := m.before.tracker.prepare_eq m.step.files
      have boundary : m.before.tracker.boundary = true := by
        by_contra within
        simp [Moment.round, within] at short
      rw [Moment.round, boundary, if_pos rfl] at short emitted
      have short : n < m.before.sources.length := by simpa [endOfStreamRound] using short
      rw [tracker, Moment.prepared, prepared, fails, completesRound_of_take short emitted]
      exact ⟨rfl, rfl, rfl⟩
    | refused handed emitted fails tracker =>
      have complete := completesRound_of_round started (emitted.trans (List.append_nil _).symm) (by simp)
      rw [tracker, fails, complete]
      exact ⟨previous, reopened, inProgress⟩
    | broken shut p shown n handed fails tracker emitted =>
      obtain ⟨i, recorded⟩ := m.entered.tracker.nextRecord_eq
      have complete := completesRound_of_round started emitted fun e he =>
        (frame_of_mem_fanOut (List.mem_of_mem_take he)).1
      rw [tracker, recordTaken, recorded, fails, complete]
      exact ⟨previous, reopened, inProgress⟩
    | sent p shown handed emitted succeeds tracker =>
      obtain ⟨i, recorded⟩ := m.entered.tracker.nextRecord_eq
      rw [tracker, frameSent, recordTaken, recorded, succeeds]
      exact ⟨previous, reopened, rfl⟩
  refine ⟨?_, ?_, ?_⟩
  · rw [same.1, found]
    rfl
  · rw [same.2.1, heldSince, unopened, passes]
    rfl
  · rw [same.2.2, followed.inProgress, heldSince]

theorem followed_after (made : m.before.IsOf c) (followed : Followed past m.before)
    (stays : m.step.operation ≠ .stop) : Followed (m :: past) m.after := by
  cases passes : m.admitted with
  | true => exact followed_admitted made followed passes
  | false =>
    cases ending : m.atEnd with
    | true => exact followed_atEnd followed ending
    | false => exact followed_quiet followed stays passes ending

/-- Along a run without a stop the tracker knows what the history says, whatever the sink refuses. -/
theorem followed_reached (made : ofConfig c = .ok r) {steps : List Step} (running : ∀ s ∈ steps, s.operation ≠ .stop) :
    Followed (r.history steps) (r.reached steps) := by
  induction steps with
  | nil => exact followed_ofConfig made
  | cons step past ih =>
    rw [List.forall_mem_cons] at running
    exact followed_after (m := ⟨r.reached past, step⟩) (isOf_reached (isOf_ofConfig made) past) (ih running.2)
      running.1

end FrameStream.Relay
