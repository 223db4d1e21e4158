import FrameStream.Proofs.Relay.Interruptions

/-!
# Sinks that take only so much

A script is followed the same way whatever the sink takes, up to the first push that is refused.  Wherever the relay
pushes (the rounds, the frames of a picture, the request to shut down) a refusal ends the operation (`halts_perform`).
So a sink that takes only so many envelopes of a step gets the first of those that an open sink gets; it is offered one
more and nothing after that, and the step is refused for it, also where a faulty sidecar would have been told of behind
the push (`outcome_limited`).  The relay is left as the whole step leaves it, but for the segment in progress and the
records that were used (`leaves_alike`).
-/

namespace FrameStream

namespace Script

variable {σ α β : Type} {accepts : Nat → Bool}

@[simp] theorem runOpen_push (e : Envelope) (refused s : Script σ α) :
    (push e refused s).runOpen = { s.runOpen with pushed := e :: s.runOpen.pushed } :=
  runOpen_pushAll [e] refused s

@[simp] theorem runOpen_note (n : Notice) (s : Script σ α) :
    (note n s).runOpen = { s.runOpen with notices := n :: s.runOpen.notices } :=
  runOpen_noteAll [n] s

/-! ### Scripts that end at a refusal -/

/-- Behind an envelope that is refused the script pushes nothing and says that the sink is closed. -/
def Halts : Script σ α → Prop
  | done _ _ => True
  | push _ refused next => (∃ state, refused = sinkClosed state) ∧ next.Halts
  | note _ next => next.Halts

theorem halts_noteAll {ns : List Notice} {s : Script σ α} (h : s.Halts) : (noteAll ns s).Halts := by
  induction ns with
  | nil => exact h
  | cons n ns ih => exact ih

theorem halts_pushAll {es : List Envelope} {s : Script σ α} (state : σ) (h : s.Halts) :
    (pushAll es (sinkClosed state) s).Halts := by
  induction es with
  | nil => exact h
  | cons e es ih => exact ⟨⟨state, rfl⟩, ih⟩

theorem halts_map (f : α → β) {s : Script σ α} (h : s.Halts) : (s.map f).Halts := by
  induction s with
  | done => trivial
  | push e refused next _ ih =>
    obtain ⟨⟨state, rfl⟩, others⟩ := h
    exact ⟨⟨state, rfl⟩, ih others⟩
  | note n next ih => exact ih h

/-! ### Runs against a limit -/

/-- A sink that takes the pushes of the script might as well take every push. -/
theorem run_of_taken {s : Script σ α} {attempt : Nat}
    (taken : ∀ i < s.runOpen.pushed.length, accepts (attempt + i)) :
    s.run accepts attempt = s.runOpen ∧ s.offered accepts attempt = s.runOpen.pushed := by
  induction s generalizing attempt with
  | done result state => exact ⟨rfl, rfl⟩
  | push e refused next _ ih =>
    rw [runOpen_push] at taken ⊢
    have first : accepts attempt := taken 0 (Nat.succ_pos _)
    have others : ∀ i < next.runOpen.pushed.length, accepts (attempt + 1 + i) := by
      intro i hi
      rw [Nat.add_assoc, Nat.add_comm 1]
      exact taken (i + 1) (Nat.succ_lt_succ hi)
    obtain ⟨went, offers⟩ := ih others
    rw [run, offered, if_pos first, if_pos first, went, offers]
    exact ⟨rfl, rfl⟩
  | note n next ih =>
    rw [runOpen_note] at taken ⊢
    obtain ⟨went, offers⟩ := ih taken
    rw [run, offered, went, offers]
    exact ⟨rfl, rfl⟩

/-- A sink that refuses one of the pushes gets those before it, and a script that halts offers nothing behind it. -/
theorem run_of_refused {s : Script σ α} (halts : s.Halts) {attempt n : Nat} (taken : ∀ i < n, accepts (attempt + i))
    (there : accepts (attempt + n) = false) (short : n < s.runOpen.pushed.length) :
    (s.run accepts attempt).result = .error .sinkClosed ∧
      (s.run accepts attempt).pushed = s.runOpen.pushed.take n ∧
      s.offered accepts attempt = s.runOpen.pushed.take (n + 1) ∧
      (s.run accepts attempt).notices <+: s.runOpen.notices := by
  induction s generalizing attempt n with
  | done result state => cases short
  | push e refused next _ ih =>
    obtain ⟨⟨state, rfl⟩, others_halt⟩ := halts
    rw [runOpen_push] at short ⊢
    rw [run, offered]
    cases n with
    | zero =>
      have refuses : ¬ accepts attempt := by
        rw [Nat.add_zero] at there
        simp [there]
      rw [if_neg refuses, if_neg refuses]
      exact ⟨rfl, rfl, rfl, List.nil_prefix⟩
    | succ n =>
      have first : accepts attempt := taken 0 (Nat.succ_pos n)
      have others : ∀ i < n, accepts (attempt + 1 + i) := by
        intro i hi
        rw [Nat.add_assoc, Nat.add_comm 1]
        exact taken (i + 1) (Nat.succ_lt_succ hi)
      have next_refused : accepts (attempt + 1 + n) = false := by
        rwa [Nat.add_assoc, Nat.add_comm 1]
      obtain ⟨result, pushed, offers, notices⟩ := ih others_halt others next_refused (Nat.lt_of_succ_lt_succ short)
      rw [if_pos first, if_pos first, offers]
      exact ⟨result, congrArg (e :: ·) pushed, rfl, notices⟩
  | note n' next ih =>
    rw [runOpen_note] at short ⊢
    obtain ⟨result, pushed, offers, notices⟩ := ih halts taken there short
    rw [run, offered]
    exact ⟨result, pushed, offers, List.cons_prefix_cons.2 ⟨rfl, notices⟩⟩

end Script

namespace Relay

/-! ### What a refusal leaves open -/

/-- The relays are the same but for the segment in progress and the records that were used. -/
def Alike (r s : Relay) : Prop :=
  ∃ inProgress frameIndex, s = { r with tracker := { r.tracker with inProgress, frameIndex } }

theorem Alike.refl (r : Relay) : r.Alike r := ⟨_, _, rfl⟩

theorem Alike.symm {r s : Relay} (h : r.Alike s) : s.Alike r := by
  obtain ⟨_, _, rfl⟩ := h
  exact ⟨_, _, rfl⟩

theorem Alike.trans {r s t : Relay} (h : r.Alike s) (k : s.Alike t) : r.Alike t := by
  obtain ⟨_, _, rfl⟩ := h
  obtain ⟨_, _, rfl⟩ := k
  exact ⟨_, _, rfl⟩

private theorem alike_recordTaken (r : Relay) : r.Alike r.recordTaken := by
  obtain ⟨i, taken⟩ := r.tracker.nextRecord_eq
  exact ⟨_, i, by rw [recordTaken, taken]⟩

private theorem leaves_build_alike (initialSize : Transformation) (b : Buffer) {s r : Relay} (h : s.Alike r) :
    (r.build initialSize b).Leaves s.Alike := by
  have taken : s.Alike r.recordTaken := h.trans (alike_recordTaken r)
  unfold build
  split
  · exact h
  · split
    · exact taken
    · exact leaves_emit _ b taken (taken.trans ⟨_, _, rfl⟩)

private theorem leaves_transform_alike (files : Files) (r : Relay) (b : Buffer) :
    ∃ s, (r.transform files b).Leaves (Alike s) := by
  by_cases checks : r.isStarted = false ∨ r.initialSize = none
  · obtain ⟨f, done⟩ := transform_of_refused files b checks
    rw [done]
    exact ⟨r, .refl r⟩
  · rw [not_or, Bool.not_eq_false] at checks
    obtain ⟨initialSize, negotiated⟩ := Option.ne_none_iff_exists'.1 checks.2
    rw [transform_eq files b checks.1 negotiated]
    have entered : Alike { r with tracker := (r.tracker.prepare files).tracker }
        { r with tracker := r.tracker.enter (r.tracker.prepare files).tracker } := by
      unfold Tracker.enter
      split <;> exact ⟨_, _, rfl⟩
    refine ⟨_, Script.leaves_noteAll (Script.leaves_pushAll (Script.leaves_sinkClosed (Alike.refl _)) ?_)⟩
    split
    · exact entered
    · exact leaves_build_alike initialSize b entered

private theorem leaves_endStream_alike (r : Relay) : r.endStream.Leaves r.Alike := by
  have finished : r.Alike { r with tracker := r.tracker.finish.tracker } := ⟨_, _, rfl⟩
  unfold endStream
  split
  · exact Alike.refl r
  · apply Script.leaves_pushAll (Script.leaves_sinkClosed (Alike.refl r))
    apply Script.leaves_noteAll
    exact Script.leaves_pushAll finished finished

private theorem leaves_handle_alike (files : Files) (r : Relay) (e : StreamEvent) :
    ∃ s, (r.handle files e).Leaves (Alike s) := by
  match e with
  | .caps caps =>
    change ∃ s, (r.negotiate caps).Leaves (Alike s)
    unfold negotiate
    split <;> exact ⟨_, .refl _⟩
  | .tag (some location) =>
    let opened : Relay := { r with
      config := { r.config with location := some (.ofText location) }
      tracker := (r.tracker.onTag files (.ofText location)).tracker }
    refine ⟨opened, Script.leaves_noteAll ?_⟩
    split <;> exact Alike.refl opened
  | .tag none => exact ⟨r, .refl r⟩
  | .endOfStream => exact ⟨r, leaves_endStream_alike r⟩

/-- Wherever a step is broken off, it leaves the same relay but for the segment and the place in the records. -/
theorem leaves_alike (files : Files) (r : Relay) (o : Operation) :
    ∃ s, (r.perform files o).Leaves (Alike s) := by
  cases o with
  | start =>
    change ∃ s, (r.start.map _).Leaves (Alike s)
    unfold start
    split <;> exact ⟨_, .refl _⟩
  | stop => exact ⟨_, .refl _⟩
  | negotiate caps =>
    obtain ⟨s, leaves⟩ := leaves_handle_alike files r (.caps caps)
    exact ⟨s, Script.leaves_map _ leaves⟩
  | relocate location => exact ⟨_, .refl _⟩
  | handle e =>
    obtain ⟨s, leaves⟩ := leaves_handle_alike files r e
    exact ⟨s, Script.leaves_map _ leaves⟩
  | transform b =>
    obtain ⟨s, leaves⟩ := leaves_transform_alike files r b
    exact ⟨s, Script.leaves_map _ leaves⟩

/-! ### Where the relay pushes -/

/-- The frames of a picture: the fan-out ends at the first frame that is refused. -/
theorem halts_emit (r : Relay) (p : Picture) (b : Buffer) : (r.emit p b).Halts := by
  unfold emit
  dsimp only
  split
  · trivial
  · exact Script.halts_pushAll r trivial

theorem halts_relayFrame (files : Files) (initialSize : Transformation) (b : Buffer) (r : Relay) :
    (r.relayFrame files initialSize b).Halts := by
  unfold relayFrame
  apply Script.halts_noteAll
  split
  · trivial
  · dsimp only
    split
    · trivial
    · split
      · trivial
      · exact halts_emit _ _ b

/-- The round at a boundary: behind a refusal there is neither a frame nor word of the sidecar. -/
theorem halts_transform (files : Files) (r : Relay) (b : Buffer) : (r.transform files b).Halts := by
  unfold transform
  split
  · trivial
  split
  · trivial
  rename_i initialSize negotiated
  dsimp only
  split
  · apply Script.halts_noteAll
    apply Script.halts_pushAll
    split
    · trivial
    · exact halts_relayFrame files initialSize b _
  · exact halts_relayFrame files initialSize b _

/-- The round at the end of the stream, and the request to shut down behind it. -/
theorem halts_endStream (r : Relay) : r.endStream.Halts := by
  unfold endStream
  split
  · trivial
  · apply Script.halts_pushAll
    apply Script.halts_noteAll
    apply Script.halts_pushAll
    trivial

private theorem halts_negotiate (r : Relay) (caps : Caps) : (r.negotiate caps).Halts := by
  unfold negotiate
  split <;> trivial

private theorem halts_handle (files : Files) (r : Relay) (e : StreamEvent) : (r.handle files e).Halts := by
  match e with
  | .caps caps => exact halts_negotiate r caps
  | .tag (some location) =>
    change (r.openFile files (.ofText location)).Halts
    unfold openFile
    apply Script.halts_noteAll
    split <;> trivial
  | .tag none => trivial
  | .endOfStream => exact halts_endStream r

/-- Every operation ends at the first push that is refused. -/
theorem halts_perform (files : Files) (r : Relay) (o : Operation) : (r.perform files o).Halts := by
  cases o with
  | start =>
    change (r.start.map _).Halts
    unfold start
    split <;> trivial
  | stop => trivial
  | negotiate caps => exact Script.halts_map _ (halts_negotiate r caps)
  | relocate location => trivial
  | handle e => exact Script.halts_map _ (halts_handle files r e)
  | transform b => exact Script.halts_map _ (halts_transform files r b)

/-! ### Sinks with a limit -/

/-- A step for a sink that takes `n` envelopes and refuses those behind them, against the same step for an open sink:
either the limit is not felt, or the sink gets the first `n`, is offered one more, and the step is refused. -/
theorem outcome_limited (files : Files) (r : Relay) (o : Operation) (n : Nat) :
    let step := r.perform files o
    let limit : Nat → Bool := fun attempt => attempt < n
    let whole := step.runOpen
    let limited := step.run limit 0
    (whole.pushed.length ≤ n → limited = whole ∧ step.offered limit 0 = whole.pushed) ∧
    (n < whole.pushed.length →
      limited.result = .error .sinkClosed ∧ limited.pushed = whole.pushed.take n ∧
      step.offered limit 0 = whole.pushed.take (n + 1) ∧ limited.notices <+: whole.notices ∧
      limited.state.Alike whole.state) := by
  intro step limit whole limited
  constructor
  · intro enough
    apply Script.run_of_taken
    intro i hi
    have below : 0 + i < n := by
      rw [Nat.zero_add]
      exact Nat.lt_of_lt_of_le hi enough
    exact decide_eq_true below
  · intro short
    have taken : ∀ i < n, limit (0 + i) := fun i hi => by simpa [limit] using hi
    have there : limit (0 + n) = false := by simp [limit]
    obtain ⟨result, pushed, offers, notices⟩ :=
      Script.run_of_refused (halts_perform files r o) taken there short
    -- Wherever the two runs end, both leave a relay that is alike to the one of `leaves_alike`.
    obtain ⟨s, leaves⟩ := leaves_alike files r o
    exact ⟨result, pushed, offers, notices, (Script.state_run leaves _ _).symm.trans (Script.state_run leaves _ _)⟩

/-- Two sources with metadata: a frame of one file went out, and then another file was named. -/
def pairMoved : Relay :=
  let config : Config := { multistream := true, pattern := some "cam-%d", streams := 2, readMetadata := true }
  { config, tracker := .ofConfig config : Relay }.reached [
    { operation := .relocate (some (.ofText "b.mp4")) },
    { operation := .transform {} },
    { operation := .relocate (some (.ofText "a.mp4")) },
    { operation := .negotiate { name := "video/x-h264", width := some 640, height := some 480 } },
    { operation := .start }]

/-- The sidecar of the other file is faulty, which is told of behind the round; a sink that takes one end of stream and
refuses the next hides that. -/
theorem limited_faultySidecar :
    let files : Files := { files := [([Utf8.encode "b.json"], Utf8.encode "[")] }
    let step := pairMoved.perform files (.transform {})
    let limit : Nat → Bool := fun attempt => attempt < 1
    step.runOpen.result = .error (.sidecar (.record (.ofText "b.json") 0 .truncated)) ∧
      (step.run limit 0).result = .error .sinkClosed ∧ (step.run limit 0).pushed = [Source.endOfStream ⟨"cam-0"⟩] ∧
      step.offered limit 0 = [Source.endOfStream ⟨"cam-0"⟩, Source.endOfStream ⟨"cam-1"⟩] := by
  intro files step limit
  have fault : step.runOpen.result = .error (.sidecar (.record (.ofText "b.json") 0 .truncated)) := by
    decide +kernel
  have round : step.runOpen.pushed = [Source.endOfStream ⟨"cam-0"⟩, Source.endOfStream ⟨"cam-1"⟩] := by
    decide +kernel
  obtain ⟨result, pushed, offers, -⟩ := (outcome_limited files pairMoved (.transform {}) 1).2 (by
    change 1 < step.runOpen.pushed.length
    rw [round]
    decide)
  exact ⟨fault, result, pushed.trans (by rw [round]; rfl), offers.trans (by rw [round]; rfl)⟩

end Relay

end FrameStream
