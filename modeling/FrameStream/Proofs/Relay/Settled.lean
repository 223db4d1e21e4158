import FrameStream.Proofs.Relay.Frames
import FrameStream.Proofs.Relay.Items

/-!
# Metadata that was looked for

When a file is opened its metadata is looked for, and whatever comes of that, it is not looked for again before a frame
of the file: there either was none since, or nothing that calls for it has changed (`IsSettled`).  So no buffer is
refused for faulty metadata as long as locations come with files that are opened; the file is announced in vain, but
its frames go out (`served_of_isSettled`).
-/

namespace FrameStream

namespace Tracker

variable {t u : Tracker}

/-- A file was opened and its metadata looked for, or the frame before was in the same file and format, and the
metadata is that for the file. -/
def IsSettled (t : Tracker) : Prop :=
  t.reopened = true ∧ t.isFresh = true ∨
    t.reopened = false ∧ t.previous = some ⟨t.location, t.format⟩ ∧ sameLocation t.loadedFor.join t.location = true

theorem isFresh_reload (files : Files) (t : Tracker) : (t.reload files).tracker.isFresh = true := by
  unfold reload
  split
  · rename_i fresh
    exact fresh
  · dsimp only
    split
    · split <;> simp [isFresh]
    · simp [isFresh]

theorem isSettled_onTag (files : Files) (t : Tracker) (location : Path) :
    (t.onTag files location).tracker.IsSettled := by
  left
  refine ⟨?_, isFresh_reload files _⟩
  obtain ⟨_, _, _, reloaded⟩ := reload_eq files { t with location := some location, reopened := true }
  rw [onTag, reloaded]

theorem IsSettled.sameLocation (h : t.IsSettled) : sameLocation t.loadedFor.join t.location = true := by
  rcases h with ⟨-, fresh⟩ | ⟨-, -, same⟩
  · exact sameLocation_of_isFresh fresh
  · exact same

/-- In the same file and format there is no boundary. -/
private theorem boundary_eq_false (unopened : t.reopened = false) (same : t.previous = some ⟨t.location, t.format⟩) :
    t.boundary = false := by
  rw [boundary, same, unopened]
  simp

/-- Nothing is looked for. -/
theorem prepare_of_isSettled (files : Files) (h : t.IsSettled) : t.prepare files = { tracker := t.advance } := by
  have there : FrameStream.sameLocation t.advance.loadedFor.join t.advance.location = true := h.sameLocation
  unfold prepare
  split
  · rename_i boundary
    rcases h with ⟨-, fresh⟩ | ⟨unopened, same, -⟩
    · exact reload_of_isFresh files fresh
    · rw [boundary_eq_false unopened same] at boundary
      cases boundary
  · exact ensureLoaded_of_sameLocation files there

/-- What a tracker is behind a buffer, but for the records and the segment. -/
structure Behind (t u : Tracker) : Prop where
  stream : u.SameStream t
  previous : u.previous = some ⟨t.location, t.format⟩
  reopened : u.reopened = false
  loadedFor : u.loadedFor = t.loadedFor

theorem Behind.isSettled (behind : t.Behind u) (h : t.IsSettled) : u.IsSettled := by
  obtain ⟨stream, previous, reopened, loadedFor⟩ := behind
  refine .inr ⟨reopened, ?_, ?_⟩
  · rw [previous, stream.location, stream.format]
  · rw [loadedFor, stream.location]
    exact h.sameLocation

theorem behind_enter (t : Tracker) : t.Behind (t.enter t.advance) := by
  unfold enter
  split <;> exact ⟨⟨rfl, rfl, rfl, rfl⟩, rfl, rfl, rfl⟩

theorem Behind.nextRecord (behind : t.Behind u) : t.Behind u.nextRecord.2 := by
  obtain ⟨i, same⟩ := u.nextRecord_eq
  rw [same]
  exact ⟨⟨behind.stream.location, behind.stream.format, behind.stream.triggers, behind.stream.readMetadata⟩,
    behind.previous, behind.reopened, behind.loadedFor⟩

theorem Behind.frameEmitted (behind : t.Behind u) : t.Behind u.frameEmitted :=
  ⟨u.sameStream_frameEmitted.trans behind.stream, behind.previous, behind.reopened, behind.loadedFor⟩

end Tracker

namespace Relay

variable {c : Config} {m : Moment} {b : Buffer}

/-- How a buffer fares with an open sink and settled metadata. -/
inductive Served (c : Config) (m : Moment) (b : Buffer) : Prop where
  /-- The relay was not started, or no format negotiated. -/
  | early (refused : m.admitted = false) (emitted : m.emitted = []) (after : m.after = m.before)
  | unsupported (name : String) (type : c.frameType = .other name) (emitted : m.emitted = m.round)
      (behind : m.before.tracker.Behind m.after.tracker)
  | shown (p : Picture) (shown : m.entered.Depicts b p) (emitted : m.emitted = m.round ++ m.entered.fanOut p b)
      (behind : m.before.tracker.Behind m.after.tracker) (inProgress : m.after.tracker.inProgress = true)

/-- A buffer that comes too early is refused for just that. -/
theorem early_of_refused (asked : m.step.operation = .transform b) (refused : m.admitted = false) :
    m.handed = [] ∧ m.emitted = [] ∧ m.after = m.before ∧
      (m.outcome.result = .error .notStarted ∨ m.outcome.result = .error .notNegotiated) := by
  obtain ⟨f, script, reason⟩ : ∃ f, m.script = .done (.error f) m.before ∧ (f = .notStarted ∨ f = .notNegotiated) := by
    rw [Moment.script, asked]
    change ∃ f, (m.before.transform m.step.files b).map some = _ ∧ _
    cases started : m.before.isStarted with
    | false =>
      rw [transform_of_stopped m.step.files b started]
      exact ⟨.notStarted, rfl, .inl rfl⟩
    | true =>
      have missing : m.before.initialSize = none := by
        simpa [Moment.admitted, asked, Operation.isTransform, started] using refused
      rw [transform_of_unnegotiated m.step.files b started missing]
      exact ⟨.notNegotiated, rfl, .inr rfl⟩
  have outcome : m.outcome = _ := congrArg (Script.run m.step.accepts 0) script
  have offers := congrArg (Script.offered m.step.accepts 0) script
  unfold Moment.handed Moment.emitted Moment.primary Moment.after
  rw [outcome, offers]
  refine ⟨rfl, rfl, rfl, ?_⟩
  rcases reason with rfl | rfl
  · exact .inl rfl
  · exact .inr rfl

theorem served_of_isSettled (kept : m.before.IsOf c) (taken : m.step.IsOpen)
    (asked : m.step.operation = .transform b) (settled : m.before.tracker.IsSettled) : Served c m b := by
  have prepared : m.prepared = { tracker := m.before.tracker.advance } :=
    Tracker.prepare_of_isSettled m.step.files settled
  have entered : m.entered.tracker = m.before.tracker.enter m.before.tracker.advance := by
    rw [Moment.entered, prepared]
  have behind : m.before.tracker.Behind m.entered.tracker := by
    rw [entered]
    exact m.before.tracker.behind_enter
  cases passes : m.admitted with
  | false =>
    obtain ⟨-, emitted, after, -⟩ := early_of_refused asked passes
    exact .early passes emitted after
  | true =>
    obtain ⟨b', asked', passage⟩ := Moment.passage_of_admitted kept passes
    obtain rfl : b' = b := Operation.transform.inj (asked'.symm.trans asked)
    cases passage with
    | interrupted shut => exact absurd taken shut
    | broken shut => exact absurd taken shut
    | refused handed emitted fails tracker fault =>
      obtain ⟨name, unsupported⟩ : ∃ name, m.entered.contentOf b' = .error name := by
        refine fault.resolve_left ?_
        rw [prepared]
        simp
      have entered : m.entered.config = m.before.config := rfl
      have type : c.frameType = .other name := frameType_of_unsupported (by rw [entered, kept.config]) unsupported
      exact .unsupported name type emitted (tracker ▸ behind)
    | sent p shown handed emitted succeeds tracker =>
      refine .shown p shown emitted ?_ ?_
      · rw [tracker]
        exact behind.nextRecord.frameEmitted
      · rw [tracker]
        rfl

end Relay

end FrameStream
