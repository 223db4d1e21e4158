import FrameStream.Proofs.Pipeline.Turns
import FrameStream.Proofs.Relay.Items

/-!
# Work is feeding a relay

What a pipeline has to do with a feed is no more than to hand its items to a relay one after the other, up to the
first failure of the feed or the first caps that the relay refuses, and to count (`through_eq`).
-/

namespace FrameStream

/-! ### What a feed gives -/

namespace Moment

def item? : Moment → Option StreamItem
  | item i => some i
  | _ => none

def failure? : Moment → Option Failure
  | failure f => some f
  | _ => none

/-- The items up to the first failure. -/
def itemsOf (ms : List Moment) : List StreamItem :=
  (ms.takeWhile fun m => m.failure?.isNone).filterMap item?

end Moment

/-- The failure for caps that are refused. -/
def negotiationFailure (r : Refusal) : Failure := ⟨[.negotiation], .refusal r⟩

/-- Why the work ends early: caps are refused, or else the feed fails. -/
def failureOf (fed : List Relay.Moment) (ms : List Moment) : Option Failure :=
  ((fed.findSome? Relay.Moment.capsRefusal?).map negotiationFailure).or (ms.findSome? Moment.failure?)

/-- The counts with an item. -/
def Stats.counting (s : Stats) (i : StreamItem) (m : Relay.Moment) : Stats :=
  { s with
    events := s.events + i.isEvent.toNat
    buffers := s.buffers + i.isBuffer.toNat
    rejected := s.rejected + m.rejects.toNat }

namespace Work

variable {files : Files} {w : Work}

/-! ### Single items -/

/-- The work behind an item, but for the notices. -/
def afterItem (w : Work) (i : StreamItem) (m : Relay.Moment) (notices : List Notice) : Work :=
  { w with
    relay := m.after
    stats := w.stats.counting i m
    notices
    failure := (m.capsRefusal?.map negotiationFailure).or w.failure
    finished := m.capsRefusal?.isSome || w.finished || w.cancelled }

private theorem event_eq (files : Files) (w : Work) (e : StreamEvent) :
    let m : Relay.Moment := ⟨w.relay, { operation := .handle e, files }⟩
    ∃ notices, w.item files (.event e) = (m.emitted, w.afterItem (.event e) m notices) := by
  intro m
  have calm : m.rejects = false := rfl
  have outcome := Relay.outcome_handle files w.relay e
  have item : w.item files (.event e) = ((w.event files e).1, { (w.event files e).2 with
      finished := (w.event files e).2.finished || (w.event files e).2.cancelled }) := rfl
  change m.outcome = _ at outcome
  unfold event at item
  generalize (w.relay.handle files e).runOpen = o at outcome item
  obtain ⟨result, state, pushed, notices⟩ := o
  have emitted : m.emitted = pushed := by
    rw [Relay.Moment.emitted, Relay.Moment.primary, outcome]
    cases result <;> exact List.append_nil _
  have after : m.after = state := by rw [Relay.Moment.after, outcome]
  have refusal : m.capsRefusal? = Relay.capsRefused? result := by
    change Relay.capsRefused? m.outcome.result = _
    rw [outcome, Relay.capsRefused?_map]
  unfold afterItem
  rw [emitted, after, refusal, item]
  cases result with
  | ok u => exact ⟨_, rfl⟩
  | error r => cases r <;> exact ⟨_, rfl⟩

private theorem buffer_eq (files : Files) (w : Work) (b : Buffer) :
    let m : Relay.Moment := ⟨w.relay, { operation := .transform b, files }⟩
    ∃ notices, w.item files (.buffer b) = (m.emitted, w.afterItem (.buffer b) m notices) := by
  intro m
  have outcome := Relay.outcome_transform files w.relay b
  have item : w.item files (.buffer b) = ((w.buffer files b).1, { (w.buffer files b).2 with
      finished := (w.buffer files b).2.finished || (w.buffer files b).2.cancelled }) := rfl
  change m.outcome = _ at outcome
  unfold buffer at item
  generalize (w.relay.transform files b).runOpen = o at outcome item
  obtain ⟨result, state, pushed, notices⟩ := o
  have after : m.after = state := by rw [Relay.Moment.after, outcome]
  have refusal : m.capsRefusal? = none := rfl
  have rejects : m.rejects = !result.isOk := by
    have succeeds : m.succeeded = result.isOk := by
      change m.outcome.result.isOk = _
      rw [outcome]
      cases result <;> rfl
    rw [Relay.Moment.rejects, succeeds]
    rfl
  have emitted : m.emitted = pushed ++ result.toOption.toList := by
    rw [Relay.Moment.emitted, Relay.Moment.primary, outcome]
    cases result <;> rfl
  unfold afterItem Stats.counting
  rw [emitted, after, refusal, rejects, item]
  cases result with
  | ok e => exact ⟨_, rfl⟩
  | error r =>
    have whole : pushed ++ (Except.error r : Except Refusal Envelope).toOption.toList = pushed := List.append_nil _
    rw [whole]
    exact ⟨_, rfl⟩

/-- An item is handed to the relay. -/
theorem item_eq (files : Files) (w : Work) (i : StreamItem) :
    let m : Relay.Moment := ⟨w.relay, { operation := i.operation, files }⟩
    ∃ notices, w.item files i = (m.emitted, w.afterItem i m notices) := by
  cases i with
  | event e => exact event_eq files w e
  | buffer b => exact buffer_eq files w b

/-! ### Whole feeds -/

/-- A relay was fed with items from a feed of moments; the work has seen `es` emitted, and behind it is `after`. -/
structure Feeds (w after : Work) (es : List Envelope) (items : List StreamItem) (fed : List Relay.Moment)
    (ms : List Moment) : Prop where
  emission : es = fed.flatMap Relay.Moment.emitted
  cancelled : after.cancelled = false
  failure : after.failure = failureOf fed ms
  stats : after.failure = none → after.stats = { w.stats with
    events := w.stats.events + items.countP StreamItem.isEvent
    buffers := w.stats.buffers + items.countP StreamItem.isBuffer
    rejected := w.stats.rejected + fed.countP Relay.Moment.rejects }

private theorem countP_cons_toNat {α : Type} (p : α → Bool) (a : α) (l : List α) :
    (a :: l).countP p = (p a).toNat + l.countP p := by
  rw [List.countP_cons]
  cases p a <;> simp [Nat.add_comm]

private theorem Feeds.cons {after : Work} {es : List Envelope} {i : StreamItem} {items : List StreamItem}
    {m : Relay.Moment} {fed : List Relay.Moment} {ms : List Moment} {notices : List Notice}
    (accepted : m.capsRefusal? = none) (rest : (w.afterItem i m notices).Feeds after es items fed ms) :
    w.Feeds after (m.emitted ++ es) (i :: items) (m :: fed) (.item i :: ms) := by
  obtain ⟨emission, cancelled, failure, stats⟩ := rest
  refine ⟨?_, cancelled, ?_, fun clean => ?_⟩
  · rw [emission, List.flatMap_cons]
  · rw [failure, failureOf, failureOf, List.findSome?_cons, accepted]
    rfl
  · rw [stats clean]
    simp only [countP_cons_toNat, ← Nat.add_assoc]
    rfl

private theorem feeds_refused {i : StreamItem} {m : Relay.Moment} {r : Refusal} (uncancelled : w.cancelled = false)
    (refused : m.capsRefusal? = some r) (items : List StreamItem) (ms : List Moment) (notices : List Notice) :
    w.Feeds (w.afterItem i m notices) (m.emitted ++ []) items [m] (.item i :: ms) := by
  have failure : (w.afterItem i m notices).failure = some (negotiationFailure r) := by
    rw [afterItem, refused]
    rfl
  refine ⟨by simp, uncancelled, ?_, fun clean => ?_⟩
  · rw [failure, failureOf, List.findSome?_cons, refused]
    rfl
  · rw [failure] at clean
    cases clean

/-- Working through moments is feeding the relay with their items. -/
theorem feeds_through (running : w.finished = false) (uncancelled : w.cancelled = false) (clean : w.failure = none)
    (ms : List Moment) (never : .cancel ∉ ms) :
    w.Feeds (w.through files ms).2 (w.through files ms).1 (Moment.itemsOf ms)
      (w.relay.fed files (Moment.itemsOf ms)) ms := by
  induction ms generalizing w with
  | nil => exact ⟨rfl, uncancelled, clean, fun _ => rfl⟩
  | cons moment ms ih =>
    rw [List.mem_cons, not_or] at never
    have step : w.through files (moment :: ms) =
        ((w.moment files moment).1 ++ ((w.moment files moment).2.through files ms).1,
          ((w.moment files moment).2.through files ms).2) := by
      rw [through, running]
      rfl
    rw [step]
    cases moment with
    | item i =>
      obtain ⟨m, hm⟩ : ∃ m : Relay.Moment, m = ⟨w.relay, { operation := i.operation, files }⟩ := ⟨_, rfl⟩
      obtain ⟨notices, taken⟩ := item_eq files w i
      rw [← hm] at taken
      have items : Moment.itemsOf (.item i :: ms) = i :: Moment.itemsOf ms := rfl
      have moment : w.moment files (.item i) = (m.emitted, w.afterItem i m notices) := taken
      have finished : (w.afterItem i m notices).finished = m.capsRefusal?.isSome := by
        rw [afterItem, running, uncancelled, Bool.or_false, Bool.or_false]
      rw [moment, items, Relay.fed, ← hm]
      cases refusal : m.capsRefusal? with
      | some r =>
        rw [refusal] at finished
        rw [through_of_finished finished]
        exact feeds_refused uncancelled refusal _ ms notices
      | none =>
        rw [refusal] at finished
        have failure : (w.afterItem i m notices).failure = none := by
          rw [afterItem, refusal, clean]
          rfl
        exact .cons refusal (ih finished uncancelled failure never.2)
    | failure f =>
      have moment : w.moment files (.failure f) = ([], w.fail f) := rfl
      rw [moment, through_of_finished rfl]
      refine ⟨rfl, uncancelled, rfl, fun clean => ?_⟩
      cases clean
    | cancel => exact absurd rfl never.1
    | startAgain =>
      obtain ⟨emission, cancelled, failure, stats⟩ :=
        ih (w := { w with restarts := w.restarts + 1 }) running uncancelled clean never.2
      exact ⟨emission, cancelled, failure, stats⟩

end Work

end FrameStream
