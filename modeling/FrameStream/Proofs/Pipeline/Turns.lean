import FrameStream.Pipeline.Line
import FrameStream.Proofs.Pipeline.Feeds

/-!
# Turns of a line

Worker and output share a channel, and neither knows when the other one moves.  What was delivered, what is in the
channel, what the worker has yet to push and what the rest of the feed is going to give are always, one behind the
other, what the feed gives when it is worked through at once (`outcome_run`).  So however a line comes to its end, the
same was delivered and the same work is done (`delivered_of_run`).
-/

namespace FrameStream

/-- The work when one moment is taken after the other as long as anything is taken, and all that it emits. -/
def Work.through (files : Files) (w : Work) : List Moment → List Envelope × Work
  | [] => ([], w)
  | m :: ms =>
    if w.finished then ([], w)
    else
      let (es, w) := w.moment files m
      let (rest, w) := Work.through files w ms
      (es ++ rest, w)

theorem Work.through_of_finished {files : Files} {w : Work} (h : w.finished = true) (ms : List Moment) :
    w.through files ms = ([], w) := by
  cases ms with
  | nil => rfl
  | cons m ms => rw [through, if_pos h]

/-- Nothing was done with the channel yet. -/
structure Channel.IsNew (c : Channel) : Prop where
  queue : c.queue = []
  writerOpen : c.writerOpen = true
  sinks : c.sinks = []

theorem Channel.isNew_of_withCapacity {capacity : Nat} {c : Channel} (made : withCapacity capacity = .ok c) :
    c.IsNew := by
  unfold withCapacity at made
  split at made
  · cases made
    exact ⟨rfl, rfl, rfl⟩
  · cases made

/-- The first sink of a channel. -/
theorem Channel.IsNew.openSink {c : Channel} (new : c.IsNew) : c.openSink.2 = { c with sinks := [true] } := by
  rw [Channel.openSink, if_pos new.writerOpen, new.sinks, List.nil_append]

namespace Line

variable {files : Files} {l : Line}

/-- What is going to be delivered, and the work when all is done. -/
def outcome (files : Files) (l : Line) : List Envelope × Work :=
  let (es, w) := l.work.through files l.feed.moments
  (l.delivered.toList ++ l.channel.queue ++ l.outbox ++ es, w)

/-! ### What holds at every time -/

/-- The worker has nothing left to do. -/
def Idle (l : Line) : Prop := l.outbox = [] ∧ (l.work.finished = true ∨ l.feed.next? = none)

/-- A line whose output takes everything.  The worker gives its sink up when it has nothing left to do, and the end
is found behind the last envelope. -/
structure Sound (l : Line) : Prop where
  outputOpen : l.outputOpen = true
  intact : l.outputFailed = false
  closed : l.channel.writerOpen = false
  sinks : l.channel.sinks = [true] ∨ l.channel.sinks = [false] ∧ l.Idle
  ended : l.ended = true → l.channel.queue = [] ∧ l.channel.sinks = [false]

theorem sound_ofFeed {channel : Channel} (new : channel.IsNew) (feed : Feed) (work : Work) :
    (ofFeed channel true feed work).Sound := by
  refine ⟨rfl, rfl, rfl, .inl ?_, nofun⟩
  change channel.openSink.2.sinks = [true]
  rw [new.openSink]

/-- Everything that a turn of the worker can do. -/
inductive WorkerTurn (files : Files) (l : Line) : Prop where
  /-- The channel is full, or the sink is given up already. -/
  | waits (turn : l.workerTurn files = l)
      (stuck : l.channel.capacity ≤ l.channel.queue.length ∨ l.channel.sinks = [false])
  | pushes (e : Envelope) (rest : List Envelope) (outbox : l.outbox = e :: rest) (held : l.channel.sinks = [true])
      (turn : l.workerTurn files =
        { l with outbox := rest, channel := { l.channel with queue := l.channel.queue ++ [e] } })
  | givesUp (idle : l.Idle) (held : l.channel.sinks = [true])
      (turn : l.workerTurn files = { l with channel := { l.channel with sinks := [false] } })
  | takes (m : Moment) (rest : Feed) (outbox : l.outbox = []) (held : l.channel.sinks = [true])
      (running : l.work.finished = false) (given : l.feed.next? = some (m, rest))
      (turn : l.workerTurn files =
        { l with feed := rest, work := (l.work.moment files m).2, outbox := (l.work.moment files m).1 })

private theorem dropSink_eq {b : Bool} (h : l.channel.sinks = [b]) :
    l.dropSink = { l with channel := { l.channel with sinks := [false] } } := by
  simp [dropSink, Channel.dropSink, h]

private theorem dropSink_eq_self (h : l.channel.sinks = [false]) : l.dropSink = l := by
  rw [dropSink_eq h, ← h]

/-- Whoever has nothing left to do gives the sink up, perhaps again. -/
private theorem workerTurn_of_idle (idle : l.Idle) : l.workerTurn files = l.dropSink := by
  unfold workerTurn
  rw [idle.1]
  rcases idle.2 with finished | none
  · simp [finished]
  · simp [none]

theorem workerTurn_of_outbox (files : Files) {e : Envelope} {rest : List Envelope} (intact : l.outputFailed = false)
    (held : l.channel.sinks = [true]) (outbox : l.outbox = e :: rest) :
    l.workerTurn files =
      if l.channel.queue.length < l.channel.capacity then
        { l with outbox := rest, channel := { l.channel with queue := l.channel.queue ++ [e] } }
      else l := by
  unfold workerTurn
  rw [outbox]
  by_cases room : l.channel.queue.length < l.channel.capacity
  · simp [intact, Channel.push, held, room]
  · simp [intact, Channel.push, held, room]

theorem workerTurn_cases (files : Files) (sound : l.Sound) : WorkerTurn files l := by
  rcases sound.sinks with held | ⟨dropped, idle⟩
  · cases outbox : l.outbox with
    | cons e rest =>
      have turn := workerTurn_of_outbox files sound.intact held outbox
      by_cases room : l.channel.queue.length < l.channel.capacity
      · rw [if_pos room] at turn
        exact .pushes e rest outbox held turn
      · rw [if_neg room] at turn
        exact .waits turn (.inl (by omega))
    | nil =>
      by_cases atEnd : l.work.finished = true ∨ l.feed.next? = none
      · have idle : l.Idle := ⟨outbox, atEnd⟩
        exact .givesUp idle held ((workerTurn_of_idle idle).trans (dropSink_eq held))
      · rw [not_or, Bool.not_eq_true] at atEnd
        obtain ⟨⟨m, rest⟩, given⟩ := Option.ne_none_iff_exists'.1 atEnd.2
        refine .takes m rest outbox held atEnd.1 given ?_
        unfold workerTurn
        rw [outbox, given]
        simp [atEnd.1]
  · exact .waits ((workerTurn_of_idle idle).trans (dropSink_eq_self dropped)) (.inr dropped)

/-- Everything that a turn of the output can do. -/
inductive OutputTurn (l : Line) : Prop where
  /-- The channel is empty, and the worker may still push. -/
  | waits (turn : l.outputTurn = l) (empty : l.channel.queue = []) (held : l.channel.sinks = [true])
  | takes (e : Envelope) (rest : List Envelope) (queue : l.channel.queue = e :: rest)
      (turn : l.outputTurn = { l with channel := { l.channel with queue := rest }, delivered := l.delivered.push e })
  | ends (empty : l.channel.queue = []) (dropped : l.channel.sinks = [false])
      (turn : l.outputTurn = { l with ended := true })

theorem outputTurn_cases (sound : l.Sound) : OutputTurn l := by
  cases queue : l.channel.queue with
  | cons e rest =>
    refine .takes e rest queue ?_
    simp [outputTurn, sound.intact, Channel.poll, queue, sound.outputOpen]
  | nil =>
    rcases sound.sinks with held | ⟨dropped, -⟩
    · refine .waits ?_ queue held
      simp [outputTurn, sound.intact, Channel.poll, queue, sound.closed, held]
    · refine .ends queue dropped ?_
      simp [outputTurn, sound.intact, Channel.poll, queue, sound.closed, dropped]

theorem sound_turn (files : Files) (sound : l.Sound) (t : Turn) : (l.turn files t).Sound := by
  have again := sound
  obtain ⟨outputOpen, intact, closed, sinks, ended⟩ := sound
  cases t with
  | worker =>
    change (l.workerTurn files).Sound
    cases workerTurn_cases files again with
    | waits turn stuck =>
      rw [turn]
      exact again
    | pushes e rest outbox held turn =>
      rw [turn]
      refine ⟨outputOpen, intact, closed, .inl held, fun atEnd => ?_⟩
      rw [(ended atEnd).2] at held
      cases held
    | givesUp idle held turn =>
      rw [turn]
      refine ⟨outputOpen, intact, closed, .inr ⟨rfl, idle⟩, fun atEnd => ⟨(ended atEnd).1, rfl⟩⟩
    | takes m rest outbox held running given turn =>
      rw [turn]
      exact ⟨outputOpen, intact, closed, .inl held, ended⟩
  | output =>
    change l.outputTurn.Sound
    cases outputTurn_cases again with
    | waits turn empty held =>
      rw [turn]
      exact again
    | takes e rest queue turn =>
      rw [turn]
      refine ⟨outputOpen, intact, closed, sinks, fun atEnd => ?_⟩
      rw [(ended atEnd).1] at queue
      cases queue
    | ends empty dropped turn =>
      rw [turn]
      exact ⟨outputOpen, intact, closed, sinks, fun _ => ⟨empty, dropped⟩⟩

theorem sound_run (files : Files) (sound : l.Sound) (turns : List Turn) : (l.run files turns).Sound := by
  induction turns generalizing l with
  | nil => exact sound
  | cons t turns ih => exact ih (sound_turn files sound t)

/-! ### What is delivered -/

theorem outcome_turn (files : Files) (sound : l.Sound) (t : Turn) :
    (l.turn files t).outcome files = l.outcome files := by
  cases t with
  | worker =>
    change (l.workerTurn files).outcome files = _
    cases workerTurn_cases files sound with
    | waits turn stuck => rw [turn]
    | pushes e rest outbox held turn =>
      rw [turn]
      simp [outcome, outbox]
    | givesUp idle held turn =>
      rw [turn]
      rfl
    | takes m rest outbox held running given turn =>
      rw [turn]
      simp [outcome, outbox, Feed.moments_of_next? given, Work.through, running]
  | output =>
    change l.outputTurn.outcome files = _
    cases outputTurn_cases sound with
    | waits turn empty held => rw [turn]
    | takes e rest queue turn =>
      rw [turn]
      simp [outcome, queue]
    | ends empty dropped turn =>
      rw [turn]
      rfl

/-- What is delivered and what is on its way are the same at every time. -/
theorem outcome_run (files : Files) (sound : l.Sound) (turns : List Turn) :
    (l.run files turns).outcome files = l.outcome files := by
  induction turns generalizing l with
  | nil => rfl
  | cons t turns ih => exact (ih (sound_turn files sound t)).trans (outcome_turn files sound t)

private theorem through_of_idle (idle : l.Idle) : l.work.through files l.feed.moments = ([], l.work) := by
  rcases idle.2 with finished | none
  · exact Work.through_of_finished finished _
  · rw [Feed.moments_of_end none]
    rfl

/-- At the end everything is delivered and all work is done. -/
theorem outcome_of_ended (sound : l.Sound) (atEnd : l.ended) : l.outcome files = (l.delivered.toList, l.work) := by
  obtain ⟨empty, dropped⟩ := sound.ended atEnd
  have idle : l.Idle := by
    rcases sound.sinks with held | ⟨-, idle⟩
    · rw [dropped] at held
      cases held
    · exact idle
  rw [outcome, through_of_idle idle, empty, idle.1]
  simp

/-! ### Lines from their start -/

/-- At every time a part of what the feed gives was delivered, and however the line comes to its end, it is all of
it and the work is done. -/
theorem delivered_of_run {channel : Channel} (new : channel.IsNew) (files : Files) (feed : Feed) (work : Work)
    (turns : List Turn) :
    let line := (ofFeed channel true feed work).run files turns
    line.delivered.toList <+: (work.through files feed.moments).1 ∧ (line.ended →
      line.outputFailed = false ∧ (line.delivered.toList, line.work) = work.through files feed.moments) := by
  intro line
  have start := sound_ofFeed new feed work
  have sound : line.Sound := sound_run files start turns
  have whole : line.outcome files = work.through files feed.moments := by
    rw [outcome_run files start turns]
    simp [outcome, ofFeed, new.openSink, new.queue, Channel.closeWriter]
  refine ⟨?_, fun atEnd => ⟨sound.intact, ?_⟩⟩
  · rw [← whole]
    simp only [outcome, List.append_assoc]
    exact List.prefix_append _ _
  · rw [← whole, outcome_of_ended sound atEnd]

end Line

end FrameStream
