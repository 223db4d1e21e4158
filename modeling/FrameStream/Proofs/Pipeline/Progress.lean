import FrameStream.Proofs.Pipeline.Turns

/-!
# Lines come to their end

Every turn that changes anything brings a line nearer to its end, and as long as it is not there, worker or output can
move (`exists_advances`).  So the line comes to its end under every schedule that lets each of them move again and
again (`exists_ended_of_fair`); and `Line.finish`, by which the output takes every envelope at once, is one of the ways
there (`ended_finish`).
-/

namespace FrameStream.Line

variable {files : Files} {l : Line}

/-! ### What is left to do -/

/-- How much there is left to do. -/
def left (files : Files) (l : Line) : Nat :=
  2 * (l.outbox.length + (l.work.through files l.feed.moments).1.length) + l.channel.queue.length +
    l.feed.moments.length + l.channel.sinks.count true + (if l.ended then 0 else 1)

/-- A turn that gets the line nearer to its end. -/
def Advances (files : Files) (l : Line) (t : Turn) : Prop := (l.turn files t).left files < l.left files

/-- A turn changes nothing, or less is left to do. -/
theorem turn_cases (files : Files) (sound : l.Sound) (t : Turn) : l.turn files t = l ∨ Advances files l t := by
  unfold Advances
  cases t with
  | worker =>
    change l.workerTurn files = l ∨ (l.workerTurn files).left files < _
    cases workerTurn_cases files sound with
    | waits turn stuck => exact .inl turn
    | pushes e rest outbox held turn =>
      right
      rw [turn]
      simp only [left, outbox, List.length_append, List.length_cons, List.length_nil]
      omega
    | givesUp idle held turn =>
      right
      rw [turn]
      simp [left, held]
    | takes m rest outbox held running given turn =>
      right
      rw [turn]
      simp [left, outbox, Feed.moments_of_next? given, Work.through, running]
  | output =>
    change l.outputTurn = l ∨ l.outputTurn.left files < _
    cases outputTurn_cases sound with
    | waits turn empty held => exact .inl turn
    | takes e rest queue turn =>
      right
      rw [turn]
      simp [left, queue]
    | ends empty dropped turn =>
      cases atEnd : l.ended with
      | true =>
        left
        rw [turn, ← atEnd]
      | false =>
        right
        rw [turn]
        simp [left, atEnd]

/-- As long as the line has not come to its end, one of the two ends can move. -/
theorem exists_advances (files : Files) (sound : l.Sound) (going : l.ended = false) : ∃ t, Advances files l t := by
  have output (moves : l.outputTurn ≠ l) : ∃ t, Advances files l t :=
    ⟨.output, (turn_cases files sound .output).resolve_left moves⟩
  have worker (moves : l.workerTurn files ≠ l) : ∃ t, Advances files l t :=
    ⟨.worker, (turn_cases files sound .worker).resolve_left moves⟩
  cases outputTurn_cases sound with
  | takes e rest queue turn =>
    apply output
    intro same
    have shorter := congrArg (fun l : Line => l.channel.queue.length) (turn.symm.trans same)
    simp [queue] at shorter
  | ends empty dropped turn =>
    apply output
    intro same
    have atEnd := congrArg Line.ended (turn.symm.trans same)
    rw [going] at atEnd
    cases atEnd
  | waits turn empty held =>
    apply worker
    intro same
    cases workerTurn_cases files sound with
    | waits turn stuck =>
      rcases stuck with full | dropped
      · have room := l.channel.room.1
        rw [empty, List.length_nil] at full
        omega
      · rw [held] at dropped
        cases dropped
    | pushes e rest outbox held turn =>
      have longer := congrArg (fun l : Line => l.channel.queue.length) (turn.symm.trans same)
      simp at longer
    | givesUp idle held turn =>
      have dropped := congrArg (fun l : Line => l.channel.sinks) (turn.symm.trans same)
      rw [held] at dropped
      cases dropped
    | takes m rest outbox held running given turn =>
      have fewer := congrArg (fun l : Line => l.feed.moments.length) (turn.symm.trans same)
      simp [Feed.moments_of_next? given] at fewer

/-- After some turns nothing has changed, or less is left to do. -/
private theorem run_cases (files : Files) (sound : l.Sound) (turns : List Turn) :
    l.run files turns = l ∨ (l.run files turns).left files < l.left files := by
  induction turns generalizing l with
  | nil => exact .inl rfl
  | cons t turns ih =>
    have later := ih (sound_turn files sound t)
    change (l.turn files t).run files turns = l ∨ ((l.turn files t).run files turns).left files < _
    rcases turn_cases files sound t with same | less
    · rw [same] at later ⊢
      exact later
    · right
      rcases later with same | fewer
      · rw [same]
        exact less
      · exact Nat.lt_trans fewer less

theorem run_append (files : Files) (l : Line) (front rest : List Turn) :
    l.run files (front ++ rest) = (l.run files front).run files rest := List.foldl_append

/-- If a turn gets the line nearer to its end, then other turns before it do not hinder that. -/
private theorem left_run_concat {t : Turn} (sound : l.Sound) (advances : Advances files l t) (turns : List Turn) :
    (l.run files (turns ++ [t])).left files < l.left files := by
  rw [run_append]
  rcases run_cases files sound turns with same | less
  · rw [same]
    exact advances
  · rcases turn_cases files (sound_run files sound turns) t with same | fewer
    · change ((l.run files turns).turn files t).left files < _
      rw [same]
      exact less
    · exact Nat.lt_trans fewer less

/-! ### Fair schedules -/

/-- The first turns of a schedule. -/
def turnsOf (schedule : Nat → Turn) (n : Nat) : List Turn := (List.range n).map schedule

/-- Each end moves again and again. -/
def Fair (schedule : Nat → Turn) : Prop := ∀ t n, ∃ k, n ≤ k ∧ schedule k = t

theorem turnsOf_add (schedule : Nat → Turn) (n k : Nat) :
    turnsOf schedule (n + k) = turnsOf schedule n ++ turnsOf (fun i => schedule (n + i)) k := by
  simp [turnsOf, List.range_add]

private theorem fair_shift {schedule : Nat → Turn} (fair : Fair schedule) (n : Nat) :
    Fair fun i => schedule (n + i) := by
  intro t k
  obtain ⟨i, late, moves⟩ := fair t (n + k)
  refine ⟨i - n, by omega, ?_⟩
  rw [← moves]
  exact congrArg schedule (by omega)

/-- Under a fair schedule the line comes to its end. -/
theorem exists_ended_of_fair {schedule : Nat → Turn} (sound : l.Sound) (fair : Fair schedule) :
    ∃ n, (l.run files (turnsOf schedule n)).ended = true := by
  induction left : l.left files using Nat.strongRecOn generalizing l schedule with
  | _ bound ih =>
    cases atEnd : l.ended with
    | true => exact ⟨0, atEnd⟩
    | false =>
      obtain ⟨t, advances⟩ := exists_advances files sound atEnd
      obtain ⟨k, -, moves⟩ := fair t 0
      -- the first `k + 1` turns end with one that gets the line on
      have turns : turnsOf schedule (k + 1) = turnsOf schedule k ++ [t] := by
        rw [turnsOf_add]
        simp [turnsOf, moves]
      have less := left_run_concat sound advances (turnsOf schedule k)
      rw [← turns, left] at less
      obtain ⟨n, ends⟩ := ih _ less (sound_run files sound _) (fair_shift fair (k + 1)) rfl
      refine ⟨k + 1 + n, ?_⟩
      rw [turnsOf_add, run_append]
      exact ends

/-! ### One way to the end -/

/-- Nothing is on its way. -/
structure Clear (l : Line) : Prop where
  sound : l.Sound
  outbox : l.outbox = []
  queue : l.channel.queue = []

theorem isWorking_iff (sound : l.Sound) : l.isWorking = true ↔ l.channel.sinks = [true] := by
  unfold isWorking
  rcases sound.sinks with held | ⟨dropped, -⟩
  · simp [held]
  · simp [dropped]

/-- Each envelope that the worker pushes is taken at once. -/
private theorem clear_run_pairs (files : Files) (sound : l.Sound) (held : l.channel.sinks = [true])
    (empty : l.channel.queue = []) {es : List Envelope} (outbox : l.outbox = es) :
    let after := l.run files (es.flatMap fun _ => [.worker, .output])
    after.Clear ∧ after.feed = l.feed := by
  induction es generalizing l with
  | nil => exact ⟨⟨sound, outbox, empty⟩, rfl⟩
  | cons e es ih =>
    have pushed : l.workerTurn files = { l with outbox := es, channel := { l.channel with queue := [e] } } := by
      rw [workerTurn_of_outbox files sound.intact held outbox, empty]
      exact if_pos l.channel.room.1
    have taken : (l.workerTurn files).outputTurn =
        { l with
          outbox := es, channel := { l.channel with queue := [] }, delivered := l.delivered.push e } := by
      rw [pushed]
      simp [outputTurn, sound.intact, Channel.poll, sound.outputOpen]
    have kept : (l.workerTurn files).outputTurn.Sound :=
      sound_turn files (sound_turn files sound .worker) .output
    obtain ⟨clear, feed⟩ := ih kept (by rw [taken]; exact held) (by rw [taken]) (by rw [taken])
    exact ⟨clear, feed.trans (by rw [taken])⟩

/-- The worker takes a moment, if there is one for it, and everything is clear again. -/
private theorem clear_takeMoment (files : Files) (clear : l.Clear) (held : l.channel.sinks = [true]) :
    (l.takeMoment files).Clear ∧ ((l.takeMoment files).isWorking = false ∨
      (l.takeMoment files).feed.moments.length < l.feed.moments.length) := by
  have kept : (l.workerTurn files).Sound := sound_turn files clear.sound .worker
  cases workerTurn_cases files clear.sound with
  | waits turn stuck =>
    rcases stuck with full | dropped
    · have room := l.channel.room.1
      rw [clear.queue, List.length_nil] at full
      omega
    · rw [held] at dropped
      cases dropped
  | pushes e rest outbox =>
    rw [clear.outbox] at outbox
    cases outbox
  | givesUp idle held turn =>
    have atEnd : l.takeMoment files = l.workerTurn files := by
      unfold takeMoment
      dsimp only
      rw [turn]
      change Line.run files _ (l.outbox.flatMap _) = _
      rw [clear.outbox]
      rfl
    rw [atEnd]
    rw [turn] at kept ⊢
    exact ⟨⟨kept, clear.outbox, clear.queue⟩, .inl rfl⟩
  | takes m rest outbox held running given turn =>
    obtain ⟨again, feed⟩ := clear_run_pairs files kept (by rw [turn]; exact held)
      (by rw [turn]; exact clear.queue) rfl
    refine ⟨again, .inr ?_⟩
    have fewer : l.feed.moments.length = rest.moments.length + 1 := by
      rw [Feed.moments_of_next? given, List.length_cons]
    have same : (l.takeMoment files).feed = rest := feed.trans (by rw [turn])
    rw [same, fewer]
    exact Nat.lt_succ_self _

private theorem takeMoments_of_idle (idle : l.isWorking = false) (n : Nat) : l.takeMoments files n = l := by
  cases n with
  | zero => rfl
  | succ n => simp [takeMoments, idle]

private theorem clear_takeMoments (files : Files) {n : Nat} (clear : l.Clear) (enough : l.feed.moments.length < n) :
    (l.takeMoments files n).Clear ∧ (l.takeMoments files n).isWorking = false := by
  induction n generalizing l with
  | zero => cases enough
  | succ n ih =>
    cases working : l.isWorking with
    | false =>
      rw [takeMoments_of_idle working]
      exact ⟨clear, working⟩
    | true =>
      rw [takeMoments, if_pos working]
      obtain ⟨again, atEnd | fewer⟩ := clear_takeMoment files clear ((isWorking_iff clear.sound).1 working)
      · rw [takeMoments_of_idle atEnd]
        exact ⟨again, atEnd⟩
      · exact ih again (by omega)

theorem ended_finish (clear : l.Clear) : (l.finish files).ended = true := by
  have enough : l.feed.moments.length < l.feed.bound + 1 := by
    have few := l.feed.length_moments_le
    have bound := l.feed.left_le_bound
    omega
  obtain ⟨again, idle⟩ := clear_takeMoments files clear enough
  unfold finish
  cases outputTurn_cases again.sound with
  | waits turn empty held =>
    rw [(isWorking_iff again.sound).2 held] at idle
    cases idle
  | takes e rest queue =>
    rw [again.queue] at queue
    cases queue
  | ends empty dropped turn => rw [turn]

private theorem takeMoments_eq_run (files : Files) (l : Line) (n : Nat) :
    ∃ turns, l.takeMoments files n = l.run files turns := by
  induction n generalizing l with
  | zero => exact ⟨[], rfl⟩
  | succ n ih =>
    rw [takeMoments]
    split
    · obtain ⟨turns, rest⟩ := ih (l.takeMoment files)
      refine ⟨.worker :: ((l.workerTurn files).outbox.flatMap fun _ => [.worker, .output]) ++ turns, ?_⟩
      rw [rest, run_append]
      rfl
    · exact ⟨[], rfl⟩

/-- The way that `finish` takes is one of many. -/
theorem finish_eq_run (files : Files) (l : Line) : ∃ turns, l.finish files = l.run files turns := by
  obtain ⟨turns, most⟩ := takeMoments_eq_run files l (l.feed.bound + 1)
  refine ⟨turns ++ [.output], ?_⟩
  rw [finish, most, run_append]
  rfl

theorem clear_ofFeed {channel : Channel} (new : channel.IsNew) (feed : Feed) (work : Work) :
    (ofFeed channel true feed work).Clear := by
  refine ⟨sound_ofFeed new feed work, rfl, ?_⟩
  change channel.openSink.2.queue = []
  rw [new.openSink]
  exact new.queue

/-- The way that `finish` takes leads to the end. -/
theorem exists_finish {channel : Channel} (new : channel.IsNew) (files : Files) (feed : Feed) (work : Work) :
    let start := ofFeed channel true feed work
    ∃ turns, start.finish files = start.run files turns ∧ (start.run files turns).ended = true := by
  intro start
  obtain ⟨turns, way⟩ := finish_eq_run files start
  refine ⟨turns, way, ?_⟩
  rw [← way]
  exact ended_finish (clear_ofFeed new feed work)

end FrameStream.Line
