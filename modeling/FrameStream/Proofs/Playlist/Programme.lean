import FrameStream.Proofs.Playlist.Answers

/-!
# The programme of a playlist

A playlist answers its calls one by one, but all that it will ever answer is settled by the files ahead of it and by
what the opener makes of them: the *programme* lists it in closed form.  Each call takes the head off what remains of
the programme (`step_remaining`), so that whole runs are read off it (`answer_reached`), failures included.  The opener
may have a state of its own: it is asked for one file at most in a call (`needs_iff`), and for the files of the list
in turn, once for each pass (`opened_of_remaining`).
-/

namespace FrameStream.Playlist

variable {σ : Type} {p q : Playlist}

/-- Opens media files, with a state that a file may change. -/
abbrev Opening (σ : Type) := σ → Path → Except String Media × σ

/-! ### The programme -/

/-- What reading a buffer comes to. -/
def readAnswer : Except String Buffer → Except Failure StreamItem
  | .ok b => .ok (.buffer b)
  | .error e => .error (.plain (.media e))

/-- The caps of the file that was opened last. -/
def capsAfter (last : Option Caps) : Except String Media → Option Caps
  | .ok m => some m.caps
  | .error _ => last

/-- All that a file gives: its caps, if they are new, its location and its buffers, or nothing but a failure. -/
def fileAnswers (last : Option Caps) (path : Path) : Except String Media → List (Except Failure StreamItem)
  | .ok m => (if last = some m.caps then [] else [.ok (.event (.caps m.caps))]) ++
      .ok (locationItem path) :: m.buffers.map readAnswer
  | .error e => [.error ⟨[.openMedia path], .media e⟩]

/-- All that files give one after the other, and the end of the stream behind them. -/
def programme (opening : Opening σ) : σ → (last : Option Caps) → List Path → List (Except Failure StreamItem)
  | _, _, [] => [.ok (.event .endOfStream)]
  | s, last, path :: paths =>
    fileAnswers last path (opening s path).1 ++
      programme opening (opening s path).2 (capsAfter last (opening s path).1) paths

theorem endOfStream_notMem_fileAnswers (last : Option Caps) (path : Path) (opened : Except String Media) :
    .ok (.event .endOfStream) ∉ fileAnswers last path opened := by
  cases opened with
  | error e => simp [fileAnswers]
  | ok m =>
    have read : .ok (.event .endOfStream) ∉ m.buffers.map readAnswer := by
      intro told
      obtain ⟨buffer, -, told⟩ := List.mem_map.1 told
      cases buffer <;> cases told
    by_cases same : last = some m.caps <;> simp [fileAnswers, locationItem, read, same]

/-- The end of the stream is told once, behind everything else. -/
theorem programme_eq_concat (opening : Opening σ) (s : σ) (last : Option Caps) (paths : List Path) :
    ∃ items, programme opening s last paths = items ++ [.ok (.event .endOfStream)] ∧
      .ok (.event .endOfStream) ∉ items := by
  induction paths generalizing s last with
  | nil => exact ⟨[], rfl, List.not_mem_nil⟩
  | cons path paths ih =>
    obtain ⟨items, whole, never⟩ := ih (opening s path).2 (capsAfter last (opening s path).1)
    refine ⟨fileAnswers last path (opening s path).1 ++ items, ?_, ?_⟩
    · rw [programme, whole, List.append_assoc]
    · exact List.not_mem_append (endOfStream_notMem_fileAnswers _ _ _) never

theorem programme_ne_nil (opening : Opening σ) (s : σ) (last : Option Caps) (paths : List Path) :
    programme opening s last paths ≠ [] := by
  obtain ⟨items, whole, -⟩ := programme_eq_concat opening s last paths
  rw [whole]
  exact List.concat_ne_nil _ _

/-- The whole list once and then again for each loop. -/
def itinerary (paths : List Path) (loops : Nat) : List Path := (List.replicate (loops + 1) paths).flatten

/-- A file comes up once in each pass, as often as it is listed. -/
theorem count_itinerary (paths : List Path) (loops : Nat) (path : Path) :
    (itinerary paths loops).count path = (loops + 1) * paths.count path := by
  rw [itinerary, List.count_flatten, List.map_replicate, List.sum_replicate_nat]

/-- The files that are still to be opened. -/
def ahead (p : Playlist) : List Path := p.upcoming ++ (List.replicate p.loops p.paths).flatten

/-! ### Single calls -/

/-- The file that a call asks the opener for. -/
def asked? (p : Playlist) : Option Path :=
  match p.pending, p.finished, p.current with
  | none, false, [] => p.nextPath?.map Prod.fst
  | _, _, _ => none

theorem ahead_of_nextPath? {path : Path} (h : p.nextPath? = some (path, q)) : p.ahead = path :: q.ahead := by
  unfold nextPath? at h
  split at h
  · rename_i rest upcoming
    cases h
    rw [ahead, upcoming]
    rfl
  · rename_i loops first rest upcoming again paths
    cases h
    rw [ahead, upcoming, again, List.replicate_succ, List.flatten_cons, paths]
    rfl
  · cases h

theorem ahead_of_end (h : p.nextPath? = none) : p.ahead = [] := by
  unfold nextPath? at h
  cases upcoming : p.upcoming with
  | cons path rest =>
    rw [upcoming] at h
    cases h
  | nil =>
    cases paths : p.paths with
    | nil => simp [ahead, upcoming, paths]
    | cons path rest =>
      cases again : p.loops with
      | zero => rw [ahead, upcoming, again, List.replicate_zero, List.flatten_nil, List.nil_append]
      | succ loops =>
        rw [upcoming, again, paths] at h
        cases h

theorem asked?_of_place {path : Path} (waiting : p.pending = none) (running : p.finished = false)
    (idle : p.current = []) (place : p.nextPath? = some (path, q)) : p.asked? = some path := by
  rw [asked?, waiting, running, idle, place]
  rfl

/-- A call uses the opener for the file that it asks for, if any, and for no other. -/
theorem next_congr {opener other : Opener} (same : ∀ path ∈ p.asked?, opener path = other path) :
    p.next opener = p.next other := by
  unfold next
  cases pending : p.pending with
  | some item => rfl
  | none =>
    cases finished : p.finished with
    | true => rfl
    | false =>
      cases current : p.current with
      | cons read rest => cases read <;> rfl
      | nil =>
        unfold openNext
        cases place : p.nextPath? with
        | none => rfl
        | some head =>
          dsimp only
          rw [same head.1 (asked?_of_place pending finished current place)]

/-- What a file comes to that cannot be opened. -/
theorem next_of_asked {opener : Opener} {path : Path} {e : String} (asks : p.asked? = some path)
    (found : opener path = .error e) : (p.next opener).1 = .error ⟨[.openMedia path], .media e⟩ := by
  unfold asked? at asks
  split at asks
  · rename_i waiting running idle
    obtain ⟨⟨_, q⟩, place, rfl⟩ := Option.map_eq_some_iff.1 asks
    rw [next, waiting, running, idle, openNext, place]
    dsimp only
    rw [found]
    rfl
  · cases asks

/-- The call depends on what the opener makes of the file. -/
def Needs (p : Playlist) (path : Path) : Prop :=
  ∃ opener other : Opener, (∀ q, q ≠ path → opener q = other q) ∧ p.next opener ≠ p.next other

/-- A call needs the file that it asks for and no other. -/
theorem needs_iff {path : Path} : p.Needs path ↔ p.asked? = some path := by
  constructor
  · rintro ⟨opener, other, same, different⟩
    refine Decidable.byContradiction fun unasked => different (next_congr fun q asks => same q ?_)
    rintro rfl
    exact unasked asks
  · intro asks
    have fails (e : String) : (p.next fun q => .error (if q = path then e else "")).1 =
        .error ⟨[.openMedia path], .media e⟩ :=
      next_of_asked asks (by rw [if_pos rfl])
    refine ⟨fun q => .error (if q = path then "missing" else ""), fun q => .error (if q = path then "locked" else ""),
      fun q other => ?_, fun same => ?_⟩
    · dsimp only
      rw [if_neg other, if_neg other]
    · have told := (fails "missing").symm.trans ((congrArg Prod.fst same).trans (fails "locked"))
      simp at told

/-- The end is told when no file is ahead. -/
def IsSettled (p : Playlist) : Prop := p.finished = true → p.ahead = []

theorem IsSettled.next (settled : p.IsSettled) (opener : Opener) : (p.next opener).2.IsSettled := by
  have unfinished {path : Path} {q : Playlist} (running : p.finished = false) (place : p.nextPath? = some (path, q)) :
      q.finished ≠ true := by
    rw [moved_of_nextPath? place, running]
    exact Bool.false_ne_true
  cases answer_cases opener p with
  | tells item pending unopened next =>
    rw [next]
    exact settled
  | stays waiting finished unopened next =>
    rw [next]
    exact settled
  | plays b rest waiting running current unopened next =>
    rw [next]
    exact settled
  | fails f e rest waiting current unopened next =>
    rw [next]
    exact settled
  | ends waiting running idle unopened next past =>
    rw [next]
    have none_ahead : p.ahead = [] := ahead_of_end past
    exact fun _ => none_ahead
  | missing path f q waiting running idle place unopened next =>
    rw [next]
    exact fun told => (unfinished running place told).elim
  | reopens path m q waiting running idle place found opened same next =>
    rw [next]
    exact fun told => (unfinished running place told).elim
  | opens path m q waiting running idle place found opened next =>
    rw [next]
    exact fun told => (unfinished running place told).elim

/-! ### Runs with an opener that has a state -/

/-- A playlist and the state of its opener. -/
structure Playing (σ : Type) where
  playlist : Playlist
  state : σ

namespace Playing

variable (opening : Opening σ) (s : Playing σ)

/-- The opener as it is now. -/
def opener : Opener := fun path => (opening s.state path).1

def answer : Except Failure (Option StreamItem) := (s.playlist.next (s.opener opening)).1

/-- After a call.  The opener is changed by the file that it is asked for. -/
def after : Playing σ where
  playlist := (s.playlist.next (s.opener opening)).2
  state := match s.playlist.asked? with
    | some path => (opening s.state path).2
    | none => s.state

def reached : Nat → Playing σ
  | 0 => s
  | n + 1 => after opening (reached n)

/-- What remains of the programme. -/
def remaining : List (Except Failure StreamItem) :=
  s.playlist.pending.toList.map .ok ++
    if s.playlist.finished then []
    else s.playlist.current.map readAnswer ++ programme opening s.state s.playlist.lastCaps s.playlist.ahead

end Playing

/-- The answer to a call at which this is left. -/
def answerOf : Option (Except Failure StreamItem) → Except Failure (Option StreamItem)
  | some answer => some <$> answer
  | none => .ok none

namespace Playing

/-- A call that asks for no file does not change the opener. -/
private theorem after_of_next {opening : Opening σ} {s : Playing σ} {q : Playlist}
    {answer : Except Failure (Option StreamItem)} (next : s.playlist.next (s.opener opening) = (answer, q))
    (asks : s.playlist.asked? = none) : s.answer opening = answer ∧ s.after opening = ⟨q, s.state⟩ := by
  unfold Playing.answer after
  rw [next, asks]
  exact ⟨rfl, rfl⟩

/-- A call that asks for a file changes the opener with it. -/
private theorem after_of_asked {opening : Opening σ} {s : Playing σ} {q : Playlist} {path : Path}
    {answer : Except Failure (Option StreamItem)} (next : s.playlist.next (s.opener opening) = (answer, q))
    (asks : s.playlist.asked? = some path) :
    s.answer opening = answer ∧ s.after opening = ⟨q, (opening s.state path).2⟩ := by
  unfold Playing.answer after
  rw [next, asks]
  exact ⟨rfl, rfl⟩

/-- Nothing remains once the end is told. -/
private theorem remaining_of_finished {opening : Opening σ} {s : Playing σ} (waiting : s.playlist.pending = none)
    (finished : s.playlist.finished = true) : s.remaining opening = [] := by
  rw [remaining, waiting, finished]
  rfl

private theorem remaining_of_running {opening : Opening σ} {s : Playing σ} (waiting : s.playlist.pending = none)
    (running : s.playlist.finished = false) :
    s.remaining opening =
      s.playlist.current.map readAnswer ++ programme opening s.state s.playlist.lastCaps s.playlist.ahead := by
  simp [remaining, waiting, running]

/-- Between two files the programme of the next one remains, and that of those behind it. -/
private theorem remaining_of_place {opening : Opening σ} {s : Playing σ} {path : Path}
    (waiting : s.playlist.pending = none) (running : s.playlist.finished = false) (idle : s.playlist.current = [])
    (place : s.playlist.nextPath? = some (path, q)) :
    s.remaining opening = fileAnswers s.playlist.lastCaps path (s.opener opening path) ++
      programme opening (opening s.state path).2 (capsAfter s.playlist.lastCaps (s.opener opening path)) q.ahead := by
  rw [remaining_of_running waiting running, idle, ahead_of_nextPath? place]
  rfl

/-- A call takes the head off what remains, and a file that it asks for off those ahead. -/
structure Steps (opening : Opening σ) (s : Playing σ) : Prop where
  answer : s.answer opening = answerOf (s.remaining opening).head?
  remaining : (s.after opening).remaining opening = (s.remaining opening).tail
  ahead : s.playlist.ahead = s.playlist.asked?.toList ++ (s.after opening).playlist.ahead

/-! ### Steps between files -/

/-- A call that gives what comes first and asks for no file. -/
private theorem steps_of_first {opening : Opening σ} {s : Playing σ} (first : Except Failure StreamItem)
    (next : s.playlist.next (s.opener opening) = (some <$> first, q)) (asks : s.playlist.asked? = none)
    (left : s.remaining opening = first :: Playing.remaining opening ⟨q, s.state⟩)
    (same : q.ahead = s.playlist.ahead) : s.Steps opening := by
  obtain ⟨answer, after⟩ := after_of_next next asks
  refine ⟨?_, ?_, ?_⟩
  · rw [answer, left]
    rfl
  · rw [after, left]
    rfl
  · rw [asks, after, same]
    rfl

private theorem steps_of_pending {opening : Opening σ} {s : Playing σ} {item : StreamItem}
    (pending : s.playlist.pending = some item)
    (next : s.playlist.next (s.opener opening) = (.ok (some item), { s.playlist with pending := none })) :
    s.Steps opening := by
  refine steps_of_first (.ok item) next ?_ ?_ rfl
  · rw [asked?, pending]
  · rw [remaining, pending]
    rfl

private theorem steps_of_finished {opening : Opening σ} {s : Playing σ} (waiting : s.playlist.pending = none)
    (finished : s.playlist.finished = true)
    (next : s.playlist.next (s.opener opening) = (.ok none, s.playlist)) : s.Steps opening := by
  have asks : s.playlist.asked? = none := by rw [asked?, waiting, finished]
  have nothing : s.remaining opening = [] := remaining_of_finished waiting finished
  obtain ⟨answer, after⟩ := after_of_next next asks
  refine ⟨?_, ?_, ?_⟩
  · rw [answer, nothing]
    rfl
  · rw [after, nothing, List.tail_nil, ← nothing]
  · rw [asks, after]
    rfl

/-- A buffer is read, or it cannot be read. -/
private theorem steps_of_read {opening : Opening σ} {s : Playing σ} {read : Except String Buffer}
    {rest : List (Except String Buffer)} (waiting : s.playlist.pending = none)
    (running : s.playlist.finished = false) (current : s.playlist.current = read :: rest)
    (next : s.playlist.next (s.opener opening) =
      (some <$> readAnswer read, { s.playlist with current := rest })) : s.Steps opening := by
  refine steps_of_first (readAnswer read) next ?_ ?_ rfl
  · rw [asked?, waiting, running, current]
  · rw [remaining_of_running waiting running, current]
    simp [remaining, waiting, running, ahead]

private theorem steps_of_end {opening : Opening σ} {s : Playing σ} (waiting : s.playlist.pending = none)
    (running : s.playlist.finished = false) (idle : s.playlist.current = []) (past : s.playlist.nextPath? = none)
    (next : s.playlist.next (s.opener opening) =
      (.ok (some (.event .endOfStream)), { s.playlist with finished := true })) : s.Steps opening := by
  refine steps_of_first (.ok (.event .endOfStream)) next ?_ ?_ rfl
  · rw [asked?, waiting, running, idle, past]
    rfl
  · rw [remaining_of_running waiting running, idle, ahead_of_end past]
    simp [remaining, waiting, programme]

/-! ### Steps to a file -/

/-- A call that asks for a file gives the first of its answers, and the others remain. -/
private theorem steps_of_file {opening : Opening σ} {s : Playing σ} {path : Path} {q' : Playlist}
    {first : Except Failure StreamItem} {rest : List (Except Failure StreamItem)}
    (waiting : s.playlist.pending = none) (running : s.playlist.finished = false) (idle : s.playlist.current = [])
    (place : s.playlist.nextPath? = some (path, q))
    (answers : fileAnswers s.playlist.lastCaps path (s.opener opening path) = first :: rest)
    (next : s.playlist.next (s.opener opening) = (some <$> first, q'))
    (left : Playing.remaining opening ⟨q', (opening s.state path).2⟩ = rest ++
      programme opening (opening s.state path).2 (capsAfter s.playlist.lastCaps (s.opener opening path)) q.ahead)
    (same : q'.ahead = q.ahead) : s.Steps opening := by
  have asks : s.playlist.asked? = some path := asked?_of_place waiting running idle place
  have whole : s.remaining opening = _ := remaining_of_place waiting running idle place
  rw [answers, List.cons_append, ← left] at whole
  obtain ⟨answer, after⟩ := after_of_asked next asks
  refine ⟨?_, ?_, ?_⟩
  · rw [answer, whole]
    rfl
  · rw [after, whole]
    rfl
  · rw [asks, after, same]
    exact ahead_of_nextPath? place

private theorem steps_of_missing {opening : Opening σ} {s : Playing σ} {path : Path} {e : String}
    (waiting : s.playlist.pending = none) (running : s.playlist.finished = false) (idle : s.playlist.current = [])
    (place : s.playlist.nextPath? = some (path, q)) (found : s.opener opening path = .error e)
    (next : s.playlist.next (s.opener opening) = (.error ⟨[.openMedia path], .media e⟩, q)) : s.Steps opening := by
  have answers : fileAnswers s.playlist.lastCaps path (s.opener opening path) =
      [.error ⟨[.openMedia path], .media e⟩] := by
    rw [found]
    rfl
  refine steps_of_file waiting running idle place answers next ?_ rfl
  rw [found, moved_of_nextPath? place]
  simp [remaining, waiting, running, idle, capsAfter]

private theorem steps_of_reopened {opening : Opening σ} {s : Playing σ} {path : Path} {m : Media}
    (waiting : s.playlist.pending = none) (running : s.playlist.finished = false) (idle : s.playlist.current = [])
    (place : s.playlist.nextPath? = some (path, q)) (found : s.opener opening path = .ok m)
    (same : s.playlist.lastCaps = some m.caps)
    (next : s.playlist.next (s.opener opening) =
      (.ok (some (locationItem path)), { q with current := m.buffers })) : s.Steps opening := by
  have answers : fileAnswers s.playlist.lastCaps path (s.opener opening path) =
      .ok (locationItem path) :: m.buffers.map readAnswer := by
    rw [found, fileAnswers, if_pos same]
    rfl
  refine steps_of_file waiting running idle place answers next ?_ rfl
  rw [found, moved_of_nextPath? place]
  simp [remaining, waiting, running, capsAfter, same, ahead]

private theorem steps_of_opened {opening : Opening σ} {s : Playing σ} {path : Path} {m : Media}
    (waiting : s.playlist.pending = none) (running : s.playlist.finished = false) (idle : s.playlist.current = [])
    (place : s.playlist.nextPath? = some (path, q)) (found : s.opener opening path = .ok m)
    (different : s.playlist.lastCaps ≠ some m.caps)
    (next : s.playlist.next (s.opener opening) = (.ok (some (.event (.caps m.caps))),
      { q with current := m.buffers, lastCaps := some m.caps, pending := some (locationItem path) })) :
    s.Steps opening := by
  have answers : fileAnswers s.playlist.lastCaps path (s.opener opening path) =
      .ok (.event (.caps m.caps)) :: .ok (locationItem path) :: m.buffers.map readAnswer := by
    rw [found, fileAnswers, if_neg different]
    rfl
  refine steps_of_file waiting running idle place answers next ?_ rfl
  rw [found, moved_of_nextPath? place]
  simp [remaining, running, capsAfter, ahead]

theorem step_remaining (opening : Opening σ) (s : Playing σ) : s.Steps opening := by
  cases answer_cases (s.opener opening) s.playlist with
  | tells item pending unopened next => exact steps_of_pending pending next
  | stays waiting finished unopened next => exact steps_of_finished waiting finished next
  | plays b rest waiting running current unopened next => exact steps_of_read waiting running current next
  | fails f e rest waiting current unopened next words running =>
    rw [words] at next
    exact steps_of_read waiting running current next
  | ends waiting running idle unopened next past => exact steps_of_end waiting running idle past next
  | missing path f q waiting running idle place unopened next words =>
    obtain ⟨e, found, rfl⟩ := words
    exact steps_of_missing waiting running idle place found next
  | reopens path m q waiting running idle place found opened same next =>
    exact steps_of_reopened waiting running idle place found same next
  | opens path m q waiting running idle place found opened next different =>
    exact steps_of_opened waiting running idle place found different next

/-! ### Whole runs -/

/-- The files that the first calls open. -/
def opened (opening : Opening σ) (s : Playing σ) : Nat → List Path
  | 0 => []
  | n + 1 => opened opening s n ++ (s.reached opening n).playlist.asked?.toList

theorem remaining_reached (opening : Opening σ) (s : Playing σ) (n : Nat) :
    (s.reached opening n).remaining opening = (s.remaining opening).drop n := by
  induction n with
  | zero => rfl
  | succ n ih =>
    rw [reached, (step_remaining opening _).remaining, ih, List.tail_drop]

/-- The answers are those of the programme, in order, and nothing behind it. -/
theorem answer_reached (opening : Opening σ) (s : Playing σ) (n : Nat) :
    (s.reached opening n).answer opening = answerOf (s.remaining opening)[n]? := by
  rw [(step_remaining opening _).answer, remaining_reached, List.head?_drop]

/-- The files ahead are opened in turn. -/
theorem ahead_reached (opening : Opening σ) (s : Playing σ) (n : Nat) :
    s.playlist.ahead = s.opened opening n ++ (s.reached opening n).playlist.ahead := by
  induction n with
  | zero => rfl
  | succ n ih =>
    rw [ih, (step_remaining opening _).ahead, opened, List.append_assoc]
    rfl

theorem isSettled_reached (opening : Opening σ) (s : Playing σ) (settled : s.playlist.IsSettled) (n : Nat) :
    (s.reached opening n).playlist.IsSettled := by
  induction n with
  | zero => exact settled
  | succ n ih => exact ih.next _

/-- No file is ahead when nothing remains. -/
theorem ahead_of_remaining (opening : Opening σ) {s : Playing σ} (settled : s.playlist.IsSettled)
    (nothing : s.remaining opening = []) : s.playlist.ahead = [] := by
  obtain ⟨-, rest⟩ := List.append_eq_nil_iff.1 nothing
  refine settled (Decidable.byContradiction fun running => ?_)
  rw [if_neg running] at rest
  exact programme_ne_nil _ _ _ _ (List.append_eq_nil_iff.1 rest).2

/-- All files are opened by the time that nothing remains. -/
theorem opened_of_remaining (opening : Opening σ) {s : Playing σ} (settled : s.playlist.IsSettled) {n : Nat}
    (late : (s.remaining opening).length ≤ n) : s.opened opening n = s.playlist.ahead := by
  have nothing : (s.reached opening n).playlist.ahead = [] := by
    refine ahead_of_remaining opening (isSettled_reached opening s settled n) ?_
    rw [remaining_reached, List.drop_eq_nil_iff.2 late]
  rw [ahead_reached opening s n, nothing, List.append_nil]

end Playing

/-- For each pass and each file in turn a playlist answers the caps if they are new, the location and the buffers, or
the failure, then one end of the stream, and nothing after it; it needs each file once in each pass. -/
theorem answers_of_ofPaths (opening : Opening σ) (state : σ) (paths : List Path) (loops : Nat) :
    let start : Playing σ := ⟨ofPaths paths loops, state⟩
    let answers := programme opening state none (itinerary paths loops)
    (∀ n, (start.reached opening n).answer opening = answerOf answers[n]?) ∧
    (∃ items, answers = items ++ [.ok (.event .endOfStream)] ∧ .ok (.event .endOfStream) ∉ items) ∧
    (paths = [] → answers = [.ok (.event .endOfStream)]) ∧
    (∀ n path, (start.reached opening n).playlist.Needs path ↔
      start.opened opening (n + 1) = start.opened opening n ++ [path]) ∧
    (∀ n, start.opened opening n <+: itinerary paths loops) ∧
    ∀ n, answers.length ≤ n → start.opened opening n = itinerary paths loops ∧
      ∀ path, (start.opened opening n).count path = (loops + 1) * paths.count path := by
  intro start answers
  have remaining : start.remaining opening = answers := rfl
  have ahead : start.playlist.ahead = itinerary paths loops := rfl
  have settled : start.playlist.IsSettled := fun told => by cases told
  refine ⟨fun n => ?_, programme_eq_concat _ _ _ _, ?_, fun n path => ?_, fun n => ?_, fun n late => ?_⟩
  · rw [Playing.answer_reached, remaining]
  · rintro rfl
    have none_listed : itinerary [] loops = [] := by simp [itinerary]
    change programme opening state none (itinerary [] loops) = _
    rw [none_listed]
    rfl
  · rw [needs_iff, Playing.opened, List.append_right_inj, Option.toList_eq_singleton_iff]
  · exact ⟨_, (Playing.ahead_reached opening start n).symm⟩
  · have all : start.opened opening n = itinerary paths loops :=
      Playing.opened_of_remaining opening settled late
    exact ⟨all, fun path => by rw [all, count_itinerary]⟩

/-- A file that breaks off, and an empty one of other caps that is found only when it is asked for again.  The state
counts what was opened. -/
def flakyOpening : Opening Nat := fun n path =>
  if path = .ofText "a" then (.ok ⟨{ name := "video/x-h264" }, [.ok {}, .error "cut"]⟩, n + 1)
  else if n < 2 then (.error "locked", n + 1)
  else (.ok ⟨{ name := "video/x-h265" }, []⟩, n + 1)

/-- Two passes over such files, and a list without any. -/
theorem answers_flakyFiles :
    let start : Playing Nat := ⟨ofPaths [.ofText "a", .ofText "b"] 1, 0⟩
    let caps (name : String) : Except Failure (Option StreamItem) := .ok (some (.event (.caps { name })))
    let location (name : String) : Except Failure (Option StreamItem) := .ok (some (.event (.tag (some name))))
    let buffer : Except Failure (Option StreamItem) := .ok (some (.buffer {}))
    let cut : Except Failure (Option StreamItem) := .error (.plain (.media "cut"))
    (List.range 13).map (fun n => (start.reached flakyOpening n).answer flakyOpening) =
      [caps "video/x-h264", location "a", buffer, cut, .error ⟨[.openMedia (.ofText "b")], .media "locked"⟩,
        location "a", buffer, cut, caps "video/x-h265", location "b", .ok (some (.event .endOfStream)),
        .ok none, .ok none] ∧
    (start.opened flakyOpening 11).count (.ofText "b") = 2 ∧
    programme flakyOpening 0 none (itinerary [] 3) = [.ok (.event .endOfStream)] := by
  intro start caps location buffer cut
  obtain ⟨answer, -, -, -, -, all⟩ := answers_of_ofPaths flakyOpening 0 [.ofText "a", .ofText "b"] 1
  obtain ⟨-, -, nothing, -⟩ := answers_of_ofPaths flakyOpening 0 [] 3
  exact ⟨(List.map_congr_left fun n _ => answer n).trans rfl, (all 11 (by decide)).2 _, nothing rfl⟩

end FrameStream.Playlist
