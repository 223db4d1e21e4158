import FrameStream.Proofs.Playlist.Answers
import FrameStream.Proofs.Relay.Settled

/-!
# Playlists in front of a relay

A relay is handed what a playlist gives, call by call, and its sink takes everything.  Whatever becomes of opening and
reading the files, the location that the relay knows when it gets a buffer is the text of the path of the file that
was opened last, and that file is the one that the buffer was read from (`tracks_reached`).
-/

namespace FrameStream

/-- A call of a playlist: how files are opened at the time, and the files beside them. -/
structure Call where
  opener : Opener
  files : Files := {}

/-- A playlist and the relay that is handed its items. -/
structure Showing where
  playlist : Playlist
  relay : Relay

namespace Showing

/-- What the relay is handed, if the call gives an item. -/
def moment? (s : Showing) (call : Call) : Option Relay.Moment :=
  match (s.playlist.next call.opener).1 with
  | .ok (some i) => some ⟨s.relay, { operation := i.operation, files := call.files }⟩
  | _ => none

def after (s : Showing) (call : Call) : Showing where
  playlist := (s.playlist.next call.opener).2
  relay := ((s.moment? call).map Relay.Moment.after).getD s.relay

/-- The file that a call opens, if it opens one. -/
def opening? (s : Showing) (call : Call) : Option (Path × Media) := s.playlist.opening? call.opener

/-! ### Runs -/

/-- After the calls, latest first. -/
def reached (s : Showing) : List Call → Showing
  | [] => s
  | call :: past => (s.reached past).after call

/-- The moments of the relay, latest first. -/
def history (s : Showing) : List Call → List Relay.Moment
  | [] => []
  | call :: past => ((s.reached past).moment? call).toList ++ s.history past

/-- The file that was opened last. -/
def opened (s : Showing) : List Call → Option (Path × Media)
  | [] => none
  | call :: past => ((s.reached past).opening? call).or (s.opened past)

/-! ### The open file -/

/-- The file was opened last, and it is announced to the relay or about to be. -/
structure Follows (s : Showing) (path : Path) (media : Media) : Prop where
  lastCaps : s.playlist.lastCaps = some media.caps
  current : s.playlist.current <:+ media.buffers
  announced : s.playlist.pending = some (Playlist.locationItem path) ∨
    s.playlist.pending = none ∧ s.relay.tracker.location = some (.ofText path.display) ∧ s.relay.tracker.IsSettled

/-- Nothing was opened yet. -/
structure Unopened (s : Showing) : Prop where
  lastCaps : s.playlist.lastCaps = none
  current : s.playlist.current = []
  pending : s.playlist.pending = none

def Tracks (s : Showing) : Option (Path × Media) → Prop
  | none => s.Unopened
  | some (path, media) => s.Follows path media

variable {c : Config} {s : Showing} {opened : Option (Path × Media)}

theorem tracks_ofPaths (paths : List Path) (loops : Nat) (r : Relay) :
    Tracks ⟨.ofPaths paths loops, r⟩ none := ⟨rfl, rfl, rfl⟩

/-! ### Single calls -/

/-- The relay is handed an operation. -/
structure Hands (s : Showing) (call : Call) (o : Relay.Operation) (m : Relay.Moment) : Prop where
  moment : s.moment? call = some m
  before : m.before = s.relay
  asked : m.step.operation = o
  taken : m.step.IsOpen
  after : (s.after call).relay = m.after

/-- Everything that a call can do once `opened` was opened last. -/
inductive Shows (s : Showing) (opened : Option (Path × Media)) (call : Call) : Prop where
  /-- The stream is over, or a file cannot be opened or read. -/
  | nothing (moment : s.moment? call = none) (relay : (s.after call).relay = s.relay)
      (unopened : s.opening? call = none) (lastCaps : (s.after call).playlist.lastCaps = s.playlist.lastCaps)
      (finished : (s.after call).playlist.finished = s.playlist.finished)
  | negotiates (path : Path) (media : Media) (m : Relay.Moment) (hands : s.Hands call (.handle (.caps media.caps)) m)
      (opening : s.opening? call = some (path, media))
      (lastCaps : (s.after call).playlist.lastCaps = some media.caps)
      (finished : (s.after call).playlist.finished = s.playlist.finished)
  | locates (path : Path) (media : Media) (m : Relay.Moment)
      (hands : s.Hands call (.handle (.tag (some path.display))) m)
      (last : (s.opening? call).or opened = some (path, media))
      (lastCaps : (s.after call).playlist.lastCaps = s.playlist.lastCaps)
      (finished : (s.after call).playlist.finished = s.playlist.finished)
  | plays (path : Path) (media : Media) (b : Buffer) (m : Relay.Moment) (hands : s.Hands call (.transform b) m)
      (unopened : s.opening? call = none) (last : opened = some (path, media)) (there : .ok b ∈ media.buffers)
      (location : s.relay.tracker.location = some (.ofText path.display)) (settled : s.relay.tracker.IsSettled)
      (lastCaps : (s.after call).playlist.lastCaps = s.playlist.lastCaps) (running : s.playlist.finished = false)
  | ends (m : Relay.Moment) (hands : s.Hands call (.handle .endOfStream) m) (unopened : s.opening? call = none)
      (lastCaps : (s.after call).playlist.lastCaps = s.playlist.lastCaps)
      (finished : (s.after call).playlist.finished = true)

private theorem hands_of_next {call : Call} {i : StreamItem} {p : Playlist}
    (next : s.playlist.next call.opener = (.ok (some i), p)) :
    ∃ m, s.Hands call i.operation m ∧ s.after call = ⟨p, m.after⟩ := by
  have moment : s.moment? call = some ⟨s.relay, { operation := i.operation, files := call.files }⟩ := by
    rw [moment?, next]
  have after : s.after call = ⟨p, Relay.Moment.after ⟨s.relay, { operation := i.operation, files := call.files }⟩⟩ := by
    rw [Showing.after, moment, next]
    rfl
  exact ⟨_, ⟨moment, rfl, rfl, rfl, by rw [after]⟩, after⟩

private theorem nothing_of_next {call : Call} {p : Playlist} {answer : Except Failure (Option StreamItem)}
    (next : s.playlist.next call.opener = (answer, p)) (nothing : ∀ i, answer ≠ .ok (some i)) :
    s.moment? call = none ∧ s.after call = ⟨p, s.relay⟩ := by
  have moment : s.moment? call = none := by
    rw [moment?, next]
    split
    · rename_i i given
      exact absurd given (nothing i)
    · rfl
  refine ⟨moment, ?_⟩
  rw [after, moment, next]
  rfl

/-- All that the relay is handed are items, so its sources stay. -/
theorem sources_after (s : Showing) (call : Call) : (s.after call).relay.sources = s.relay.sources := by
  unfold after
  cases moment : s.moment? call with
  | none => rfl
  | some m =>
    unfold moment? at moment
    split at moment
    · cases moment
      exact Relay.sources_of_item rfl
    · cases moment

theorem change_after (s : Showing) (call : Call) : s.relay.Change (s.after call).relay := by
  unfold after
  cases moment : s.moment? call with
  | none => exact .refl s.relay
  | some m =>
    unfold moment? at moment
    split at moment
    · cases moment
      exact Relay.Moment.change ⟨s.relay, _⟩
    · cases moment

/-- A file that is located is followed from then on. -/
private theorem announced_of_located {m : Relay.Moment} {path : Path}
    (asked : m.step.operation = .handle (.tag (some path.display))) :
    m.after.tracker.location = some (.ofText path.display) ∧ m.after.tracker.IsSettled := by
  rw [(Relay.outcome_opened asked).2]
  exact ⟨(m.before.tracker.sameStream_onTag m.step.files _).location, Tracker.isSettled_onTag _ _ _⟩

/-- A buffer does not make the relay forget the file. -/
private theorem announced_of_served {m : Relay.Moment} {path : Path} {b : Buffer} (kept : m.before.IsOf c)
    (taken : m.step.IsOpen) (asked : m.step.operation = .transform b)
    (location : m.before.tracker.location = some (.ofText path.display)) (settled : m.before.tracker.IsSettled) :
    m.after.tracker.location = some (.ofText path.display) ∧ m.after.tracker.IsSettled := by
  cases Relay.served_of_isSettled kept taken asked settled with
  | early refused emitted after =>
    rw [after]
    exact ⟨location, settled⟩
  | unsupported name type emitted behind => exact ⟨behind.stream.location.trans location, behind.isSettled settled⟩
  | shown p shown emitted behind => exact ⟨behind.stream.location.trans location, behind.isSettled settled⟩

/-- With nothing to be told, a file that was opened is announced. -/
private theorem Follows.located {path : Path} {media : Media} (follows : s.Follows path media)
    (waiting : s.playlist.pending = none) :
    s.relay.tracker.location = some (.ofText path.display) ∧ s.relay.tracker.IsSettled := by
  rcases follows.announced with told | ⟨-, announced⟩
  · rw [waiting] at told
    cases told
  · exact announced

/-! ### One lemma for each kind of call -/

variable {call : Call}

/-- A file is only announced if it was opened. -/
private theorem follows_of_pending {item : StreamItem} (tracks : s.Tracks opened)
    (pending : s.playlist.pending = some item) :
    ∃ path media, opened = some (path, media) ∧ item = Playlist.locationItem path ∧ s.Follows path media := by
  cases opened with
  | none =>
    have silent : s.playlist.pending = none := tracks.pending
    rw [pending] at silent
    cases silent
  | some file =>
    obtain ⟨path, media⟩ := file
    have follows : s.Follows path media := tracks
    refine ⟨path, media, rfl, ?_, follows⟩
    have announced := follows.announced
    rw [pending] at announced
    simpa using announced

/-- Only what is left of a file that was opened is read. -/
private theorem follows_of_current {read : Except String Buffer} {rest : List (Except String Buffer)}
    (tracks : s.Tracks opened) (current : s.playlist.current = read :: rest) :
    ∃ path media, opened = some (path, media) ∧ s.Follows path media := by
  cases opened with
  | none =>
    have closed : s.playlist.current = [] := tracks.current
    rw [current] at closed
    cases closed
  | some file => exact ⟨file.1, file.2, rfl, tracks⟩

/-- The announcement of a file is completed. -/
private theorem shows_of_pending {item : StreamItem} (tracks : s.Tracks opened)
    (pending : s.playlist.pending = some item) (unopened : s.opening? call = none)
    (next : s.playlist.next call.opener = (.ok (some item), { s.playlist with pending := none })) :
    s.Shows opened call ∧ (s.after call).Tracks opened := by
  obtain ⟨path, media, rfl, rfl, follows⟩ := follows_of_pending tracks pending
  obtain ⟨m, hands, after⟩ := hands_of_next next
  refine ⟨.locates path media m hands (by rw [unopened]; rfl) (by rw [after]) (by rw [after]), ?_⟩
  rw [after]
  exact ⟨follows.lastCaps, follows.current, .inr ⟨rfl, announced_of_located hands.asked⟩⟩

/-- A call that gives no item changes nothing of what is followed, though it may read on or look for a file. -/
private theorem shows_of_nothing {p : Playlist} {answer : Except Failure (Option StreamItem)}
    (tracks : s.Tracks opened) (unopened : s.opening? call = none)
    (next : s.playlist.next call.opener = (answer, p)) (nothing : ∀ i, answer ≠ .ok (some i))
    (lastCaps : p.lastCaps = s.playlist.lastCaps) (finished : p.finished = s.playlist.finished)
    (pending : p.pending = s.playlist.pending) (current : p.current <:+ s.playlist.current) :
    s.Shows opened call ∧ (s.after call).Tracks opened := by
  obtain ⟨moment, after⟩ := nothing_of_next next nothing
  refine ⟨.nothing moment (by rw [after]) unopened (by rw [after]; exact lastCaps) (by rw [after]; exact finished), ?_⟩
  rw [after]
  cases opened with
  | none =>
    refine ⟨lastCaps.trans tracks.lastCaps, ?_, pending.trans tracks.pending⟩
    rw [tracks.current] at current
    exact List.suffix_nil.1 current
  | some file =>
    refine ⟨lastCaps.trans tracks.lastCaps, current.trans tracks.current, ?_⟩
    rw [pending]
    exact tracks.announced

private theorem shows_of_buffer {b : Buffer} {rest : List (Except String Buffer)} (kept : s.relay.IsOf c)
    (tracks : s.Tracks opened) (waiting : s.playlist.pending = none) (running : s.playlist.finished = false)
    (current : s.playlist.current = .ok b :: rest) (unopened : s.opening? call = none)
    (next : s.playlist.next call.opener = (.ok (some (.buffer b)), { s.playlist with current := rest })) :
    s.Shows opened call ∧ (s.after call).Tracks opened := by
  obtain ⟨path, media, rfl, follows⟩ := follows_of_current tracks current
  obtain ⟨m, hands, after⟩ := hands_of_next next
  obtain ⟨location, settled⟩ := follows.located waiting
  have unread := follows.current
  rw [current] at unread
  refine ⟨.plays path media b m hands unopened rfl (unread.subset List.mem_cons_self) location settled
    (by rw [after]) running, ?_⟩
  rw [← hands.before] at kept location settled
  rw [after]
  exact ⟨follows.lastCaps, (List.suffix_cons _ rest).trans unread,
    .inr ⟨waiting, announced_of_served kept hands.taken hands.asked location settled⟩⟩

private theorem shows_of_end (started : s.relay.isStarted) (tracks : s.Tracks opened)
    (waiting : s.playlist.pending = none) (idle : s.playlist.current = []) (unopened : s.opening? call = none)
    (next : s.playlist.next call.opener =
      (.ok (some (.event .endOfStream)), { s.playlist with finished := true })) :
    s.Shows opened call ∧ (s.after call).Tracks opened := by
  obtain ⟨m, hands, after⟩ := hands_of_next next
  refine ⟨.ends m hands unopened (by rw [after]) (by rw [after]), ?_⟩
  rw [after]
  cases opened with
  | none => exact ⟨tracks.lastCaps, idle, waiting⟩
  | some file =>
    obtain ⟨path, media⟩ := file
    have follows : s.Follows path media := tracks
    have announced := follows.located waiting
    rw [← hands.before] at started announced
    refine ⟨follows.lastCaps, follows.current, .inr ⟨waiting, ?_⟩⟩
    rw [(Relay.ended_of_started started hands.asked hands.taken).2]
    exact announced

/-- A file is opened whose caps are those of the file before it. -/
private theorem shows_of_reopened {path : Path} {media : Media} {q : Playlist} (waiting : s.playlist.pending = none)
    (moved : s.playlist.Moved q) (opening : s.opening? call = some (path, media))
    (same : s.playlist.lastCaps = some media.caps)
    (next : s.playlist.next call.opener =
      (.ok (some (Playlist.locationItem path)), { q with current := media.buffers })) :
    s.Shows opened call ∧ (s.after call).Tracks (some (path, media)) := by
  have lastCaps : q.lastCaps = s.playlist.lastCaps := by rw [moved]
  have pending : q.pending = none := by rw [moved, waiting]
  have finished : q.finished = s.playlist.finished := by rw [moved]
  obtain ⟨m, hands, after⟩ := hands_of_next next
  refine ⟨.locates path media m hands (by rw [opening]; rfl) (by rw [after]; exact lastCaps)
    (by rw [after]; exact finished), ?_⟩
  rw [after]
  exact ⟨lastCaps.trans same, List.suffix_rfl, .inr ⟨pending, announced_of_located hands.asked⟩⟩

/-- A file is opened and its caps are told, the location being about to be. -/
private theorem shows_of_opened {path : Path} {media : Media} {q : Playlist} (moved : s.playlist.Moved q)
    (opening : s.opening? call = some (path, media))
    (next : s.playlist.next call.opener = (.ok (some (.event (.caps media.caps))),
      { q with
        current := media.buffers, lastCaps := some media.caps, pending := some (Playlist.locationItem path) })) :
    s.Shows opened call ∧ (s.after call).Tracks (some (path, media)) := by
  have finished : q.finished = s.playlist.finished := by rw [moved]
  obtain ⟨m, hands, after⟩ := hands_of_next next
  refine ⟨.negotiates path media m hands opening (by rw [after]) (by rw [after]; exact finished), ?_⟩
  rw [after]
  exact ⟨rfl, List.suffix_rfl, .inl rfl⟩

theorem shows_cases (kept : s.relay.IsOf c) (started : s.relay.isStarted) (tracks : s.Tracks opened) (call : Call) :
    s.Shows opened call ∧ (s.after call).Tracks ((s.opening? call).or opened) := by
  have unopened (silent : s.opening? call = none) : (s.opening? call).or opened = opened := by
    rw [silent, Option.none_or]
  cases Playlist.answer_cases call.opener s.playlist with
  | tells item pending opening next =>
    rw [unopened opening]
    exact shows_of_pending tracks pending opening next
  | stays waiting finished opening next =>
    rw [unopened opening]
    exact shows_of_nothing tracks opening next (by simp) rfl rfl rfl List.suffix_rfl
  | plays b rest waiting running current opening next =>
    rw [unopened opening]
    exact shows_of_buffer kept tracks waiting running current opening next
  | fails f e rest waiting current opening next =>
    rw [unopened opening]
    refine shows_of_nothing tracks opening next (by simp) rfl rfl rfl ?_
    rw [current]
    exact List.suffix_cons _ rest
  | ends waiting running idle opening next =>
    rw [unopened opening]
    exact shows_of_end started tracks waiting idle opening next
  | missing path f q waiting running idle place opening next =>
    rw [unopened opening]
    have moved := Playlist.moved_of_nextPath? place
    refine shows_of_nothing tracks opening next (by simp) ?_ ?_ ?_ ?_
    · rw [moved]
    · rw [moved]
    · rw [moved]
    · rw [moved]
  | reopens path media q waiting running idle place found opening same next =>
    have opening : s.opening? call = some (path, media) := opening
    rw [opening, Option.some_or]
    exact shows_of_reopened waiting (Playlist.moved_of_nextPath? place) opening same next
  | opens path media q waiting running idle place found opening next =>
    have opening : s.opening? call = some (path, media) := opening
    rw [opening, Option.some_or]
    exact shows_of_opened (Playlist.moved_of_nextPath? place) opening next

/-! ### Whole runs -/

theorem sources_reached (s : Showing) (calls : List Call) : (s.reached calls).relay.sources = s.relay.sources := by
  induction calls with
  | nil => rfl
  | cons call past ih => exact (sources_after _ call).trans ih

theorem isStarted_reached (started : s.relay.isStarted) (calls : List Call) : (s.reached calls).relay.isStarted := by
  rw [Relay.isStarted, sources_reached]
  exact started

theorem isOf_reached (kept : s.relay.IsOf c) (calls : List Call) : (s.reached calls).relay.IsOf c := by
  induction calls with
  | nil => exact kept
  | cons call past ih => exact ih.of_change (change_after _ call)

/-- At every time the relay knows the file that was opened last. -/
theorem tracks_reached (kept : s.relay.IsOf c) (started : s.relay.isStarted) (tracks : s.Tracks none)
    (calls : List Call) : (s.reached calls).Tracks (s.opened calls) := by
  induction calls with
  | nil => exact tracks
  | cons call past ih =>
    exact (shows_cases (isOf_reached kept past) (isStarted_reached started past) ih call).2

end Showing

end FrameStream
