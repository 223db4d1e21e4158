import FrameStream.Pipeline.Playlist

/-!
# What a playlist answers

Eight things can come of asking a playlist for its next item (`answer_cases`), and which of them it is shows in the
playlist: whether something is still to be told, whether the end was told, what is left of the open file, and what
becomes of opening the next one.
-/

namespace FrameStream.Playlist

variable {opener : Opener} {p q : Playlist}

/-- Another place in the list. -/
def Moved (p q : Playlist) : Prop := q = { p with upcoming := q.upcoming, loops := q.loops }

theorem moved_of_nextPath? {path : Path} (h : p.nextPath? = some (path, q)) : p.Moved q := by
  unfold nextPath? at h
  split at h
  · cases h
    rfl
  · cases h
    rfl
  · cases h

/-- The file that the next call opens, if it opens one. -/
def opening? (opener : Opener) (p : Playlist) : Option (Path × Media) :=
  match p.pending, p.finished, p.current, p.nextPath? with
  | none, false, [], some (path, _) => (opener path).toOption.map (path, ·)
  | _, _, _, _ => none

/-- Everything that a call can do. -/
inductive Answer (opener : Opener) (p : Playlist) : Prop where
  /-- The announcement of a file is completed. -/
  | tells (item : StreamItem) (pending : p.pending = some item) (unopened : p.opening? opener = none)
      (next : p.next opener = (.ok (some item), { p with pending := none }))
  | stays (waiting : p.pending = none) (finished : p.finished = true) (unopened : p.opening? opener = none)
      (next : p.next opener = (.ok none, p))
  | plays (b : Buffer) (rest : List (Except String Buffer)) (waiting : p.pending = none)
      (running : p.finished = false) (current : p.current = .ok b :: rest) (unopened : p.opening? opener = none)
      (next : p.next opener = (.ok (some (.buffer b)), { p with current := rest }))
  | fails (f : Failure) (e : String) (rest : List (Except String Buffer)) (waiting : p.pending = none)
      (current : p.current = .error e :: rest) (unopened : p.opening? opener = none)
      (next : p.next opener = (.error f, { p with current := rest })) (words : f = .plain (.media e))
      (running : p.finished = false)
  | ends (waiting : p.pending = none) (running : p.finished = false) (idle : p.current = [])
      (unopened : p.opening? opener = none)
      (next : p.next opener = (.ok (some (.event .endOfStream)), { p with finished := true }))
      (past : p.nextPath? = none)
  /-- The next file cannot be opened. -/
  | missing (path : Path) (f : Failure) (q : Playlist) (waiting : p.pending = none) (running : p.finished = false)
      (idle : p.current = []) (place : p.nextPath? = some (path, q)) (unopened : p.opening? opener = none)
      (next : p.next opener = (.error f, q))
      (words : ∃ e, opener path = .error e ∧ f = ⟨[.openMedia path], .media e⟩)
  /-- A file is opened whose caps are those of the file before it. -/
  | reopens (path : Path) (m : Media) (q : Playlist) (waiting : p.pending = none) (running : p.finished = false)
      (idle : p.current = []) (place : p.nextPath? = some (path, q)) (found : opener path = .ok m)
      (opened : p.opening? opener = some (path, m)) (same : p.lastCaps = some m.caps)
      (next : p.next opener = (.ok (some (locationItem path)), { q with current := m.buffers }))
  | opens (path : Path) (m : Media) (q : Playlist) (waiting : p.pending = none) (running : p.finished = false)
      (idle : p.current = []) (place : p.nextPath? = some (path, q)) (found : opener path = .ok m)
      (opened : p.opening? opener = some (path, m))
      (next : p.next opener = (.ok (some (.event (.caps m.caps))),
        { q with current := m.buffers, lastCaps := some m.caps, pending := some (locationItem path) }))
      (different : p.lastCaps ≠ some m.caps)

private theorem answer_openNext (opener : Opener) (waiting : p.pending = none) (running : p.finished = false)
    (idle : p.current = []) : p.Answer opener := by
  have next : p.next opener = p.openNext opener := by
    rw [Playlist.next, waiting, idle]
    simp [running]
  unfold openNext at next
  cases place : p.nextPath? with
  | none =>
    have unopened : p.opening? opener = none := by rw [opening?, waiting, running, idle, place]
    rw [place] at next
    exact .ends waiting running idle unopened next place
  | some head =>
    obtain ⟨path, q⟩ := head
    have known : q.lastCaps = p.lastCaps := by rw [moved_of_nextPath? place]
    have opening : p.opening? opener = (opener path).toOption.map (path, ·) := by
      rw [opening?, waiting, running, idle, place]
    rw [place] at next
    dsimp only at next
    cases found : opener path with
    | error e =>
      rw [found] at next opening
      exact .missing path _ q waiting running idle place opening next ⟨e, found, rfl⟩
    | ok m =>
      rw [found] at next opening
      dsimp only at next
      by_cases same : q.lastCaps = some m.caps
      · rw [if_pos same] at next
        exact .reopens path m q waiting running idle place found opening (known ▸ same) next
      · rw [if_neg same] at next
        exact .opens path m q waiting running idle place found opening next (known ▸ same)

theorem answer_cases (opener : Opener) (p : Playlist) : p.Answer opener := by
  cases pending : p.pending with
  | some item =>
    refine .tells item pending ?_ ?_
    · rw [opening?, pending]
    · rw [Playlist.next, pending]
  | none =>
    cases finished : p.finished with
    | true =>
      refine .stays pending finished ?_ ?_
      · rw [opening?, pending, finished]
      · rw [Playlist.next, pending]
        simp [finished]
    | false =>
      cases current : p.current with
      | nil => exact answer_openNext opener pending finished current
      | cons read rest =>
        have unopened : p.opening? opener = none := by rw [opening?, pending, finished, current]
        cases read with
        | ok b =>
          refine .plays b rest pending finished current unopened ?_
          rw [Playlist.next, pending, current]
          simp [finished]
        | error e =>
          refine .fails (.plain (.media e)) e rest pending current unopened ?_ rfl finished
          rw [Playlist.next, pending, current]
          simp [finished]

end FrameStream.Playlist
