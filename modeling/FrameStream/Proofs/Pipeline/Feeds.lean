import FrameStream.Pipeline.Feed
import FrameStream.Proofs.Playlist.Answers

/-!
# Feeds come to an end

Whatever a playlist is asked for, less of it is left: an item of the open file is gone, or a file is opened and
counts for more items than it can give, or the end of the stream is told of.  So a feed is a list of moments
(`Feed.moments`), although a playlist is never written out as one, and there are no more of them than `Feed.bound`.
-/

namespace FrameStream

namespace Playlist

variable {opener : Opener} {p : Playlist}

/-- The items that files still to be opened can give. -/
def unopened (opener : Opener) (p : Playlist) : Nat :=
  itemsIn opener p.upcoming + p.loops * itemsIn opener p.paths

/-- At least as many as there are items left. -/
def left (opener : Opener) (p : Playlist) : Nat :=
  p.pending.toList.length + p.current.length + p.unopened opener + (if p.finished then 0 else 1)

theorem itemsIn_cons (opener : Opener) (path : Path) (rest : List Path) :
    itemsIn opener (path :: rest) = itemsOf opener path + itemsIn opener rest := rfl

/-- A file that is taken from the list is one of those to be opened. -/
private theorem unopened_of_nextPath? (opener : Opener) {path : Path} {q : Playlist}
    (h : p.nextPath? = some (path, q)) : p.unopened opener = itemsOf opener path + q.unopened opener := by
  unfold nextPath? at h
  split at h
  · rename_i rest upcoming
    cases h
    simp only [unopened, upcoming, itemsIn_cons]
    omega
  · rename_i loops first rest upcoming again paths
    cases h
    have none : itemsIn opener [] = 0 := rfl
    simp only [unopened, upcoming, again, paths, itemsIn_cons, Nat.succ_eq_add_one, Nat.succ_mul]
    omega
  · cases h

/-- What the open file and the announcement of it can give, and the end of the stream. -/
private theorem left_of_running (running : p.finished = false) :
    p.left opener = p.pending.toList.length + p.current.length + p.unopened opener + 1 := by
  simp [left, running]

theorem left_next (h : (p.next opener).1 ≠ .ok none) : (p.next opener).2.left opener < p.left opener := by
  cases answer_cases opener p with
  | tells item pending unopened next =>
    rw [next]
    simp only [left, Playlist.unopened, pending, Option.toList_some, Option.toList_none, List.length_singleton,
      List.length_nil]
    omega
  | stays waiting finished unopened next =>
    rw [next] at h
    exact absurd rfl h
  | plays b rest waiting running current unopened next =>
    rw [next]
    simp only [left, Playlist.unopened, current, List.length_cons]
    omega
  | fails f e rest waiting current unopened next =>
    rw [next]
    simp only [left, Playlist.unopened, current, List.length_cons]
    omega
  | ends waiting running idle unopened next =>
    rw [next, left_of_running running]
    simp [left, Playlist.unopened]
  | missing path f q waiting running idle place unopened next =>
    have rest := unopened_of_nextPath? opener place
    have moved := moved_of_nextPath? place
    have runs : q.finished = false := by rw [moved, running]
    have idles : q.current = [] := by rw [moved, idle]
    have waits : q.pending = none := by rw [moved, waiting]
    have some_item : 0 < itemsOf opener path := by
      unfold itemsOf
      split <;> omega
    rw [next, left_of_running running, left_of_running runs, idle, idles, waiting, waits]
    omega
  | reopens path m q waiting running idle place found opened same next =>
    have rest := unopened_of_nextPath? opener place
    have runs : q.finished = false := by rw [moved_of_nextPath? place, running]
    have waits : q.pending = none := by rw [moved_of_nextPath? place, waiting]
    have after : { q with current := m.buffers }.left opener = m.buffers.length + q.unopened opener + 1 := by
      simp [left, Playlist.unopened, runs, waits]
    have items : itemsOf opener path = m.buffers.length + 2 := by rw [itemsOf, found]
    rw [next, left_of_running running, after]
    omega
  | opens path m q waiting running idle place found opened next =>
    have rest := unopened_of_nextPath? opener place
    have runs : q.finished = false := by rw [moved_of_nextPath? place, running]
    have after : { q with
        current := m.buffers, lastCaps := some m.caps, pending := some (locationItem path) }.left opener =
          1 + m.buffers.length + q.unopened opener + 1 := by simp [left, Playlist.unopened, runs]
    -- the caps and the location are the two items besides the buffers
    have items : itemsOf opener path = m.buffers.length + 2 := by rw [itemsOf, found]
    rw [next, left_of_running running, after]
    omega

end Playlist

namespace Feed

variable {feed rest : Feed} {m : Moment}

def left : Feed → Nat
  | listed ms => ms.length
  | playlist opener p => p.left opener

theorem left_of_next? (h : feed.next? = some (m, rest)) : rest.left < feed.left := by
  cases feed with
  | listed ms =>
    cases ms with
    | nil => cases h
    | cons first others =>
      cases h
      exact Nat.lt_succ_self _
  | playlist opener p =>
    have less : (p.next opener).1 ≠ .ok none → (p.next opener).2.left opener < p.left opener := Playlist.left_next
    rw [next?] at h
    split at h
    · cases h
    · rename_i i q told
      cases h
      rw [told] at less
      exact less (by simp)
    · rename_i f q told
      cases h
      rw [told] at less
      exact less (by simp)

theorem left_le_bound (feed : Feed) : feed.left ≤ feed.bound := by
  cases feed with
  | listed ms => exact Nat.le_refl _
  | playlist opener p =>
    simp only [left, bound, Playlist.left, Playlist.itemBound, Playlist.unopened]
    split <;> omega

/-- All that the feed gives. -/
def moments (feed : Feed) : List Moment :=
  match _given : feed.next? with
  | none => []
  | some (m, rest) => m :: rest.moments
termination_by feed.left
decreasing_by exact left_of_next? _given

theorem moments_of_next? (h : feed.next? = some (m, rest)) : feed.moments = m :: rest.moments := by
  rw [moments]
  split
  · rename_i none
    rw [none] at h
    cases h
  · rename_i some
    rw [some] at h
    cases h
    rfl

theorem moments_of_end (h : feed.next? = none) : feed.moments = [] := by
  rw [moments]
  split
  · rfl
  · rename_i some
    rw [some] at h
    cases h

theorem moments_listed (ms : List Moment) : (listed ms).moments = ms := by
  induction ms with
  | nil => exact moments_of_end rfl
  | cons m ms ih =>
    have given : (listed (m :: ms)).next? = some (m, listed ms) := rfl
    rw [moments_of_next? given, ih]

theorem length_moments_le (feed : Feed) : feed.moments.length ≤ feed.left := by
  induction feed using moments.induct with
  | case1 feed none =>
    rw [moments_of_end none]
    exact Nat.zero_le _
  | case2 feed m rest some ih =>
    rw [moments_of_next? some]
    exact Nat.lt_of_le_of_lt ih (left_of_next? some)

end Feed

end FrameStream
