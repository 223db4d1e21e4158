import FrameStream.Failure
import FrameStream.Stream.Buffer

/-!
# Playlists

Media files are played one after the other, the whole list over again for each loop.  Every file is announced by
its caps, if they differ from those of the file before it, and by its location; behind the last file comes the end
of the stream.
-/

namespace FrameStream

/-- An opened media file: its caps, and what becomes of reading its buffers, in order.  A fault is in the words of
the reader. -/
structure Media where
  caps : Caps
  buffers : List (Except String Buffer)

/-- Opens media files. -/
abbrev Opener := Path → Except String Media

structure Playlist where
  paths : List Path
  /-- How many times the whole list is still to be played after this pass. -/
  loops : Nat
  /-- The rest of this pass. -/
  upcoming : List Path
  /-- What is left of the open file. -/
  current : List (Except String Buffer) := []
  lastCaps : Option Caps := none
  /-- What is to be told before anything else. -/
  pending : Option StreamItem := none
  finished : Bool := false

namespace Playlist

def ofPaths (paths : List Path) (loops : Nat) : Playlist := { paths, loops, upcoming := paths }

/-- The next file to open, which may start another pass. -/
def nextPath? (p : Playlist) : Option (Path × Playlist) :=
  match p.upcoming, p.loops, p.paths with
  | path :: rest, _, _ => some (path, { p with upcoming := rest })
  | [], loops + 1, path :: rest => some (path, { p with loops, upcoming := rest })
  | [], _, _ => none

def locationItem (path : Path) : StreamItem := .event (.tag (some path.display))

/-- Opens the next file, or ends the stream. -/
def openNext (opener : Opener) (p : Playlist) : Except Failure (Option StreamItem) × Playlist :=
  match p.nextPath? with
  | none => (.ok (some (.event .endOfStream)), { p with finished := true })
  | some (path, p) =>
    match opener path with
    | .error e => (.error ⟨[.openMedia path], .media e⟩, p)
    | .ok m =>
      if p.lastCaps = some m.caps then
        (.ok (some (locationItem path)), { p with current := m.buffers })
      else
        (.ok (some (.event (.caps m.caps))),
          { p with current := m.buffers, lastCaps := some m.caps, pending := some (locationItem path) })

/-- The next item of the stream, or nothing once it has ended.  After a failure the playlist goes on behind it. -/
def next (opener : Opener) (p : Playlist) : Except Failure (Option StreamItem) × Playlist :=
  match p.pending with
  | some item => (.ok (some item), { p with pending := none })
  | none =>
    if p.finished then (.ok none, p)
    else match p.current with
      | .ok b :: rest => (.ok (some (.buffer b)), { p with current := rest })
      | .error e :: rest => (.error (.plain (.media e)), { p with current := rest })
      | [] => p.openNext opener

/-! ### Whole playlists -/

/-- How many items a file can give. -/
def itemsOf (opener : Opener) (path : Path) : Nat :=
  match opener path with
  | .ok m => m.buffers.length + 2
  | .error _ => 1

/-- How many items several files can give. -/
def itemsIn (opener : Opener) (paths : List Path) : Nat :=
  paths.foldr (fun path n => itemsOf opener path + n) 0

/-- More items than the playlist has left. -/
def itemBound (opener : Opener) (p : Playlist) : Nat :=
  p.pending.toList.length + p.current.length + itemsIn opener p.upcoming +
    p.loops * itemsIn opener p.paths + 2

/-- The items up to the end or the first failure, and that failure. -/
def playFor (opener : Opener) : (fuel : Nat) → Playlist → List StreamItem × Option Failure
  | 0, _ => ([], none)
  | fuel + 1, p =>
    match p.next opener with
    | (.ok none, _) => ([], none)
    | (.error f, _) => ([], some f)
    | (.ok (some item), p) =>
      let (items, failure) := playFor opener fuel p
      (item :: items, failure)

def play (opener : Opener) (p : Playlist) : List StreamItem × Option Failure :=
  p.playFor opener (p.itemBound opener)

end Playlist

end FrameStream
