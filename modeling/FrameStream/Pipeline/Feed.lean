import FrameStream.Pipeline.Playlist
import FrameStream.Pipeline.Work

/-!
# Feeds

A feed gives a pipeline its moments, one when it is asked for one.  It is a list of moments, or a playlist, which may
have far more of them than could ever be listed; `Feed.bound` is a number that they do not exceed.
-/

namespace FrameStream

inductive Feed where
  | listed (moments : List Moment)
  | playlist (opener : Opener) (p : Playlist)

namespace Feed

/-- The next moment and the rest of the feed. -/
def next? : Feed → Option (Moment × Feed)
  | listed [] => none
  | listed (m :: ms) => some (m, listed ms)
  | playlist opener p =>
    match p.next opener with
    | (.ok none, _) => none
    | (.ok (some i), p) => some (.item i, playlist opener p)
    | (.error f, p) => some (.failure f, playlist opener p)

/-- At least as many as there are moments. -/
def bound : Feed → Nat
  | listed ms => ms.length
  | playlist opener p => p.itemBound opener

end Feed

end FrameStream
