import FrameStream.Stream.Caps

/-!
# Buffers and events

What a host feeds into the relay, in order: encoded pictures with their timing, and events that tell of new caps,
of a file that was opened, or of the end of the stream.
-/

namespace FrameStream

/-- Timestamps in nanoseconds; `none` stands for "not a time". -/
structure Timing where
  pts : Option UInt64 := none
  dts : Option UInt64 := none
  duration : Option UInt64 := none
  deriving DecidableEq

/-- An encoded picture; one that needs earlier pictures to be decoded is a delta. -/
structure Buffer where
  data : Bytes := []
  timing : Timing := {}
  delta : Bool := false
  deriving DecidableEq

namespace Buffer

def isKeyframe (b : Buffer) : Bool := !b.delta

def size (b : Buffer) : Nat := b.data.length

def display (b : Buffer) : String :=
  s!"InputBuffer size: {b.size}, pts: {shownTime b.timing.pts}, dts: {shownTime b.timing.dts}, " ++
    s!"duration: {shownTime b.timing.duration}, keyframe: {b.isKeyframe}"

end Buffer

inductive StreamEvent where
  | caps (c : Caps)
  /-- Tags of the stream; a location is told when a file is opened or opened again. -/
  | tag (location : Option String)
  | endOfStream
  deriving DecidableEq

/-- One step of the stream. -/
inductive StreamItem where
  | event (e : StreamEvent)
  | buffer (b : Buffer)
  deriving DecidableEq

def StreamItem.display : StreamItem → String
  | event (.caps c) => "Caps " ++ c.display
  | event (.tag location) => "Tag " ++ shownOption quoted location
  | event .endOfStream => "Eos"
  | buffer b => b.display

end FrameStream
