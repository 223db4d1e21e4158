import FrameStream.Envelope.Basic
import FrameStream.Failure

/-!
# Channels

A channel carries envelopes in order from any number of sinks to one reader.  Its capacity, the number of envelopes
that it holds at most, is between one and `maxCapacity`; no other channel can be made.  The reader is at the end once
the channel is empty and nobody can write any more: every sink has been dropped, and the writer that makes sinks has
been closed.
-/

namespace FrameStream

structure Channel where
  capacity : Nat
  room : 0 < capacity ∧ capacity ≤ maxCapacity
  queue : List Envelope := []
  writerOpen : Bool := true
  /-- For each sink ever opened, whether it still is. -/
  sinks : List Bool := []

/-- What came of a push. -/
inductive Push where
  | taken
  | full
  | noSink
  deriving DecidableEq

/-- What the reader finds. -/
inductive Polled where
  | pending
  | ended
  | envelope (e : Envelope)
  deriving DecidableEq

namespace Channel

/-- A new channel; all work breaks off where there cannot be one. -/
def withCapacity (capacity : Nat) : Except Cause Channel :=
  if room : 0 < capacity ∧ capacity ≤ maxCapacity then .ok { capacity, room } else .error (.channelRoom capacity)

/-- Opens a sink, unless the writer is closed; sinks are numbered as they are opened. -/
def openSink (c : Channel) : Option Nat × Channel :=
  if c.writerOpen then (some c.sinks.length, { c with sinks := c.sinks ++ [true] }) else (none, c)

def closeWriter (c : Channel) : Channel := { c with writerOpen := false }

def dropSink (c : Channel) (sink : Nat) : Channel := { c with sinks := c.sinks.set sink false }

/-- Pushes an envelope through a sink, if there is room for it. -/
def push (c : Channel) (sink : Nat) (e : Envelope) : Push × Channel :=
  if c.sinks.getD sink false then
    if c.queue.length < c.capacity then (.taken, { c with queue := c.queue ++ [e] }) else (.full, c)
  else (.noSink, c)

def poll (c : Channel) : Polled × Channel :=
  match c.queue with
  | e :: rest => (.envelope e, { c with queue := rest })
  | [] => (if c.writerOpen || c.sinks.contains true then .pending else .ended, c)

end Channel

end FrameStream
