import FrameStream.Source.Basic
import FrameStream.Stream.Buffer

/-!
# Envelopes

A message leaves in an envelope: the topic of its source, the payload, and perhaps the content of the frame as a
third segment.
-/

namespace FrameStream

structure Envelope where
  segments : List Bytes
  timing : Timing := {}
  deriving DecidableEq

namespace Envelope

def topic (e : Envelope) : Bytes := e.segments.getD 0 []

def payload (e : Envelope) : Bytes := e.segments.getD 1 []

/-- The content of a frame that travels outside its message. -/
def content? (e : Envelope) : Option Bytes := e.segments[2]?

/-- The message in the envelope. -/
def decode (e : Envelope) : Except Message.DecodeFailure Message := Message.decode e.payload

def size (e : Envelope) : Nat := e.segments.flatten.length

def display (e : Envelope) : String :=
  s!"Envelope topic: {Utf8.decodeLossy e.topic}, segments: {e.segments.length}, size: {e.size}, " ++
    s!"pts: {shownTime e.timing.pts}"

end Envelope

namespace Source

/-- The envelope of a message that belongs to no buffer. -/
def envelope (s : Source) (m : Message) : Envelope := { segments := [s.topic, m.encode] }

/-- The envelope of a message about a buffer, with the timing of the buffer. -/
def bufferEnvelope (s : Source) (m : Message) (timing : Timing) (content : Option Bytes) : Envelope :=
  { segments := [s.topic, m.encode] ++ content.toList, timing }

def endOfStream (s : Source) : Envelope := s.envelope (.endOfStream s.id)

end Source

/-- The end of the stream for each source, in order. -/
def endOfStreamRound (sources : List Source) : List Envelope := sources.map Source.endOfStream

/-- A request to shut down goes out under the topic of the first source, if there is a token for it. -/
def shutdownEnvelope? (token : Option String) (sources : List Source) : Option Envelope :=
  match token, sources with
  | some token, s :: _ => some (s.envelope (.shutdown token))
  | _, _ => none

end FrameStream
