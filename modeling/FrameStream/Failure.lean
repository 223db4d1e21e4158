import FrameStream.Location.Files
import FrameStream.Message.Wire
import FrameStream.Source.Pattern
import FrameStream.Stream.Caps

/-!
# Refusals and failures

A *refusal* is why the relay does not do what it was asked to; refusals of the configuration keep it from
starting.  A *failure* is what ends work around the relay, with what was being done at the time, outermost first.
-/

namespace FrameStream

/-! ### Refusals -/

/-- Why the metadata beside a media file cannot be used. -/
inductive SidecarFault where
  | unopened (path : Path) (f : FileFault)
  /-- Counted over all records in the file, the one at `index` is the first that is wrong. -/
  | record (path : Path) (index : Nat) (f : Fault)
  deriving DecidableEq

def SidecarFault.message : SidecarFault → String
  | unopened path _ => "failed to read sidecar file " ++ path.display
  | record path index _ => s!"malformed record #{index} in sidecar file " ++ path.display

/-- A relay serves at most this many streams. -/
def maxStreams : Nat := 1024

inductive Refusal where
  | caps (c : Caps) (reason : CapsFault)
  | pattern (text : String) (reason : PatternFault)
  | duplicateId (text duplicate : String)
  | missingSourceId
  | framerate (text : String)
  | streamCount (n : Nat)
  | frameType (name : String)
  | notNegotiated
  | notStarted
  | sidecar (f : SidecarFault)
  | sinkClosed
  /-- An id was to have more padding than can be made.  Nobody gets this for an answer, since all work breaks off
  with it. -/
  | overflow
  deriving DecidableEq

namespace Refusal

def message : Refusal → String
  | caps c reason => s!"not supported caps {c.display}: {reason.message}"
  | pattern text reason => s!"invalid source ID pattern {quoted text}: {reason.message}"
  | duplicateId text duplicate =>
    s!"duplicate source IDs generated by pattern {quoted text}: {duplicate}"
  | missingSourceId => "source ID is required when enable-multistream=false"
  | framerate text => s!"invalid framerate {quoted text}"
  | streamCount n => s!"number-of-streams must be within 1..={maxStreams}, got {n}"
  | frameType name => s!"unsupported frame type {quoted name}"
  | notNegotiated => "buffer received before caps were negotiated"
  | notStarted => "element is not started"
  | sidecar f => f.message
  | sinkClosed => "output sink is closed"
  | overflow => "capacity overflow"

/-- The configuration is at fault. -/
def isConfiguration : Refusal → Bool
  | pattern _ _ | duplicateId _ _ | missingSourceId | framerate _ | streamCount _ => true
  | _ => false

end Refusal

/-! ### Failures -/

/-- What was being done. -/
inductive Context where
  | readConfig (path : Path)
  | parseConfig (path : Path)
  | validateConfig (path : Path)
  | openMedia (path : Path)
  | createDump (path : Path)
  | createRelay
  | startRelay
  | negotiation
  deriving DecidableEq

def Context.message : Context → String
  | readConfig path => "read config file " ++ path.display
  | parseConfig path => "parse config file " ++ path.display
  | validateConfig path => "validate config file " ++ path.display
  | openMedia path => "open " ++ path.display
  | createDump path => "create dump file " ++ path.display
  | createRelay => "create serializer"
  | startRelay => "start serializer"
  | negotiation => "caps negotiation failed"

/-- A channel has room for at most this many envelopes. -/
def maxCapacity : Nat := 0x1FFFFFFFFFFFFFFF

inductive Cause where
  | refusal (r : Refusal)
  | json (f : Fault)
  | file (f : FileFault)
  | payload (f : Message.DecodeFailure)
  /-- A dump ends inside the envelope at `index`. -/
  | dumpTruncated (index : Nat)
  /-- A number that a dump has no room for. -/
  | dumpLength (what : String) (n : Nat)
  | configMissing
  | zeroCapacity
  /-- A channel was to have room for no envelope, or for more than it can have.  Nobody gets this for an answer, since
  all work breaks off with it. -/
  | channelRoom (capacity : Nat)
  | alreadyStarted
  | outputClosed
  /-- A source of media failed, in its own words. -/
  | media (text : String)
  deriving DecidableEq

/-- The text of a cause that is told in words alone. -/
def Cause.message : Cause → String
  | refusal r => r.message
  | json _ => "malformed JSON text"
  | file _ => "file not accessible"
  | payload f => f.message
  | dumpTruncated index => s!"dump truncated in envelope #{index}"
  | dumpLength what n => s!"{what} {n} does not fit a dump length"
  | configMissing => "serializer config is required"
  | zeroCapacity => "channel capacity must be positive"
  | channelRoom 0 => "mpsc bounded channel requires buffer > 0"
  | channelRoom _ => s!"a semaphore may not have more than MAX_PERMITS permits ({maxCapacity})"
  | alreadyStarted => "Pipe already started"
  | outputClosed => "output channel closed"
  | media text => text

structure Failure where
  contexts : List Context
  cause : Cause
  deriving DecidableEq

/-- A failure with nothing to say about when it happened. -/
def Failure.plain (c : Cause) : Failure := ⟨[], c⟩

end FrameStream
