import FrameStream.Relay.Picture
import FrameStream.Relay.Script
import FrameStream.Relay.Tracker

/-!
# The relay

The relay turns the buffers and events of a stream into envelopes: for each buffer one frame to every logical
source, and at the end of each segment one end of stream to every source.  Each operation is a script, so that it
is settled for every sink what the relay pushes, in which order, and in which state a refusal leaves it.
-/

namespace FrameStream

structure Relay where
  config : Config
  /-- Empty until the relay is started. -/
  sources : List Source := []
  tracker : Tracker
  /-- The size in the last format that was negotiated. -/
  initialSize : Option Transformation := none

namespace Relay

def ofConfig (c : Config) : Except Refusal Relay :=
  match c.validate with
  | .error r => .error r
  | .ok () => .ok { config := c, tracker := .ofConfig c }

def isStarted (r : Relay) : Bool := !r.sources.isEmpty

def format? (r : Relay) : Option StreamFormat := r.tracker.format

def location? (r : Relay) : Option Path := r.tracker.location

/-! ### Starting and stopping -/

/-- Makes the logical sources; a configuration that has none leaves the relay as it is. -/
def start (r : Relay) : Script Relay Unit :=
  match r.config.sources with
  | .error e => .note (.startRefused e) (.done (.error e) r)
  | .ok sources => .done (.ok ()) { r with sources }

/-- Drops everything but the configuration and the format. -/
def stopped (r : Relay) : Relay :=
  { r with sources := [], tracker := { Tracker.ofConfig r.config with format := r.tracker.format } }

/-! ### Format and location -/

/-- Takes the format that caps describe. -/
def negotiate (r : Relay) (caps : Caps) : Script Relay Unit :=
  match StreamFormat.ofCaps caps r.config.framerate with
  | .error reason => .note (.capsRefused (.caps caps reason)) (.done (.error (.caps caps reason)) r)
  | .ok format =>
    .done (.ok ()) { r with
      initialSize := some (.initialSize format.width.toUInt64 format.height.toUInt64)
      tracker := r.tracker.setFormat format }

/-- Sets the location without a file being opened. -/
def relocated (r : Relay) (location : Option Path) : Relay :=
  { r with config := { r.config with location }, tracker := r.tracker.setLocation location }

/-- A file was opened. -/
def openFile (files : Files) (r : Relay) (location : Path) : Script Relay Unit :=
  let t := r.tracker.onTag files location
  let r := { r with config := { r.config with location := some location }, tracker := t.tracker }
  .noteAll t.notices <| match t.failure with
    | some f => .done (.error (.sidecar f)) r
    | none => .done (.ok ()) r

/-! ### End of stream -/

/-- The stream ends for every source, and the consumers are asked to shut down if there is a token for it. -/
def endStream (r : Relay) : Script Relay Unit :=
  if r.sources.isEmpty then .done (.error .notStarted) r
  else
    let t := r.tracker.finish
    let finished := { r with tracker := t.tracker }
    .pushAll (endOfStreamRound r.sources) (.sinkClosed r) <| .noteAll t.notices <|
      .pushAll (shutdownEnvelope? r.config.shutdownAuth r.sources).toList (.sinkClosed finished) <|
        .done (.ok ()) finished

def handle (files : Files) (r : Relay) : StreamEvent → Script Relay Unit
  | .caps caps => r.negotiate caps
  | .tag (some location) => r.openFile files (.ofText location)
  | .tag none => .done (.ok ()) r
  | .endOfStream => r.endStream

/-! ### Buffers -/

/-- How the content of a buffer travels, unless the frame type cannot be produced. -/
def contentOf (r : Relay) (b : Buffer) : Except String FrameContent :=
  match r.config.frameType with
  | .embedded => .ok (.embedded b.data)
  | .zeromq => .ok (.external FrameType.zeromq.name none)
  | .other name => .error name

/-- The envelopes of a picture, one for each source. -/
def fanOut (r : Relay) (p : Picture) (b : Buffer) : List Envelope :=
  r.sources.map fun s =>
    s.bufferEnvelope (.frame (p.frame s.id)) p.timing (if p.content.isExternal then some b.data else none)

/-- Pushes the envelopes of a picture but the last, which is the result. -/
def emit (r : Relay) (p : Picture) (b : Buffer) : Script Relay Envelope :=
  let envelopes := r.fanOut p b
  match envelopes.getLast? with
  | none => .done (.error .notStarted) r
  | some last =>
    .pushAll envelopes.dropLast (.sinkClosed r) <|
      .done (.ok last) { r with tracker := r.tracker.frameEmitted }

/-- Builds the frames for a buffer within a segment. -/
def relayFrame (files : Files) (initialSize : Transformation) (b : Buffer) (r : Relay) :
    Script Relay Envelope :=
  let t := r.tracker.ensureLoaded files
  let r := { r with tracker := t.tracker }
  .noteAll t.notices <| match t.failure with
    | some f => .done (.error (.sidecar f)) r
    | none =>
      match r.contentOf b with
      | .error name => .note (.frameTypeUnsupported name) (.done (.error (.frameType name)) r)
      | .ok content =>
        let (metadata, tracker) := r.tracker.nextRecord
        let r := { r with tracker }
        match tracker.format with
        | none => .done (.error .notNegotiated) r
        | some format =>
          r.emit { format, initialSize, location := tracker.location, metadata, timing := b.timing,
                   content, keyframe := b.isKeyframe } b

/-- Turns a buffer into a frame for each source.  At a boundary the metadata is loaded anew and the segment ended
first, even if the metadata turns out to be faulty and the buffer is refused for it. -/
def transform (files : Files) (r : Relay) (b : Buffer) : Script Relay Envelope :=
  if r.sources.isEmpty then .done (.error .notStarted) r
  else match r.initialSize with
    | none => .done (.error .notNegotiated) r
    | some initialSize =>
      let (boundary, tracker) := r.tracker.checkBoundary
      if boundary then
        let t := tracker.reload files
        let ending := { r with tracker := t.tracker }
        let ended := { r with tracker := t.tracker.endSegment }
        .noteAll t.notices <| .pushAll (endOfStreamRound r.sources) (.sinkClosed ending) <| match t.failure with
          | some f => .done (.error (.sidecar f)) ended
          | none => ended.relayFrame files initialSize b
      else { r with tracker : Relay }.relayFrame files initialSize b

/-! ### Operations -/

/-- What a host does to a relay. -/
inductive Operation where
  | start
  | stop
  | negotiate (caps : Caps)
  | relocate (location : Option Path)
  | handle (e : StreamEvent)
  | transform (b : Buffer)
  deriving DecidableEq

/-- An operation; the result is the envelope that the operation leaves to the host to push. -/
def perform (files : Files) (r : Relay) : Operation → Script Relay (Option Envelope)
  | .start => r.start.map fun _ => none
  | .stop => .done (.ok none) r.stopped
  | .negotiate caps => (r.negotiate caps).map fun _ => none
  | .relocate location => .done (.ok none) (r.relocated location)
  | .handle e => (r.handle files e).map fun _ => none
  | .transform b => (r.transform files b).map some

end Relay

end FrameStream
