import FrameStream.Envelope.Dump
import FrameStream.Pipeline.Line
import FrameStream.Pipeline.Settings

/-!
# Pipelines

A pipeline feeds a relay and carries the envelopes to an output, through a channel of bounded capacity.  The channel
keeps order and loses nothing, so that the output gets what the relay pushes, buffer by buffer, up to the end of the
feed, a failure of it, or caps that are refused.
-/

namespace FrameStream

structure Pipeline where
  config : PipelineConfig
  cancelled : Bool := false

/-- What came of a run. -/
structure Run where
  result : Except Failure Stats
  pipeline : Pipeline
  files : Files
  /-- What the output got. -/
  delivered : List Envelope := []
  notices : List Notice := []
  restarts : List Failure := []

namespace Pipeline

def cancel (p : Pipeline) : Pipeline := { p with cancelled := true }

/-- The output at the start of a run: the files with a dump created, if the output is one. -/
def openOutput (p : Pipeline) (files : Files) : Except Failure (Option (List Bytes) × Files) :=
  match p.config.output with
  | .dump path =>
    match files.create path with
    | .error f => .error ⟨[.createDump path], .file f⟩
    | .ok (names, files) => .ok (some names, files)
  | _ => .ok (none, files)

/-- The files with the envelopes written to the dump. -/
def writeDump (dump : Option (List Bytes)) (es : List Envelope) (files : Files) : Except Failure Files :=
  match dump with
  | none => .ok files
  | some names =>
    match Dump.encodeAll es with
    | .error c => .error (.plain c)
    | .ok data => .ok (files.write names data)

/-- A started relay at one end of a new channel and the output at the other. -/
def line (p : Pipeline) (outputOpen : Bool) (feed : Feed) (relay : Relay) : Except Failure Line :=
  match Channel.withCapacity p.config.capacity with
  | .error c => .error (.plain c)
  | .ok channel =>
    .ok (Line.ofFeed channel outputOpen feed { relay, cancelled := p.cancelled, finished := p.cancelled })

/-- What comes of a line at its end: a dump is written whether the work failed or not. -/
def conclude (p : Pipeline) (files : Files) (dump : Option (List Bytes)) (line : Line) : Run :=
  let w := line.work
  let p := { p with cancelled := w.cancelled }
  let delivered := line.delivered.toList
  let (written, files) := match writeDump dump delivered files with
    | .ok files => (Except.ok (), files)
    | .error f => (.error f, files)
  let result :=
    if line.outputFailed then .error (.plain .outputClosed)
    else match written, w.failure with
      | .error f, _ => .error f
      | _, some f => .error f
      | _, none => .ok { w.stats with envelopes := delivered.length }
  { result, pipeline := p, files, delivered, notices := w.notices
    restarts := List.replicate w.restarts (.plain .alreadyStarted) }

/-- Works through the moments of a feed with a started relay. -/
def work (p : Pipeline) (files : Files) (outputOpen : Bool) (feed : Feed) (relay : Relay) : Run :=
  match p.line outputOpen feed relay with
  | .error f => { result := .error f, pipeline := p, files }
  | .ok line =>
    match p.openOutput files with
    | .error f => { result := .error f, pipeline := p, files }
    | .ok (dump, files) => p.conclude files dump (line.finish files)

/-- Runs the pipeline over a feed.  An output that is closed fails at the first envelope. -/
def run (p : Pipeline) (files : Files) (outputOpen : Bool) (feed : Feed) : Run :=
  match Relay.ofConfig p.config.relay with
  | .error r => { result := .error ⟨[.createRelay], .refusal r⟩, pipeline := p, files }
  | .ok relay =>
    let o := relay.start.runOpen
    match o.result with
    | .error r => { result := .error ⟨[.startRelay], .refusal r⟩, pipeline := p, files, notices := o.notices }
    | .ok () =>
      let r := p.work files outputOpen feed o.state
      { r with notices := o.notices ++ r.notices }

end Pipeline

/-- The line of a log about an envelope. -/
def Envelope.logLine (e : Envelope) : String :=
  match e.decode with
  | .ok m => s!"INFO: Output: {m.kind} {e.display}"
  | .error f => s!"WARN: Output: undecodable {e.display}: {f.message}"

end FrameStream
