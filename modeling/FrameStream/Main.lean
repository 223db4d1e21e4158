import FrameStream.CommandLine

/-!
# The program

Reads the command line, plays the inputs through a relay, and writes the envelopes to a dump or a log.  No container
format is built in, so that every media file is refused when it is opened.
-/

namespace FrameStream

namespace CommandLine

def usage : String := "usage: framestream [options] <input>...

  -c, --config <file>            options of the relay, as JSON
      --loops <n>                extra passes over the inputs
  -o, --output <file>            dump the envelopes into a file; they are logged otherwise
      --source-id <id>
      --frame-type <type>
      --framerate <rate>
      --read-metadata
      --eos-on-loop-end
      --number-of-streams <n>    fan out to this many sources
      --source-id-pattern <pattern>
      --shutdown-auth <token>
      --channel-capacity <n>     envelopes between relay and output
  -h, --help
  -V, --version"

def NoRequest.message : NoRequest → String
  | unknownOption => "unknown option"
  | valueNotTaken => "a value for an option that takes none"
  | valueMissing => "an option lacks its value"
  | notANumber => "a value is not a number"
  | pathEmpty => "a path is empty"
  | givenTwice => "an option is given twice"
  | inputsMissing => "no inputs"
  | helpAsked | versionAsked => ""

end CommandLine

def Failure.message (f : Failure) : String :=
  String.intercalate ": " (f.contexts.map Context.message ++ [f.cause.message])

def openMedia : Opener := fun _ => .error "no reader for this kind of file"

def readFile (p : Path) : IO (Except FileFault Bytes) :=
  try
    let data ← IO.FS.readBinFile p.display
    return .ok data.toList
  catch _ => return .error .notFound

def report (f : Failure) : IO UInt32 := do
  IO.eprintln f.message
  return 1

/-- Plays the inputs and writes what comes out. -/
def runPipeline (c : PipelineConfig) : IO UInt32 := do
  let p : Pipeline := { config := { c with output := .channel } }
  let r := p.run {} true (.playlist openMedia (.ofPaths c.inputs c.loops))
  for n in r.notices do
    IO.eprintln n.line
  match c.output with
  | .dump path =>
    match Dump.encodeAll r.delivered with
    | .ok data => IO.FS.writeBinFile path.display (ByteArray.mk data.toArray)
    | .error cause => IO.eprintln cause.message
  | .log | .channel =>
    for e in r.delivered do
      IO.println e.logLine
  match r.result with
  | .error f => report f
  | .ok stats =>
    IO.println s!"Done: {stats.buffers} buffers ({stats.rejected} rejected), {stats.envelopes} envelopes"
    return 0

end FrameStream

open FrameStream CommandLine in
def main (args : List String) : IO UInt32 := do
  match CommandLine.read args with
  | .error .helpAsked =>
    IO.println usage
    return 0
  | .error .versionAsked =>
    IO.println "framestream 0.1.0"
    return 0
  | .error refused =>
    IO.eprintln refused.message
    return 2
  | .ok request =>
    let content ← match request.config with
      | some path => readFile path
      | none => pure (.error .notFound)
    match request.pipeline fun _ => content with
    | .error f => report f
    | .ok c => runPipeline c
