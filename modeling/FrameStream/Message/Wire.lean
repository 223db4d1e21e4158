import FrameStream.Message.Frame

/-!
# Messages on the wire

A message is a frame, the end of a stream, or a request to shut down.  On the wire it is a JSON object with the
version of the protocol; a payload of another version is refused once it has been read.
-/

namespace FrameStream

open Json (Doc required)

inductive Message where
  | frame (f : Frame)
  | endOfStream (sourceId : String)
  | shutdown (token : String)

namespace Message

def kind : Message → String
  | frame _ => "VideoFrame"
  | endOfStream _ => "EndOfStream"
  | shutdown _ => "Shutdown"

/-! ### Writing -/

def protocolVersion : String := "0.1.0"

def doc : Message → Doc
  | m@(frame f) => .record [(m.kind, f.doc)]
  | m@(endOfStream sourceId) => .record [(m.kind, .record [("source_id", .text sourceId)])]
  | m@(shutdown token) => .record [(m.kind, .record [("auth_token", .text token)])]

/-- The payload that carries the message. -/
def encode (m : Message) : Bytes :=
  (Doc.record [("version", .text protocolVersion), ("message", m.doc)]).render

/-! ### Reading -/

/-- Why a payload holds no message. -/
inductive DecodeFailure where
  | malformed (f : Fault)
  | version (found : String)
  deriving DecidableEq

def DecodeFailure.message : DecodeFailure → String
  | malformed _ => "deserialize message"
  | version found => s!"protocol version mismatch: expected {protocolVersion}, found {found}"

/-- A message that may nest `room` arrays and objects, itself included. -/
def ofDoc (room : Nat) (d : Doc) : Except Fault Message := do
  let (form, content) ← d.asChoice
  match form with
  | "VideoFrame" => frame <$> Frame.ofDoc (room - 1) content
  | "EndOfStream" => do
    let fields ← content.asRecord ["source_id"]
    endOfStream <$> required "source_id" Doc.asText fields
  | "Shutdown" => do
    let fields ← content.asRecord ["auth_token"]
    shutdown <$> required "auth_token" Doc.asText fields
  | _ => .error .unexpected

/-- The version and the message of a payload. -/
def ofPayload (d : Doc) : Except Fault (String × Message) := do
  let fields ← d.asRecord ["version", "message"]
  let version ← required "version" Doc.asText fields
  let message ← required "message" (ofDoc (Json.depthLimit - 1)) fields
  .ok (version, message)

/-- The message in a payload. -/
def decode (payload : Bytes) : Except DecodeFailure Message :=
  match Json.readText ofPayload payload with
  | .error f => .error (.malformed f)
  | .ok (version, message) =>
    if version = protocolVersion then .ok message else .error (.version version)

end Message

end FrameStream
