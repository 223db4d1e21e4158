import FrameStream.Json.Records
import FrameStream.Failure

/-!
# Metadata beside media files

A sidecar is a stream of JSON records, one for each frame of a media file in order; records of another schema are
passed over.  A record says which objects are in its frame.  If one record is wrong the whole sidecar is refused,
so that records and frames never get out of step.
-/

namespace FrameStream

open Json (Value required defaulted)

structure FrameMetadata where
  objects : List FrameObject

namespace FrameMetadata

/-! ### Records -/

/-- A field that may be missing or `null`. -/
def optionalValue (name : String) (read : Value → Except Fault α) :
    List (String × Value) → Except Fault (Option α) :=
  defaulted name none (Value.asOption read)

def readBox (v : Value) : Except Fault RotatedBox := do
  let fields ← v.asRecord ["xc", "yc", "width", "height", "angle"]
  let centreX ← required "xc" Value.asSingle fields
  let centreY ← required "yc" Value.asSingle fields
  let width ← required "width" Value.asSingle fields
  let height ← required "height" Value.asSingle fields
  let angle ← optionalValue "angle" Value.asSingle fields
  .ok { centreX, centreY, width, height, angle }

/-- An attribute has the one value of its record. -/
def readAttribute (v : Value) : Except Fault Attribute := do
  let fields ← v.asRecord ["element_name", "name", "value", "confidence"]
  let scope ← required "element_name" Value.asText fields
  let name ← required "name" Value.asText fields
  let value ← required "value" Except.ok fields
  let confidence ← optionalValue "confidence" Value.asSingle fields
  .ok { scope, name, values := [.ofJson value confidence] }

def readObject (v : Value) : Except Fault FrameObject := do
  let fields ←
    v.asRecord ["model_name", "label", "object_id", "bbox", "confidence", "attributes", "parent_object_id"]
  let model ← required "model_name" Value.asText fields
  let label ← required "label" Value.asText fields
  let id ← required "object_id" Value.asInt64 fields
  let box ← required "bbox" readBox fields
  let confidence ← optionalValue "confidence" Value.asSingle fields
  let attributes ← defaulted "attributes" [] (Value.asList readAttribute) fields
  let parent ← optionalValue "parent_object_id" Value.asInt64 fields
  .ok { id, model, label, box, confidence, attributes, parent }

def ofValue (v : Value) : Except Fault FrameMetadata := do
  let fields ← v.asRecord ["objects"]
  let objects ← defaulted "objects" [] (Value.asList readObject) fields
  .ok { objects }

/-- The record is about a frame: it has no schema, or that of frames. -/
def isFrameRecord (record : Value) : Bool :=
  match record.member? "schema" with
  | none => true
  | some (.string schema) => schema == "VideoFrame"
  | some _ => false

/-- What a record says about its frame; a record with a schema may wrap it as `metadata`. -/
def ofRecord (record : Value) : Except Fault FrameMetadata :=
  match record.member? "metadata" with
  | some (.object members) => ofValue (.object members)
  | _ => ofValue record

end FrameMetadata

/-! ### Files -/

namespace Sidecar

/-- The metadata in the records from number `index` on, of which `fault` is behind the last. -/
def readFrom (path : Path) : (index : Nat) → List Value → (fault : Option Fault) →
    Except SidecarFault (List FrameMetadata)
  | _, [], none => .ok []
  | index, [], some f => .error (.record path index f)
  | index, record :: rest, fault =>
    if FrameMetadata.isFrameRecord record then
      match FrameMetadata.ofRecord record with
      | .error f => .error (.record path index f)
      | .ok m => (m :: ·) <$> readFrom path (index + 1) rest fault
    else readFrom path (index + 1) rest fault

/-- The metadata in a sidecar; the path is for messages. -/
def read (path : Path) (text : Bytes) : Except SidecarFault (List FrameMetadata) :=
  let (records, fault) := Json.readRecords text
  readFrom path 0 records fault

/-- The metadata in the sidecar at a path, or nothing if there is no file. -/
def load (files : Files) (path : Path) : Except SidecarFault (Option (List FrameMetadata)) :=
  match files.lookup path with
  | .error .notFound => .ok none
  | .error f => .error (.unopened path f)
  | .ok .directory => .error (.record path 0 .unreadable)
  | .ok (.file text) => some <$> read path text

end Sidecar

end FrameStream
