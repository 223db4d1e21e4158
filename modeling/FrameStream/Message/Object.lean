import FrameStream.Message.Attribute

/-!
# Objects in a frame

An object was found in a frame by a model: it has a label, a box around its centre, and may belong to another
object.
-/

namespace FrameStream

open Json (Doc required optional)

/-- A box given by its centre, size and rotation. -/
structure RotatedBox where
  centreX : Binary single
  centreY : Binary single
  width : Binary single
  height : Binary single
  angle : Option (Binary single)
  deriving DecidableEq

structure FrameObject where
  id : Int64
  model : String
  label : String
  box : RotatedBox
  confidence : Option (Binary single)
  attributes : List Attribute
  parent : Option Int64

/-! ### Wire form -/

def singleDoc : Binary single → Doc := Doc.ofBinary singlePositional

def RotatedBox.doc (b : RotatedBox) : Doc :=
  .record [
    ("xc", singleDoc b.centreX),
    ("yc", singleDoc b.centreY),
    ("width", singleDoc b.width),
    ("height", singleDoc b.height),
    ("angle", .ofOption singleDoc b.angle)]

def RotatedBox.ofDoc (d : Doc) : Except Fault RotatedBox := do
  let fields ← d.asRecord ["xc", "yc", "width", "height", "angle"]
  let centreX ← required "xc" Doc.asSingle fields
  let centreY ← required "yc" Doc.asSingle fields
  let width ← required "width" Doc.asSingle fields
  let height ← required "height" Doc.asSingle fields
  let angle ← optional "angle" Doc.asSingle fields
  .ok { centreX, centreY, width, height, angle }

def FrameObject.doc (o : FrameObject) : Doc :=
  .record [
    ("id", .ofInt o.id.toInt),
    ("namespace", .text o.model),
    ("label", .text o.label),
    ("detection_box", o.box.doc),
    ("confidence", .ofOption singleDoc o.confidence),
    ("attributes", .ofList Attribute.doc o.attributes),
    ("parent_id", .ofOption (fun i => .ofInt i.toInt) o.parent)]

/-- A free value inside may nest `room` arrays and objects. -/
def FrameObject.ofDoc (room : Nat) (d : Doc) : Except Fault FrameObject := do
  let fields ←
    d.asRecord ["id", "namespace", "label", "detection_box", "confidence", "attributes", "parent_id"]
  let id ← required "id" (Doc.asScalar Json.Value.asInt64) fields
  let model ← required "namespace" Doc.asText fields
  let label ← required "label" Doc.asText fields
  let box ← required "detection_box" RotatedBox.ofDoc fields
  let confidence ← optional "confidence" Doc.asSingle fields
  let attributes ← required "attributes" (Doc.asList (Attribute.ofDoc room)) fields
  let parent ← optional "parent_id" (Doc.asScalar Json.Value.asInt64) fields
  .ok { id, model, label, box, confidence, attributes, parent }

end FrameStream
