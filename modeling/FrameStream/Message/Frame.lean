import FrameStream.Message.Object
import FrameStream.Text.Quoted

/-!
# Frames

A frame describes one picture of a video stream: where it comes from, its format and timing, its content or how to
get at it, and the objects and attributes attached to it.  Attributes are kept in the order in which their keys
were first set.
-/

namespace FrameStream

open Json (Doc required optional)

/-- The picture itself, or the method by which it travels. -/
inductive FrameContent where
  | embedded (data : Bytes)
  | external (method : String) (location : Option String)
  deriving DecidableEq

def FrameContent.isExternal : FrameContent → Bool
  | embedded _ => false
  | external _ _ => true

inductive Transformation where
  /-- The size of the picture before anything changes it. -/
  | initialSize (width height : UInt64)
  deriving DecidableEq

structure Frame where
  sourceId : String
  framerate : String
  width : UInt64
  height : UInt64
  codec : Option String
  content : FrameContent
  keyframe : Option Bool
  pts : UInt64
  dts : Option UInt64
  duration : Option UInt64
  timeBase : Int32 × Int32
  transformations : List Transformation
  objects : List FrameObject
  attributes : List Attribute

/-- Timestamps count nanoseconds. -/
def nanoseconds : Int32 × Int32 := (1, 1000000000)

/-! ### Attributes by scope and name -/

def Attribute.hasKey (a : Attribute) (scope name : String) : Bool :=
  a.scope == scope && a.name == name

namespace Frame

def attribute? (f : Frame) (scope name : String) : Option Attribute :=
  f.attributes.find? (·.hasKey scope name)

/-- The attributes with the first one of the same key replaced, or one more at the end. -/
def putAttribute (a : Attribute) : List Attribute → List Attribute
  | [] => [a]
  | b :: rest => if b.hasKey a.scope a.name then a :: rest else b :: putAttribute a rest

/-- Sets an attribute; the result comes with the attribute that was replaced. -/
def setAttribute (f : Frame) (a : Attribute) : Option Attribute × Frame :=
  (f.attribute? a.scope a.name, { f with attributes := putAttribute a f.attributes })

/-! ### Text -/

def display (f : Frame) : String :=
  s!"VideoFrame source_id: {f.sourceId}, {f.width}x{f.height}, codec: {shownOption quoted f.codec}, " ++
    s!"pts: {f.pts}, dts: {shownTime f.dts}, keyframe: {shownOption toString f.keyframe}, " ++
    s!"objects: {f.objects.length}"

end Frame

/-! ### Wire form -/

def FrameContent.doc : FrameContent → Doc
  | embedded data => .record [("Internal", .ofList (fun b => .ofNat b.toNat) data)]
  | external method location =>
    .record [("External", .record [("method", .text method), ("location", .ofOption .text location)])]

def FrameContent.ofDoc (d : Doc) : Except Fault FrameContent := do
  let (form, content) ← d.asChoice
  match form with
  | "Internal" => embedded <$> content.asList (Doc.asScalar Json.Value.asUInt8)
  | "External" =>
    let fields ← content.asRecord ["method", "location"]
    let method ← required "method" Doc.asText fields
    let location ← optional "location" Doc.asText fields
    .ok (external method location)
  | _ => .error .unexpected

def Transformation.doc : Transformation → Doc
  | initialSize width height =>
    .record [("InitialSize", .record [("width", .ofNat width.toNat), ("height", .ofNat height.toNat)])]

def Transformation.ofDoc (d : Doc) : Except Fault Transformation := do
  let (form, content) ← d.asChoice
  match form with
  | "InitialSize" =>
    let fields ← content.asRecord ["width", "height"]
    let width ← required "width" (Doc.asScalar Json.Value.asUInt64) fields
    let height ← required "height" (Doc.asScalar Json.Value.asUInt64) fields
    .ok (initialSize width height)
  | _ => .error .unexpected

/-- A pair is an array of two. -/
def pairOfDoc (read : Doc → Except Fault α) (d : Doc) : Except Fault (α × α) := do
  match ← d.asList read with
  | [a, b] => .ok (a, b)
  | _ => .error .unexpected

def Frame.doc (f : Frame) : Doc :=
  .record [
    ("source_id", .text f.sourceId),
    ("framerate", .text f.framerate),
    ("width", .ofNat f.width.toNat),
    ("height", .ofNat f.height.toNat),
    ("codec", .ofOption .text f.codec),
    ("content", f.content.doc),
    ("keyframe", .ofOption .bool f.keyframe),
    ("pts", .ofNat f.pts.toNat),
    ("dts", .ofOption (fun t => .ofNat t.toNat) f.dts),
    ("duration", .ofOption (fun t => .ofNat t.toNat) f.duration),
    ("time_base", .ofList (fun i => .ofInt i.toInt) [f.timeBase.1, f.timeBase.2]),
    ("transformations", .ofList Transformation.doc f.transformations),
    ("objects", .ofList FrameObject.doc f.objects),
    ("attributes", .ofList Attribute.doc f.attributes)]

/-- A frame that may nest `room` arrays and objects, itself included: the free values in its attributes lie inside
six of them, those in the attributes of its objects inside eight. -/
def Frame.ofDoc (room : Nat) (d : Doc) : Except Fault Frame := do
  let fields ← d.asRecord ["source_id", "framerate", "width", "height", "codec", "content", "keyframe", "pts",
    "dts", "duration", "time_base", "transformations", "objects", "attributes"]
  let time := Doc.asScalar Json.Value.asUInt64
  let sourceId ← required "source_id" Doc.asText fields
  let framerate ← required "framerate" Doc.asText fields
  let width ← required "width" time fields
  let height ← required "height" time fields
  let codec ← optional "codec" Doc.asText fields
  let content ← required "content" FrameContent.ofDoc fields
  let keyframe ← optional "keyframe" (Doc.asScalar Json.Value.asBool) fields
  let pts ← required "pts" time fields
  let dts ← optional "dts" time fields
  let duration ← optional "duration" time fields
  let timeBase ← required "time_base" (pairOfDoc (Doc.asScalar Json.Value.asInt32)) fields
  let transformations ← required "transformations" (Doc.asList Transformation.ofDoc) fields
  let objects ← required "objects" (Doc.asList (FrameObject.ofDoc (room - 8))) fields
  let attributes ← required "attributes" (Doc.asList (Attribute.ofDoc (room - 6))) fields
  .ok { sourceId, framerate, width, height, codec, content, keyframe, pts, dts, duration, timeBase,
        transformations, objects, attributes }

end FrameStream
