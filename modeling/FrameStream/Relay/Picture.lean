import FrameStream.Message.Wire
import FrameStream.Sidecar.Metadata
import FrameStream.Stream.Buffer

/-!
# Building frames

A frame takes its format from the stream, its timing from the buffer, its objects from the metadata, and names
the location it was read from in an attribute.
-/

namespace FrameStream

/-- What the frames for one buffer have in common, whatever their source. -/
structure Picture where
  format : StreamFormat
  initialSize : Transformation
  location : Option Path := none
  metadata : Option FrameMetadata := none
  timing : Timing := {}
  content : FrameContent
  keyframe : Bool := true

namespace Picture

/-- The attribute with the location as text. -/
def locationAttribute (location : Path) : Attribute :=
  { scope := defaultScope, name := "location", values := [.ofText location.display] }

/-- The frame without attributes. -/
def bareFrame (p : Picture) (sourceId : String) : Frame where
  sourceId := sourceId
  framerate := p.format.framerate
  width := p.format.width.toUInt64
  height := p.format.height.toUInt64
  codec := some p.format.codec
  content := p.content
  keyframe := some p.keyframe
  pts := p.timing.pts.getD 0
  dts := p.timing.dts
  duration := p.timing.duration
  timeBase := nanoseconds
  transformations := [p.initialSize]
  objects := (p.metadata.map FrameMetadata.objects).getD []
  attributes := []

/-- The frame for a source. -/
def frame (p : Picture) (sourceId : String) : Frame :=
  match p.location with
  | none => p.bareFrame sourceId
  | some location => ((p.bareFrame sourceId).setAttribute (locationAttribute location)).2

end Picture

end FrameStream
