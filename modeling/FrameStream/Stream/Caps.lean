import FrameStream.Text.Quoted

/-!
# Capabilities and formats

A host describes a stream by its capabilities (*caps*): a media type, and perhaps a size, a framerate and a pixel
format.  From the caps of a known codec follows the format of the stream; `StreamFormat.ofCaps` says what is
missing where none does.
-/

namespace FrameStream

structure Caps where
  /-- The media type. -/
  name : String
  width : Option Int32 := none
  height : Option Int32 := none
  /-- Numerator and denominator. -/
  framerate : Option (Int32 × Int32) := none
  /-- The pixel format of raw video. -/
  pixels : Option String := none
  deriving DecidableEq

def Caps.display (c : Caps) : String :=
  let part (label : String) (value : Option String) : String := (value.map (s!", {label}=" ++ ·)).getD ""
  c.name ++ part "format" c.pixels ++ part "width" (c.width.map toString) ++
    part "height" (c.height.map toString) ++
    part "framerate" (c.framerate.map fun (num, den) => s!"{num}/{den}")

/-! ### Codecs -/

inductive Codec where
  | h264 | hevc | vp8 | vp9 | av1 | jpeg | png | rawRgba | rawRgb24
  deriving DecidableEq

namespace Codec

def all : List Codec := [h264, hevc, vp8, vp9, av1, jpeg, png, rawRgba, rawRgb24]

/-- The name in messages. -/
def name : Codec → String
  | h264 => "h264"
  | hevc => "hevc"
  | vp8 => "vp8"
  | vp9 => "vp9"
  | av1 => "av1"
  | jpeg => "jpeg"
  | png => "png"
  | rawRgba => "raw-rgba"
  | rawRgb24 => "raw-rgb24"

/-- The media type in caps. -/
def mediaType : Codec → String
  | h264 => "video/x-h264"
  | hevc => "video/x-h265"
  | vp8 => "video/x-vp8"
  | vp9 => "video/x-vp9"
  | av1 => "video/x-av1"
  | jpeg => "image/jpeg"
  | png => "image/png"
  | rawRgba | rawRgb24 => "video/x-raw"

/-- The pixel format that raw video needs to have. -/
def pixels? : Codec → Option String
  | rawRgba => some "RGBA"
  | rawRgb24 => some "RGB"
  | _ => none

def describes (c : Codec) (caps : Caps) : Bool :=
  c.mediaType == caps.name && (c.pixels?.isNone || c.pixels? == caps.pixels)

/-- The codec that caps describe. -/
def ofCaps? (caps : Caps) : Option Codec := all.find? (·.describes caps)

end Codec

/-! ### Formats -/

/-- What a consumer has to know to decode a frame. -/
structure StreamFormat where
  codec : String
  width : UInt32
  height : UInt32
  framerate : String
  deriving DecidableEq

/-- Why caps give no format. -/
inductive CapsFault where
  | unknownCodec
  | widthMissing
  | heightMissing
  deriving DecidableEq

def CapsFault.message : CapsFault → String
  | unknownCodec => "unknown codec"
  | widthMissing => "width is missing"
  | heightMissing => "height is missing"

namespace StreamFormat

/-- A size that counts pixels. -/
def positive? : Option Int32 → Option UInt32
  | some n => if 0 < n then some (UInt32.ofNat n.toInt.toNat) else none
  | none => none

/-- The format that caps describe; without a framerate of their own they get the default one. -/
def ofCaps (caps : Caps) (defaultFramerate : String) : Except CapsFault StreamFormat :=
  match Codec.ofCaps? caps with
  | none => .error .unknownCodec
  | some codec =>
    match positive? caps.width with
    | none => .error .widthMissing
    | some width =>
      match positive? caps.height with
      | none => .error .heightMissing
      | some height =>
        let framerate := match caps.framerate with
          | some (num, den) => s!"{num}/{den}"
          | none => defaultFramerate
        .ok { codec := codec.name, width, height, framerate }

def display (f : StreamFormat) : String := s!"{f.codec} {f.width}x{f.height}@{f.framerate}"

end StreamFormat

end FrameStream
