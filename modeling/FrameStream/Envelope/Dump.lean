import FrameStream.Envelope.Basic

/-!
# Dumps

Envelopes one behind the other: for each the number of segments, every segment behind its length, and the three
timestamps.  Numbers are big-endian, of four octets for counts and lengths and of eight for timestamps; the
greatest timestamp stands for "not a time".
-/

namespace FrameStream

/-! ### Numbers -/

/-- The last `width` octets of a number, most significant first. -/
def bigEndian : (width : Nat) → Nat → Bytes
  | 0, _ => []
  | width + 1, n => bigEndian width (n / 256) ++ [UInt8.ofNat (n % 256)]

def ofBigEndian (bs : Bytes) : Nat := bs.foldl (fun n b => 256 * n + b.toNat) 0

/-- The first `n` octets and the rest, if there are as many. -/
def splitExactly (n : Nat) (bs : Bytes) : Option (Bytes × Bytes) :=
  let front := bs.take n
  if front.length = n then some (front, bs.drop n) else none

def takeNumber (width : Nat) (bs : Bytes) : Option (Nat × Bytes) :=
  (splitExactly width bs).map fun (front, rest) => (ofBigEndian front, rest)

namespace Dump

/-! ### Writing -/

/-- The timestamp that stands for none. -/
def noTime : Nat := 0xFFFFFFFFFFFFFFFF

def encodeTime (t : Option UInt64) : Bytes :=
  bigEndian 8 (match t with
    | some t => t.toNat
    | none => noTime)

/-- A count or length of four octets. -/
def encodeLength (what : String) (n : Nat) : Except Cause Bytes :=
  if n < 0x100000000 then .ok (bigEndian 4 n) else .error (.dumpLength what n)

/-- The octets of the count of segments and of the length of each, if all of them fit. -/
def encodeLengths (e : Envelope) : Except Cause (Bytes × List Bytes) := do
  let count ← encodeLength "segment count" e.segments.length
  let lengths ← e.segments.mapM fun s => encodeLength "segment length" s.length
  .ok (count, lengths)

/-- Appends an envelope to a buffer.  Nothing is written before it is known that the count and all lengths fit. -/
def append (buffer : Bytes) (e : Envelope) : Except Cause Unit × Bytes :=
  match encodeLengths e with
  | .error c => (.error c, buffer)
  | .ok (count, lengths) =>
    let buffer := buffer ++ count
    let buffer := (lengths.zip e.segments).foldl (fun buffer (length, s) => buffer ++ (length ++ s)) buffer
    let times := [e.timing.pts, e.timing.dts, e.timing.duration]
    (.ok (), times.foldl (fun buffer t => buffer ++ encodeTime t) buffer)

/-- An envelope in a buffer of its own. -/
def encode (e : Envelope) : Except Cause Bytes :=
  match append [] e with
  | (.ok (), bs) => .ok bs
  | (.error c, _) => .error c

/-- Several envelopes. -/
def encodeAll (es : List Envelope) : Except Cause Bytes := List.flatten <$> es.mapM encode

/-! ### Reading -/

def takeTime (bs : Bytes) : Option (Option UInt64 × Bytes) :=
  (takeNumber 8 bs).map fun (n, rest) => (if n = noTime then none else some (UInt64.ofNat n), rest)

def takeSegment (bs : Bytes) : Option (Bytes × Bytes) := do
  let (length, rest) ← takeNumber 4 bs
  splitExactly length rest

def takeSegments : (count : Nat) → Bytes → Option (List Bytes × Bytes)
  | 0, bs => some ([], bs)
  | count + 1, bs => do
    let (segment, rest) ← takeSegment bs
    let (segments, rest) ← takeSegments count rest
    some (segment :: segments, rest)

def takeEnvelope (bs : Bytes) : Option (Envelope × Bytes) := do
  let (count, rest) ← takeNumber 4 bs
  let (segments, rest) ← takeSegments count rest
  let (pts, rest) ← takeTime rest
  let (dts, rest) ← takeTime rest
  let (duration, rest) ← takeTime rest
  some ({ segments, timing := { pts, dts, duration } }, rest)

/-- The envelopes from number `index` on.  Every envelope takes octets, so the length of the text is fuel enough. -/
def decodeFrom : (fuel index : Nat) → Bytes → Except Cause (List Envelope)
  | _, _, [] => .ok []
  | 0, index, _ :: _ => .error (.dumpTruncated index)
  | fuel + 1, index, b :: bs =>
    match takeEnvelope (b :: bs) with
    | none => .error (.dumpTruncated index)
    | some (e, rest) => (e :: ·) <$> decodeFrom fuel (index + 1) rest

/-- The envelopes of a whole dump. -/
def decode (bs : Bytes) : Except Cause (List Envelope) := decodeFrom bs.length 0 bs

end Dump

end FrameStream
