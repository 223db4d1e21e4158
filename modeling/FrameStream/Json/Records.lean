import FrameStream.Json.Typed

/-!
# Streams of records

A text may hold any number of values one behind the other.  Nothing has to stand between them, but a value that
does not show its own end (a number, or a word) must not be followed by anything it could run into.
-/

namespace FrameStream.Json

/-- A value that starts with this octet shows its own end. -/
def isDelimiter (b : UInt8) : Bool := b == 0x5B || b == 0x22 || b == 0x7B

/-- What may follow a value that does not show its end. -/
def mayFollowWord : Bytes → Bool
  | [] => true
  | b :: _ => isSpace b || isDelimiter b || b == 0x5D || b == 0x7D || b == 0x2C || b == 0x3A

/-- The first value of a stream and what follows it, unless the stream is at its end. -/
def readRecord (fuel : Nat) (bs : Bytes) : Option (Except Fault (Value × Bytes)) :=
  match skipSpaces bs with
  | [] => none
  | b :: rest => some do
    let (doc, after) := readDoc fuel (b :: rest)
    let value ← doc.value depthLimit
    let rest ← after
    if isDelimiter b || mayFollowWord rest then .ok (value, rest) else .error .malformed

/-- The values up to the first fault, and that fault.  A value takes at least one octet, so that what is left of the
fuel is enough for the rest of the stream. -/
def readRecordsFrom : (fuel : Nat) → Bytes → List Value × Option Fault
  | 0, _ => ([], none)
  | fuel + 1, bs =>
    match readRecord fuel bs with
    | none => ([], none)
    | some (.error f) => ([], some f)
    | some (.ok (value, rest)) =>
      let (values, fault) := readRecordsFrom fuel rest
      (value :: values, fault)

/-- The values of a stream up to the first fault, and that fault. -/
def readRecords (bs : Bytes) : List Value × Option Fault := readRecordsFrom (readingFuel bs + 1) bs

end FrameStream.Json
