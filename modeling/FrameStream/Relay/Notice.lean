import FrameStream.Failure

/-!
# Notices

What goes wrong on the way, or looks as if it did, without ending the work is told in a notice.
-/

namespace FrameStream

inductive Notice where
  /-- Records of the sidecar for a location that no frame took. -/
  | unmatchedRecords (n : Nat) (location : Option Path)
  | sidecarMissing (path : Path)
  | startRefused (r : Refusal)
  | capsRefused (r : Refusal)
  | frameTypeUnsupported (name : String)
  | eventRefused (r : Refusal)
  | bufferRefused (r : Refusal)
  deriving DecidableEq

namespace Notice

/-- Something was refused, rather than found odd. -/
def isError : Notice → Bool
  | unmatchedRecords _ _ | sidecarMissing _ | eventRefused _ => false
  | _ => true

def message : Notice → String
  | unmatchedRecords n location =>
    s!"{n} sidecar records for {shownOption (fun p => quotedBytes p.octets) location} " ++
      "were not matched by any frame"
  | sidecarMissing path => s!"JSON file {path.display} not found"
  | startRefused r => "Serializer: failed to start: " ++ r.message
  | capsRefused r => "Serializer: " ++ r.message
  | frameTypeUnsupported name => "Unsupported frame type " ++ quoted name
  | eventRefused r => "Pipe: event failed: " ++ r.message
  | bufferRefused r => "Pipe: buffer rejected: " ++ r.message

/-- The notice as a line of a log. -/
def line (n : Notice) : String := (if n.isError then "ERROR: " else "WARN: ") ++ n.message

end Notice

end FrameStream
