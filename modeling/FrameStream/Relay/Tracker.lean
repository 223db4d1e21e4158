import FrameStream.Config.Basic
import FrameStream.Relay.Notice
import FrameStream.Sidecar.Metadata

/-!
# Segments

The frames between two ends of stream are a segment.  The tracker decides where one ends: before a frame whose
location or format differs from those at the frame before it, or that comes after a file was opened again, as far as
the configuration asks for it.  It also keeps the metadata of the current location and hands out its records one by
one.
-/

namespace FrameStream

/-- What ends a segment before the next frame. -/
structure Triggers where
  fileEnd : Bool
  loopEnd : Bool
  formatChange : Bool
  deriving DecidableEq

def Config.triggers (c : Config) : Triggers := ⟨c.eosOnFileEnd, c.eosOnLoopEnd, c.eosOnFormatChange⟩

/-- What a frame is compared with the one before it by. -/
structure Snapshot where
  location : Option Path
  format : Option StreamFormat

structure Tracker where
  triggers : Triggers
  readMetadata : Bool
  location : Option Path
  format : Option StreamFormat := none
  /-- As of the frame before; nothing until the first one. -/
  previous : Option Snapshot := none
  /-- A file was opened since the last frame. -/
  reopened : Bool := false
  /-- A frame went out since the last end of stream. -/
  inProgress : Bool := false
  /-- How many records were handed out since they were loaded. -/
  frameIndex : Nat := 0
  records : Option (List FrameMetadata) := none
  /-- The location that metadata was last looked for at, once it was. -/
  loadedFor : Option (Option Path) := none

/-- What became of a tracker that may have looked for metadata. -/
structure Tracked where
  tracker : Tracker
  failure : Option SidecarFault := none
  notices : List Notice := []

namespace Tracker

def ofConfig (c : Config) : Tracker :=
  { triggers := c.triggers, readMetadata := c.readMetadata, location := c.location }

/-- The records that no frame took yet. -/
def unconsumed (t : Tracker) : Nat := (t.records.getD []).length - t.frameIndex

def setLocation (t : Tracker) (location : Option Path) : Tracker := { t with location }

def setFormat (t : Tracker) (format : StreamFormat) : Tracker := { t with format := some format }

/-! ### Boundaries -/

/-- A segment ends before the next frame. -/
def boundary (t : Tracker) : Bool :=
  match t.previous with
  | none => false
  | some before =>
    t.inProgress &&
      ((t.triggers.fileEnd && !sameLocation t.location before.location) ||
        (t.triggers.formatChange && t.format != before.format) ||
        (t.triggers.loopEnd && t.reopened))

/-- The next frame becomes the one that later frames are compared with. -/
def advance (t : Tracker) : Tracker :=
  { t with previous := some ⟨t.location, t.format⟩, reopened := false }

def checkBoundary (t : Tracker) : Bool × Tracker := (t.boundary, t.advance)

def frameEmitted (t : Tracker) : Tracker := { t with inProgress := true }

def endSegment (t : Tracker) : Tracker := { t with inProgress := false }

/-! ### Metadata -/

/-- Records that are left over are told of. -/
def leftover (t : Tracker) : List Notice :=
  if 0 < t.unconsumed then [.unmatchedRecords t.unconsumed t.loadedFor.join] else []

/-- Metadata was loaded for the current location, and no record of it was used. -/
def isFresh (t : Tracker) : Bool :=
  match t.loadedFor with
  | none => false
  | some location => t.frameIndex == 0 && sameLocation location t.location

/-- Replaces the records by those for the current location, unless they are fresh.  A missing or faulty sidecar
leaves none. -/
def reload (files : Files) (t : Tracker) : Tracked :=
  if t.isFresh then { tracker := t }
  else
    let notices := t.leftover
    let cleared := { t with frameIndex := 0, records := none, loadedFor := some t.location }
    match t.readMetadata, t.location with
    | true, some location =>
      match Sidecar.load files location.sidecar with
      | .error f => { tracker := cleared, failure := some f, notices }
      | .ok none => { tracker := cleared, notices := notices ++ [.sidecarMissing location.sidecar] }
      | .ok (some records) => { tracker := { cleared with records := some records }, notices }
    | _, _ => { tracker := cleared, notices }

/-- Loads metadata for a location that was set without a file being opened. -/
def ensureLoaded (files : Files) (t : Tracker) : Tracked :=
  if t.readMetadata && !sameLocation t.loadedFor.join t.location then t.reload files else { tracker := t }

/-- A file was opened, perhaps again. -/
def onTag (files : Files) (t : Tracker) (location : Path) : Tracked :=
  { t with location := some location, reopened := true : Tracker }.reload files

/-- The record for the next frame.  Only a record that is there is counted. -/
def nextRecord (t : Tracker) : Option FrameMetadata × Tracker :=
  if t.readMetadata then
    match (t.records.getD [])[t.frameIndex]? with
    | some record => (some record, { t with frameIndex := t.frameIndex + 1 })
    | none => (none, t)
  else (none, t)

/-- The stream is at its end. -/
def finish (t : Tracker) : Tracked := { tracker := t.endSegment, notices := t.leftover }

end Tracker

end FrameStream
