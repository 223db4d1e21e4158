import FrameStream.Text.Utf8

/-!
# Paths

A path is a sequence of octets, read as segments between slashes.  Two paths are the same if their components are:
repeated slashes, inner dots and slashes at the end do not count.  A path is shown and kept as it was given.
-/

namespace FrameStream

structure Path where
  octets : Bytes
  deriving DecidableEq

/-- What a path leads through. -/
inductive Component where
  | root
  /-- A dot at the very beginning. -/
  | here
  | up
  | name (octets : Bytes)
  deriving DecidableEq

namespace Path

def ofText (s : String) : Path := ⟨Utf8.encode s⟩

/-- The path as text. -/
def display (p : Path) : String := Utf8.decodeLossy p.octets

def slash : UInt8 := 0x2F

def dot : UInt8 := 0x2E

/-! ### Segments and components -/

/-- The parts between slashes; there is always one more of them than slashes. -/
def splitSlashes : Bytes → List Bytes
  | [] => [[]]
  | b :: bs =>
    if b = slash then [] :: splitSlashes bs
    else match splitSlashes bs with
      | [] => [[b]]
      | segment :: rest => (b :: segment) :: rest

/-- The segments with slashes between them. -/
def joinSlashes : List Bytes → Bytes
  | [] => []
  | [segment] => segment
  | segment :: rest => segment ++ slash :: joinSlashes rest

def segments (p : Path) : List Bytes := splitSlashes p.octets

/-- A segment that leads nowhere else. -/
def isIdle (segment : Bytes) : Bool := segment == [] || segment == [dot]

/-- The component of a segment behind a slash. -/
def innerComponent (segment : Bytes) : List Component :=
  if isIdle segment then [] else if segment = [dot, dot] then [.up] else [.name segment]

def components (p : Path) : List Component :=
  match p.segments with
  | [] => []
  | first :: rest =>
    (if first = [] then (if rest = [] then [] else [.root])
      else if first = [dot] then [.here]
      else innerComponent first) ++
      rest.flatMap innerComponent

/-- The paths have the same components. -/
def same (p q : Path) : Bool := p.components == q.components

/-! ### File names -/

/-- The last component, if it is a name. -/
def fileName? (p : Path) : Option Bytes :=
  match p.components.getLast? with
  | some (.name n) => some n
  | _ => none

/-- A file name without its extension: what precedes the last dot, unless that is nothing. -/
def stemOf (name : Bytes) : Bytes :=
  match name.reverse.dropWhile (· != dot) with
  | _ :: before@(_ :: _) => before.reverse
  | _ => name

/-- The segments, last one first, without those at the front that lead nowhere; the last one is kept. -/
def dropIdle : List Bytes → List Bytes
  | segment :: next :: rest => if isIdle segment then dropIdle (next :: rest) else segment :: next :: rest
  | segments => segments

/-- The path with another file name; a path without one gets the name behind a slash. -/
def withFileName (p : Path) (name : Bytes) : Path :=
  match p.fileName? with
  | some _ =>
    let parent := dropIdle (p.segments.reverse.dropWhile isIdle).tail
    ⟨joinSlashes (name :: parent).reverse⟩
  | none =>
    match p.octets.getLast? with
    | some b => if b = slash then ⟨p.octets ++ name⟩ else ⟨p.octets ++ slash :: name⟩
    | none => ⟨name⟩

/-- The path of the metadata that belongs to a media file: it stands beside the file, with `.json` behind the
stem of its name. -/
def sidecar (p : Path) : Path :=
  p.withFileName (((p.fileName?.map stemOf).getD []) ++ Utf8.encode ".json")

end Path

/-- Both or none of two locations are known, and if both are, they are the same. -/
def sameLocation : Option Path → Option Path → Bool
  | none, none => true
  | some p, some q => p.same q
  | _, _ => false

end FrameStream
