import FrameStream.Location.Path

/-!
# Files

A table of files and directories, each by the names that lead to it from the root.  A path is followed segment by
segment, from the root if a slash is at its front and from the working directory otherwise, and what it passes through
has to be a directory.  Nothing is above the root.
-/

namespace FrameStream

/-- Why a file cannot be opened or read. -/
inductive FileFault where
  | notFound
  | notADirectory
  | isADirectory
  | invalidPath
  deriving DecidableEq

structure Files where
  files : List (List Bytes × Bytes) := []
  directories : List (List Bytes) := []
  /-- The names of the directory from which relative paths start. -/
  working : List Bytes := []

namespace Files

inductive Entry where
  | file (data : Bytes)
  | directory
  deriving DecidableEq

/-- What is under the names; the working directory and all that lead to it are directories in any case. -/
def entry? (t : Files) (names : List Bytes) : Option Entry :=
  if names <+: t.working ∨ t.directories.contains names then some .directory
  else Entry.file <$> t.files.lookup names

/-! ### Following paths -/

/-- The place one segment further. -/
def advance (place : List Bytes) (segment : Bytes) : List Bytes :=
  if Path.isIdle segment then place
  else if segment = [Path.dot, Path.dot] then place.dropLast
  else place ++ [segment]

/-- Follows the segments from a place that exists. -/
def follow (t : Files) : (place : List Bytes) → (segments : List Bytes) → Except FileFault (List Bytes)
  | place, [] => .ok place
  | place, segment :: rest =>
    if t.entry? place = some .directory then
      if (t.entry? (advance place segment)).isSome then t.follow (advance place segment) rest else .error .notFound
    else .error .notADirectory

/-- Where the segments of a path start. -/
def origin (t : Files) : List Bytes → List Bytes
  | [] :: _ :: _ => []
  | _ => t.working

/-- The file or directory at a path. -/
def lookup (t : Files) (p : Path) : Except FileFault Entry :=
  if p.octets.contains 0 then .error .invalidPath
  else if p.octets = [] then .error .notFound
  else do
    let place ← t.follow (t.origin p.segments) p.segments
    match t.entry? place with
    | some e => .ok e
    | none => .error .notFound

/-- The whole content of the file at a path. -/
def read (t : Files) (p : Path) : Except FileFault Bytes := do
  match ← t.lookup p with
  | .file data => .ok data
  | .directory => .error .isADirectory

/-! ### Changing files -/

/-- The table with a directory and all those that lead to it. -/
def addDirectory (t : Files) (names : List Bytes) : Files :=
  let leading := (List.range names.length).map fun n => names.take (n + 1)
  { t with directories := t.directories ++ leading.filter fun d => !t.directories.contains d }

/-- The table with a file of the given content, in place of any file of that name. -/
def write (t : Files) (names : List Bytes) (data : Bytes) : Files :=
  let t := t.addDirectory names.dropLast
  { t with files := (names, data) :: t.files.filter (·.1 != names) }

/-- The table without a file. -/
def remove (t : Files) (names : List Bytes) : Files :=
  { t with files := t.files.filter (·.1 != names) }

/-- The segments without the empty ones at the end. -/
def dropTrailing (segments : List Bytes) : List Bytes := (segments.reverse.dropWhile (· == [])).reverse

/-- Creates an empty file at a path, or empties the one that is there; the table comes with its names.  A path with
a slash at its end can only be that of a directory. -/
def create (t : Files) (p : Path) : Except FileFault (List Bytes × Files) :=
  if p.octets.contains 0 then .error .invalidPath
  else if p.octets = [] then .error .notFound
  else do
    let segments := dropTrailing p.segments
    let place ← t.follow (t.origin p.segments) segments.dropLast
    if t.entry? place != some .directory then .error .notADirectory
    let last := segments.getLastD []
    if segments != p.segments || Path.isIdle last || last == [Path.dot, Path.dot] then .error .isADirectory
    let names := advance place last
    if t.entry? names = some .directory then .error .isADirectory
    else .ok (names, t.write names [])

end Files

end FrameStream
