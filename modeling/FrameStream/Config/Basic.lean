import FrameStream.Config.Framerate
import FrameStream.Failure

/-!
# Configuration

The options of a relay, with their defaults.  They are read from a JSON object with an option's name for each
member, or from an array of the options in order; an unknown option or one given twice is a fault.
-/

namespace FrameStream

open Json (Doc Items Members)

/-! ### Frame types -/

/-- How the content of a frame travels to the consumer. -/
inductive FrameType where
  /-- In the message. -/
  | embedded
  /-- Behind the message, as a segment of its own. -/
  | zeromq
  /-- By a method that cannot be produced here: allowed as an option, refused for every buffer. -/
  | other (name : String)
  deriving DecidableEq

namespace FrameType

def ofName (s : String) : FrameType :=
  if s = "embedded" then embedded else if s = "zeromq" then zeromq else other s

def name : FrameType → String
  | embedded => "embedded"
  | zeromq => "zeromq"
  | other name => name

def isExternal : FrameType → Bool
  | embedded => false
  | _ => true

end FrameType

/-! ### Options -/

def defaultPattern : String := "source-%d"

structure Config where
  sourceId : Option String := none
  location : Option Path := none
  framerate : String := "30/1"
  eosOnFileEnd : Bool := true
  eosOnLoopEnd : Bool := false
  eosOnFormatChange : Bool := true
  readMetadata : Bool := false
  frameType : FrameType := .zeromq
  multistream : Bool := false
  pattern : Option String := some defaultPattern
  streams : Nat := 1
  shutdownAuth : Option String := none
  deriving DecidableEq

namespace Config

/-- What can be refused before the relay starts. -/
def validate (c : Config) : Except Refusal Unit :=
  if !isFramerate c.framerate then .error (.framerate c.framerate)
  else if c.streams = 0 ∨ maxStreams < c.streams then .error (.streamCount c.streams)
  else .ok ()

/-! ### Reading -/

/-- Sets an option to what a document says. -/
abbrev Setter := Doc → Config → Except Fault Config

def setting (read : Doc → Except Fault α) (set : Config → α → Config) : Setter :=
  fun d c => set c <$> read d

def asBool : Doc → Except Fault Bool := Doc.asScalar Json.Value.asBool

def asText? : Doc → Except Fault (Option String) := Doc.asOption Doc.asText

/-- The options by name, in the order of the array form. -/
def options : List (String × Setter) := [
  ("source-id", setting asText? fun c v => { c with sourceId := v }),
  ("location", setting asText? fun c v => { c with location := v.map Path.ofText }),
  ("framerate", setting Doc.asText fun c v => { c with framerate := v }),
  ("eos-on-file-end", setting asBool fun c v => { c with eosOnFileEnd := v }),
  ("eos-on-loop-end", setting asBool fun c v => { c with eosOnLoopEnd := v }),
  ("eos-on-frame-params-change", setting asBool fun c v => { c with eosOnFormatChange := v }),
  ("read-metadata", setting asBool fun c v => { c with readMetadata := v }),
  ("frame-type", setting Doc.asText fun c v => { c with frameType := .ofName v }),
  ("enable-multistream", setting asBool fun c v => { c with multistream := v }),
  ("source-id-pattern", setting asText? fun c v => { c with pattern := v }),
  ("number-of-streams",
    setting (Doc.asScalar Json.Value.asUInt64) fun c v => { c with streams := v.toNat }),
  ("shutdown-auth", setting asText? fun c v => { c with shutdownAuth := v })]

/-- The options of an object, set one by one; those named in `seen` are set already. -/
def readMembers : Members → (seen : List String) → Config → Except Fault Config
  | .closed, _, c => .ok c
  | .member key value tail, seen, c => do
    let key ← Json.pieceText key
    match options.lookup key with
    | none => .error .unexpected
    | some set =>
      if seen.contains key then .error .unexpected
      else readMembers tail (key :: seen) (← set value c)
  | .cut f, _, _ => .error f

/-- The options of an array, which may end before the last one. -/
def readItems : List Setter → Items → Config → Except Fault Config
  | _, .closed, c => .ok c
  | [], .item _ _, _ => .error .malformed
  | set :: sets, .item head tail, c => do readItems sets tail (← set head c)
  | _, .cut f, _ => .error f

def ofDoc : Doc → Except Fault Config
  | .object members => readMembers members [] {}
  | .array items => readItems (options.map Prod.snd) items {}
  | d => d.asScalar fun _ => .error .unexpected

/-- The configuration in the file at a path, given what came of reading the file. -/
def load (path : Path) (content : Except FileFault Bytes) : Except Failure Config :=
  match content with
  | .error f => .error ⟨[.readConfig path], .file f⟩
  | .ok text =>
    match Json.readText ofDoc text with
    | .error f => .error ⟨[.parseConfig path], .json f⟩
    | .ok c =>
      match c.validate with
      | .error r => .error ⟨[.validateConfig path], .refusal r⟩
      | .ok () => .ok c

end Config

end FrameStream
