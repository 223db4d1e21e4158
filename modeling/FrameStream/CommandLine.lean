import FrameStream.Pipeline.Basic

/-!
# The command line

The words behind the program's name are options and inputs in any order.  An option has a name behind two dashes,
and some have a letter behind one; a value stands behind an equals sign, in the next word, or behind the letter.
Two dashes alone end the options, and every word after them is an input.

A word is taken up once the next option or a new input shows that it is complete.  So of two faults the one that
is found first wins, and an unknown option is found before the value that stands in front of it is looked at.
-/

namespace FrameStream

namespace CommandLine

/-! ### Options -/

/-- The options by what they set. -/
inductive Switch where
  | config | loops | output | sourceId | frameType | framerate | readMetadata | eosOnLoopEnd | streams
  | pattern | shutdownAuth | capacity | help | version
  deriving DecidableEq

namespace Switch

def all : List Switch := [config, loops, output, sourceId, frameType, framerate, readMetadata, eosOnLoopEnd,
  streams, pattern, shutdownAuth, capacity, help, version]

def name : Switch → String
  | config => "config"
  | loops => "loops"
  | output => "output"
  | sourceId => "source-id"
  | frameType => "frame-type"
  | framerate => "framerate"
  | readMetadata => "read-metadata"
  | eosOnLoopEnd => "eos-on-loop-end"
  | streams => "number-of-streams"
  | pattern => "source-id-pattern"
  | shutdownAuth => "shutdown-auth"
  | capacity => "channel-capacity"
  | help => "help"
  | version => "version"

def letter? : Switch → Option Char
  | config => some 'c'
  | output => some 'o'
  | help => some 'h'
  | version => some 'V'
  | _ => none

def takesValue : Switch → Bool
  | readMetadata | eosOnLoopEnd | help | version => false
  | _ => true

def ofName? (name : List Char) : Option Switch := all.find? fun t => t.name.toList == name

def ofLetter? (c : Char) : Option Switch := all.find? fun t => t.letter? == some c

end Switch

/-! ### Requests -/

/-- Why a command line makes no request. -/
inductive NoRequest where
  | unknownOption
  | valueNotTaken
  | valueMissing
  | notANumber
  | pathEmpty
  | givenTwice
  | inputsMissing
  | helpAsked
  | versionAsked
  deriving DecidableEq

/-- What a command line asks for.  Options that are not given leave the configuration as it is. -/
structure Request where
  inputs : List Path := []
  config : Option Path := none
  loops : Nat := 0
  output : Option Path := none
  sourceId : Option String := none
  frameType : Option FrameType := none
  framerate : Option String := none
  readMetadata : Bool := false
  eosOnLoopEnd : Bool := false
  streams : Option Nat := none
  pattern : Option String := none
  shutdownAuth : Option String := none
  capacity : Option Nat := none
  deriving DecidableEq

def readPath (s : String) : Except NoRequest Path := if s = "" then .error .pathEmpty else .ok (.ofText s)

/-- A number of 64 bits, which may have a plus before it. -/
def readNumber (s : String) : Except NoRequest Nat :=
  let digits := match s.toList with
    | '+' :: cs => cs
    | cs => cs
  if digits = [] ∨ !digits.all Char.isDigit then .error .notANumber
  else
    let n := Nat.ofDigitChars 10 digits 0
    if n < 0x10000000000000000 then .ok n else .error .notANumber

namespace Request

/-- The request with an option set to a value, or switched on if it takes none. -/
def set (r : Request) (value : String) : Switch → Except NoRequest Request
  | .config => (fun v => { r with config := some v }) <$> readPath value
  | .loops => (fun v => { r with loops := v }) <$> readNumber value
  | .output => (fun v => { r with output := some v }) <$> readPath value
  | .sourceId => .ok { r with sourceId := some value }
  | .frameType => .ok { r with frameType := some (.ofName value) }
  | .framerate => .ok { r with framerate := some value }
  | .readMetadata => .ok { r with readMetadata := true }
  | .eosOnLoopEnd => .ok { r with eosOnLoopEnd := true }
  | .streams => (fun v => { r with streams := some v }) <$> readNumber value
  | .pattern => .ok { r with pattern := some value }
  | .shutdownAuth => .ok { r with shutdownAuth := some value }
  | .capacity => (fun v => { r with capacity := some v }) <$> readNumber value
  | .help => .error .helpAsked
  | .version => .error .versionAsked

end Request

/-! ### Reading the words -/

/-- Words that are read but not taken up yet. -/
inductive Pending where
  | nothing
  | option (t : Switch) (value : Option String)
  | inputs (words : List String)
  deriving DecidableEq

structure Reading where
  request : Request := {}
  given : List Switch := []
  pending : Pending := .nothing
  optionsEnded : Bool := false

namespace Reading

/-- Takes up an option with its value. -/
def give (r : Reading) (t : Switch) (value : String) : Except NoRequest Reading :=
  if r.given.contains t then .error .givenTwice
  else do
    let request ← r.request.set value t
    .ok { r with request, given := t :: r.given }

/-- Takes up the words that are pending. -/
def settle (r : Reading) : Except NoRequest Reading :=
  let rest := { r with pending := .nothing }
  match r.pending with
  | .nothing => .ok r
  | .option _ none => .error .valueMissing
  | .option t (some value) => rest.give t value
  | .inputs words => do
    let paths ← words.mapM readPath
    .ok { rest with request := { r.request with inputs := r.request.inputs ++ paths } }

/-- An option whose value, if it takes one, is in the same word. -/
def attach (r : Reading) (t : Switch) (value : String) : Except NoRequest Reading := do
  let r ← r.settle
  r.give t value

/-- An option whose value is to come. -/
def await (r : Reading) (t : Switch) : Except NoRequest Reading := do
  let r ← r.settle
  .ok { r with pending := .option t none }

/-- An input, which joins the inputs right before it. -/
def input (r : Reading) (word : String) : Except NoRequest Reading :=
  match r.pending with
  | .inputs words => .ok { r with pending := .inputs (words ++ [word]) }
  | _ => do
    let r ← r.settle
    .ok { r with pending := .inputs [word] }

/-- What stands before the first equals sign, and what stands behind it if there is one. -/
def splitEquals (cs : List Char) : List Char × Option (List Char) :=
  match cs.dropWhile (· != '=') with
  | [] => (cs, none)
  | _ :: value => (cs.takeWhile (· != '='), some value)

/-- A word behind its two dashes. -/
def named (r : Reading) (cs : List Char) : Except NoRequest Reading :=
  let (name, value) := splitEquals cs
  match Switch.ofName? name with
  | none => .error .unknownOption
  | some t =>
    match t.takesValue, value with
    | true, some value => r.attach t (String.ofList value)
    | true, none => r.await t
    | false, some _ => .error .valueNotTaken
    | false, none => r.attach t ""

/-- A word behind its one dash: letters of options, of which the first that takes a value takes what follows. -/
def lettered (r : Reading) : List Char → Except NoRequest Reading
  | [] => .ok r
  | c :: cs =>
    match Switch.ofLetter? c with
    | none => .error .unknownOption
    | some t =>
      if t.takesValue then
        match cs with
        | [] => r.await t
        | '=' :: value => r.attach t (String.ofList value)
        | value => r.attach t (String.ofList value)
      else do
        let r ← r.attach t ""
        r.lettered cs

/-- A word that is no option: the value of the option before it, or an input. -/
def plain (r : Reading) (word : String) : Except NoRequest Reading :=
  match r.pending with
  | .option t none => .ok { r with pending := .option t (some word) }
  | _ => r.input word

def word (r : Reading) (w : String) : Except NoRequest Reading :=
  if r.optionsEnded then r.input w
  else match w.toList with
    | ['-', '-'] => .ok { r with optionsEnded := true }
    | '-' :: '-' :: cs => r.named cs
    | '-' :: c :: cs => r.lettered (c :: cs)
    | _ => r.plain w

end Reading

/-- What the words ask for. -/
def read (words : List String) : Except NoRequest Request := do
  let r ← words.foldlM Reading.word {}
  let r ← r.settle
  if r.request.inputs = [] then .error .inputsMissing else .ok r.request

/-! ### Settings -/

namespace Request

/-- The configuration with what the request sets. -/
def override (r : Request) (c : Config) : Config :=
  { c with
    sourceId := r.sourceId <|> c.sourceId
    frameType := r.frameType.getD c.frameType
    framerate := r.framerate.getD c.framerate
    multistream := c.multistream || r.streams.isSome
    streams := r.streams.getD c.streams
    pattern := r.pattern <|> c.pattern
    shutdownAuth := r.shutdownAuth <|> c.shutdownAuth
    readMetadata := c.readMetadata || r.readMetadata
    eosOnLoopEnd := c.eosOnLoopEnd || r.eosOnLoopEnd }

/-- The pipeline that is asked for; `readFile` reads the file of the configuration. -/
def pipeline (readFile : Path → Except FileFault Bytes) (r : Request) : Except Failure PipelineConfig := do
  let c ← match r.config with
    | some path => Config.load path (readFile path)
    | none => .ok {}
  PipelineSettings.build {
    inputs := r.inputs, loops := r.loops, output := r.output.map .dump, relay := some (r.override c),
    capacity := r.capacity }

end Request

end CommandLine

end FrameStream
