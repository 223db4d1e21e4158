import FrameStream.Config.Basic

/-!
# Logical sources

One input is fanned out to logical sources, each with an id and the topic its messages are published under.  A
relay has either the one source of its configuration or as many as its pattern makes.
-/

namespace FrameStream

structure Source where
  id : String
  deriving DecidableEq

/-- Topics end in a slash, so that a subscription to one is not a subscription to a longer one. -/
def Source.topic (s : Source) : Bytes := Utf8.encode (s.id ++ "/")

/-- The ids that a pattern makes for a number of streams.  A width may be read that is too great to be written. -/
def expandPattern (pattern : String) (count : Nat) : Except Refusal (List String) :=
  match Pattern.parse pattern.toList with
  | .error f => .error (.pattern pattern f)
  | .ok p => if p.overflows count then .error .overflow else .ok (p.expand count)

/-- The first element that occurs before. -/
def firstRepeated? : (seen : List String) → List String → Option String
  | _, [] => none
  | seen, s :: rest => if seen.contains s then some s else firstRepeated? (s :: seen) rest

namespace Config

def sourceIds (c : Config) : Except Refusal (List String) :=
  if c.multistream then do
    let pattern := c.pattern.getD defaultPattern
    let ids ← expandPattern pattern c.streams
    match firstRepeated? [] ids with
    | some id => .error (.duplicateId pattern id)
    | none => .ok ids
  else match c.sourceId with
    | none => .error .missingSourceId
    | some id => .ok [id]

/-- The logical sources of the configuration. -/
def sources (c : Config) : Except Refusal (List Source) := (·.map Source.mk) <$> c.sourceIds

end Config

end FrameStream
