import FrameStream.Failure
import FrameStream.Config.Basic

/-!
# Settings of a pipeline

What a pipeline is to play, through which relay, and where the envelopes go.
-/

namespace FrameStream

/-- Where envelopes go. -/
inductive OutputKind where
  | dump (path : Path)
  | log
  | channel
  deriving DecidableEq

structure PipelineConfig where
  inputs : List Path
  /-- How many times the inputs are played again. -/
  loops : Nat
  output : OutputKind
  relay : Config
  capacity : Nat
  deriving DecidableEq

/-- Settings as they are given; what is missing has a default, but for the configuration of the relay. -/
structure PipelineSettings where
  inputs : List Path := []
  loops : Nat := 0
  output : Option OutputKind := none
  relay : Option Config := none
  capacity : Option Nat := none

def defaultCapacity : Nat := 32

def PipelineSettings.build (s : PipelineSettings) : Except Failure PipelineConfig :=
  match s.relay with
  | none => .error (.plain .configMissing)
  | some relay =>
    match relay.validate with
    | .error r => .error (.plain (.refusal r))
    | .ok () =>
      let capacity := s.capacity.getD defaultCapacity
      if capacity = 0 then .error (.plain .zeroCapacity)
      else .ok { inputs := s.inputs, loops := s.loops, output := s.output.getD .log, relay, capacity }

end FrameStream
