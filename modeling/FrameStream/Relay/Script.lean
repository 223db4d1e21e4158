import FrameStream.Envelope.Basic
import FrameStream.Relay.Notice

/-!
# Scripts

A step of the relay may push several envelopes, and the sink may refuse any of them.  The *script* of a step says
what the step does, push by push: behind each push there are two ways to go on, one for an envelope that is taken and
one for an envelope that is refused, and each way ends with a result and the state that is left.  Running a script
follows it by the answers of the sink.
-/

namespace FrameStream

inductive Script (σ α : Type) where
  | done (result : Except Refusal α) (state : σ)
  | push (e : Envelope) (refused next : Script σ α)
  | note (n : Notice) (next : Script σ α)

/-- What came of a step. -/
structure Outcome (σ α : Type) where
  result : Except Refusal α
  state : σ
  /-- The envelopes that the sink took. -/
  pushed : List Envelope
  notices : List Notice

namespace Script

/-- The step ends because the sink is closed. -/
def sinkClosed (state : σ) : Script σ α := done (.error .sinkClosed) state

/-- Pushes the envelopes in order, and goes on with `refused` behind one that the sink does not take. -/
def pushAll (es : List Envelope) (refused next : Script σ α) : Script σ α :=
  es.foldr (fun e script => push e refused script) next

def noteAll (ns : List Notice) (next : Script σ α) : Script σ α := ns.foldr note next

/-- The script with its result changed. -/
def map (f : α → β) : Script σ α → Script σ β
  | done result state => done (f <$> result) state
  | push e refused next => push e (refused.map f) (next.map f)
  | note n next => note n (next.map f)

/-- Runs the script, of which `attempt` pushes were tried before, against a sink that takes the pushes for which
`accepts` holds. -/
def run (accepts : Nat → Bool) : (attempt : Nat) → Script σ α → Outcome σ α
  | _, done result state => ⟨result, state, [], []⟩
  | attempt, push e refused next =>
    if accepts attempt then
      let o := next.run accepts (attempt + 1)
      { o with pushed := e :: o.pushed }
    else refused.run accepts (attempt + 1)
  | attempt, note n next =>
    let o := next.run accepts attempt
    { o with notices := n :: o.notices }

/-- Runs the script against a sink that takes everything. -/
def runOpen (s : Script σ α) : Outcome σ α := s.run (fun _ => true) 0

end Script

end FrameStream
