import FrameStream.Relay.Basic

/-!
# The work of a pipeline

A pipeline takes one moment after the other from its source and hands what it gets to the relay.  A refused buffer
is left out and counted; refused caps or a failure of the source end the work.  Each step of the work gives the
envelopes that it emits, in order: those that the relay pushes, and then the one that it leaves over.
-/

namespace FrameStream

/-- What reaches a pipeline at work. -/
inductive Moment where
  | item (i : StreamItem)
  /-- The source fails. -/
  | failure (f : Failure)
  /-- The pipeline is cancelled; the item after this moment is still worked on. -/
  | cancel
  /-- The pipeline is asked to start while it is at work. -/
  | startAgain

structure Stats where
  events : Nat := 0
  buffers : Nat := 0
  /-- Buffers that the relay refused; the stream goes on without them. -/
  rejected : Nat := 0
  /-- Envelopes that the output took. -/
  envelopes : Nat := 0
  deriving DecidableEq

/-- The work so far. -/
structure Work where
  relay : Relay
  stats : Stats := {}
  notices : List Notice := []
  cancelled : Bool := false
  /-- How often the pipeline was asked to start in vain. -/
  restarts : Nat := 0
  failure : Option Failure := none
  /-- Nothing more is taken from the source. -/
  finished : Bool := false

namespace Work

/-- The work with what became of an operation of the relay. -/
def record (w : Work) (o : Outcome Relay α) : Work :=
  { w with relay := o.state, notices := w.notices ++ o.notices }

def fail (w : Work) (f : Failure) : Work := { w with failure := some f, finished := true }

/-- An event.  Only refused caps end the work. -/
def event (files : Files) (w : Work) (e : StreamEvent) : List Envelope × Work :=
  let o := (w.relay.handle files e).runOpen
  let w := { w.record o with stats := { w.stats with events := w.stats.events + 1 } }
  match o.result with
  | .ok () => (o.pushed, w)
  | .error (.caps c reason) => (o.pushed, w.fail ⟨[.negotiation], .refusal (.caps c reason)⟩)
  | .error r => (o.pushed, { w with notices := w.notices ++ [.eventRefused r] })

/-- A buffer.  The envelope that the relay leaves over goes out last. -/
def buffer (files : Files) (w : Work) (b : Buffer) : List Envelope × Work :=
  let o := (w.relay.transform files b).runOpen
  let w := { w.record o with stats := { w.stats with buffers := w.stats.buffers + 1 } }
  match o.result with
  | .ok e => (o.pushed ++ [e], w)
  | .error r => (o.pushed, { w with
      stats := { w.stats with rejected := w.stats.rejected + 1 }
      notices := w.notices ++ [.bufferRefused r] })

/-- An item; it is the last one if the pipeline was cancelled before. -/
def item (files : Files) (w : Work) (i : StreamItem) : List Envelope × Work :=
  let (es, w) := match i with
    | .event e => w.event files e
    | .buffer b => w.buffer files b
  (es, { w with finished := w.finished || w.cancelled })

def moment (files : Files) (w : Work) : Moment → List Envelope × Work
  | .item i => w.item files i
  | .failure f => ([], w.fail f)
  | .cancel => ([], { w with cancelled := true })
  | .startAgain => ([], { w with restarts := w.restarts + 1 })

end Work

end FrameStream
