import FrameStream.Pipeline.Channel
import FrameStream.Pipeline.Feed

/-!
# Worker and output

A pipeline has two ends that run on their own: the worker takes moments from the feed and pushes what they give
into a channel, waiting while the channel is full, and the output takes envelopes out of it.  Here one of them moves
at a time, and a list of turns says which; a turn of an end that has to wait changes nothing.  An output that is
closed fails at the first envelope, and then the worker stops as soon as it has something to push.  `Line.finish`
follows turns by which both ends get to the end.
-/

namespace FrameStream

/-- The end that moves. -/
inductive Turn where
  | worker
  | output
  deriving DecidableEq

structure Line where
  feed : Feed
  work : Work
  /-- What the work has emitted and the worker has yet to push. -/
  outbox : List Envelope := []
  channel : Channel
  /-- The output takes what it is handed. -/
  outputOpen : Bool := true
  /-- What the output has taken. -/
  delivered : Array Envelope := #[]
  /-- The output was handed an envelope that it does not take. -/
  outputFailed : Bool := false
  /-- The output has found the channel at its end. -/
  ended : Bool := false

namespace Line

/-- A line at its start: the worker holds the only sink of the new channel. -/
def ofFeed (channel : Channel) (outputOpen : Bool) (feed : Feed) (work : Work) : Line where
  feed := feed
  work := work
  channel := channel.openSink.2.closeWriter
  outputOpen := outputOpen

/-- The worker still holds its sink. -/
def isWorking (l : Line) : Bool := l.channel.sinks.contains true

def dropSink (l : Line) : Line := { l with channel := l.channel.dropSink 0 }

/-- The worker pushes an envelope, or takes the next moment, or drops its sink if there is nothing left to do. -/
def workerTurn (files : Files) (l : Line) : Line :=
  match l.outbox with
  | e :: rest =>
    if l.outputFailed then { l with outbox := [], work := { l.work with finished := true } }
    else match l.channel.push 0 e with
      | (.taken, channel) => { l with outbox := rest, channel }
      | _ => l
  | [] =>
    if l.work.finished then l.dropSink
    else match l.feed.next? with
      | none => l.dropSink
      | some (m, feed) =>
        let (outbox, work) := l.work.moment files m
        { l with feed, work, outbox }

/-- The output takes an envelope, if there is one. -/
def outputTurn (l : Line) : Line :=
  if l.outputFailed then l
  else match l.channel.poll with
    | (.envelope e, channel) =>
      if l.outputOpen then { l with channel, delivered := l.delivered.push e }
      else { l with channel, outputFailed := true }
    | (.ended, _) => { l with ended := true }
    | (.pending, _) => l

def turn (files : Files) (l : Line) : Turn → Line
  | .worker => l.workerTurn files
  | .output => l.outputTurn

def run (files : Files) (l : Line) (turns : List Turn) : Line := turns.foldl (turn files) l

/-- The worker takes the next moment and pushes all that it gives, the output taking every envelope at once. -/
def takeMoment (files : Files) (l : Line) : Line :=
  let l := l.workerTurn files
  l.run files (l.outbox.flatMap fun _ => [.worker, .output])

/-- The worker takes up to `n` moments, as long as it holds its sink. -/
def takeMoments (files : Files) : (n : Nat) → Line → Line
  | 0, l => l
  | n + 1, l => if l.isWorking then takeMoments files n (l.takeMoment files) else l

/-- The worker takes every moment and drops its sink, and the output comes to the end. -/
def finish (files : Files) (l : Line) : Line := (l.takeMoments files (l.feed.bound + 1)).outputTurn

end Line

end FrameStream
