import FrameStream.Envelope.Basic
import FrameStream.Proofs.Message.RoundTrip

/-!
# Kinds of envelopes

What a consumer takes an envelope for is decided by the message it reads in it.  The envelopes of an end of stream
and of a request to shut down are taken for just that, and the envelope of a frame for neither, whether the frame
can be read back or not.
-/

namespace FrameStream

namespace Envelope

/-- The consumer reads the end of a stream. -/
def isEndOfStream (e : Envelope) : Bool :=
  match e.decode with
  | .ok (.endOfStream _) => true
  | _ => false

/-- The consumer reads a request to shut down. -/
def isShutdown (e : Envelope) : Bool :=
  match e.decode with
  | .ok (.shutdown _) => true
  | _ => false

/-- A frame under the topic of its source, with what travels behind it; the consumer reads this frame if it is
portable. -/
structure Holds (e : Envelope) (s : Source) (f : Frame) (content : Option Bytes) : Prop where
  segments : e.segments = [Utf8.encode (s.id ++ "/"), (Message.frame f).encode] ++ content.toList
  decode : e.decode = .ok (.frame f) ↔ f.IsPortable

end Envelope

namespace Source

theorem decode_endOfStream (s : Source) : s.endOfStream.decode = .ok (.endOfStream s.id) :=
  Message.decode_encode_endOfStream s.id

theorem decode_shutdown (s : Source) (token : String) :
    (s.envelope (.shutdown token)).decode = .ok (.shutdown token) :=
  Message.decode_encode_shutdown token

@[simp] theorem isEndOfStream_endOfStream (s : Source) : s.endOfStream.isEndOfStream = true := by
  rw [Envelope.isEndOfStream, decode_endOfStream]

@[simp] theorem isShutdown_endOfStream (s : Source) : s.endOfStream.isShutdown = false := by
  rw [Envelope.isShutdown, decode_endOfStream]

@[simp] theorem isShutdown_shutdown (s : Source) (token : String) :
    (s.envelope (.shutdown token)).isShutdown = true := by
  rw [Envelope.isShutdown, decode_shutdown]

@[simp] theorem isEndOfStream_shutdown (s : Source) (token : String) :
    (s.envelope (.shutdown token)).isEndOfStream = false := by
  rw [Envelope.isEndOfStream, decode_shutdown]

private theorem decode_bufferEnvelope (s : Source) (f : Frame) (timing : Timing) (content : Option Bytes) :
    (s.bufferEnvelope (.frame f) timing content).decode = Message.decode (Message.frame f).encode := rfl

theorem decode_frame {s : Source} {f : Frame} {timing : Timing} {content : Option Bytes} :
    (s.bufferEnvelope (.frame f) timing content).decode = .ok (.frame f) ↔ f.IsPortable := by
  rw [decode_bufferEnvelope]
  exact Message.decode_encode_frame

theorem holds_bufferEnvelope (s : Source) (f : Frame) (timing : Timing) (content : Option Bytes) :
    (s.bufferEnvelope (.frame f) timing content).Holds s f content := ⟨rfl, decode_frame⟩

@[simp] theorem isEndOfStream_frame (s : Source) (f : Frame) (timing : Timing) (content : Option Bytes) :
    (s.bufferEnvelope (.frame f) timing content).isEndOfStream = false := by
  rw [Envelope.isEndOfStream, decode_bufferEnvelope]
  split
  · rename_i read
    obtain ⟨g, other⟩ := Message.decode_encode_frame_kind read
    cases other
  · rfl

@[simp] theorem isShutdown_frame (s : Source) (f : Frame) (timing : Timing) (content : Option Bytes) :
    (s.bufferEnvelope (.frame f) timing content).isShutdown = false := by
  rw [Envelope.isShutdown, decode_bufferEnvelope]
  split
  · rename_i read
    obtain ⟨g, other⟩ := Message.decode_encode_frame_kind read
    cases other
  · rfl

end Source

/-! ### Rounds -/

theorem isEndOfStream_of_mem_round {sources : List Source} {e : Envelope} (h : e ∈ endOfStreamRound sources) :
    e.isEndOfStream = true ∧ e.isShutdown = false := by
  obtain ⟨s, -, rfl⟩ := List.mem_map.1 h
  exact ⟨s.isEndOfStream_endOfStream, s.isShutdown_endOfStream⟩

theorem isShutdown_of_shutdownEnvelope? {token : Option String} {sources : List Source} {e : Envelope}
    (h : shutdownEnvelope? token sources = some e) : e.isShutdown = true ∧ e.isEndOfStream = false := by
  unfold shutdownEnvelope? at h
  split at h
  · cases h
    exact ⟨Source.isShutdown_shutdown _ _, Source.isEndOfStream_shutdown _ _⟩
  · cases h

/-- Nothing is left of a closing request without those that ask to shut down. -/
theorem filter_shutdownEnvelope? (token : Option String) (sources : List Source) :
    (shutdownEnvelope? token sources).toList.filter (!·.isShutdown) = [] := by
  apply List.filter_eq_nil_iff.2
  intro e he
  simp [(isShutdown_of_shutdownEnvelope? (Option.mem_toList.1 he)).1]

end FrameStream
