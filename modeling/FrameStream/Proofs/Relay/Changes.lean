import FrameStream.Proofs.Relay.Transform

/-!
# What operations change

A relay consists of its configuration, its sources, a tracker and the size in its format.  Whatever is done to it, and
whatever the sink refuses, it goes through one of five changes (`leaves_perform`), so that a property of all relays
that can be reached is looked at for these five and not for every operation.
-/

namespace FrameStream.Relay

/-- All that an operation can do to a relay. -/
inductive Change (r : Relay) : Relay → Prop where
  | started (sources : List Source) (made : r.config.sources = .ok sources) : Change r { r with sources }
  | stopped : Change r r.stopped
  | negotiated (format : StreamFormat) (caps : Caps)
      (made : StreamFormat.ofCaps caps r.config.framerate = .ok format) : Change r { r with
        initialSize := some (.initialSize format.width.toUInt64 format.height.toUInt64)
        tracker := r.tracker.setFormat format }
  | relocated (location : Option Path) (t : Tracker) (same : t.SameStream (r.tracker.setLocation location)) :
      Change r { r with config := { r.config with location }, tracker := t }
  /-- Only the segment and the metadata are others. -/
  | tracked (t : Tracker) (same : t.SameStream r.tracker) : Change r { r with tracker := t }

variable {r : Relay}

theorem Change.refl (r : Relay) : Change r r := .tracked r.tracker (.refl r.tracker)

/-! ### Single operations -/

private theorem leaves_start (r : Relay) : r.start.Leaves r.Change := by
  unfold start
  split
  · exact .refl r
  · rename_i sources made
    exact .started sources made

private theorem leaves_negotiate (r : Relay) (caps : Caps) : (r.negotiate caps).Leaves r.Change := by
  unfold negotiate
  split
  · exact .refl r
  · rename_i format made
    exact .negotiated format caps made

private theorem leaves_openFile (files : Files) (r : Relay) (location : Path) :
    (r.openFile files location).Leaves r.Change := by
  have opened := Change.relocated (r := r) (some location) _ (r.tracker.sameStream_onTag files location)
  unfold openFile
  apply Script.leaves_noteAll
  split <;> exact opened

private theorem leaves_endStream (r : Relay) : r.endStream.Leaves r.Change := by
  have finished := Change.tracked (r := r) r.tracker.finish.tracker ⟨rfl, rfl, rfl, rfl⟩
  unfold endStream
  split
  · exact .refl r
  · apply Script.leaves_pushAll (Script.leaves_sinkClosed (Change.refl r))
    apply Script.leaves_noteAll
    exact Script.leaves_pushAll finished finished

theorem leaves_emit {P : Relay → Prop} (p : Picture) (b : Buffer) (stop : P r)
    (sent : P { r with tracker := r.tracker.frameEmitted }) : (r.emit p b).Leaves P := by
  unfold emit
  dsimp only
  split
  · exact stop
  · exact Script.leaves_pushAll stop sent

private theorem leaves_build (initialSize : Transformation) (b : Buffer) (t : Tracker)
    (same : t.SameStream r.tracker) : ({ r with tracker := t : Relay }.build initialSize b).Leaves r.Change := by
  have entered : r.Change { r with tracker := t } := .tracked t same
  have taken := t.sameStream_nextRecord.trans same
  unfold build
  split
  · exact entered
  · split
    · exact .tracked _ taken
    · exact leaves_emit _ b (Change.tracked _ taken)
        (Change.tracked _ (t.nextRecord.2.sameStream_frameEmitted.trans taken))

private theorem leaves_transform (files : Files) (r : Relay) (b : Buffer) :
    (r.transform files b).Leaves r.Change := by
  by_cases checks : r.isStarted = false ∨ r.initialSize = none
  · obtain ⟨f, done⟩ := transform_of_refused files b checks
    rw [done]
    exact Change.refl r
  · rw [not_or, Bool.not_eq_false] at checks
    obtain ⟨initialSize, negotiated⟩ := Option.ne_none_iff_exists'.1 checks.2
    have prepared := r.tracker.sameStream_prepare files
    have entered := (r.tracker.sameStream_enter (r.tracker.prepare files).tracker).trans prepared
    rw [transform_eq files b checks.1 negotiated]
    apply Script.leaves_noteAll
    apply Script.leaves_pushAll (Script.leaves_sinkClosed (Change.tracked _ prepared))
    split
    · exact .tracked _ entered
    · exact leaves_build initialSize b _ entered

/-! ### All operations -/

theorem leaves_perform (files : Files) (r : Relay) (o : Operation) : (r.perform files o).Leaves r.Change := by
  cases o with
  | start => exact Script.leaves_map _ (leaves_start r)
  | stop => exact .stopped
  | negotiate caps => exact Script.leaves_map _ (leaves_negotiate r caps)
  | relocate location => exact .relocated location _ (.refl _)
  | handle e =>
    apply Script.leaves_map
    match e with
    | .caps caps => exact leaves_negotiate r caps
    | .tag (some location) => exact leaves_openFile files r (.ofText location)
    | .tag none => exact Change.refl r
    | .endOfStream => exact leaves_endStream r
  | transform b => exact Script.leaves_map _ (leaves_transform files r b)

end FrameStream.Relay
