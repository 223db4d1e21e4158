import FrameStream.Proofs.Relay.Steps
import FrameStream.Proofs.Sidecar.Values

/-!
# Frames read back by the consumer

The relay hands over every frame it builds, but not every frame can be read back.  Which ones are depends on the
objects alone, and of these only on their floating-point numbers and on how deep the values of their attributes are
nested (`decode_of_reached`): a sidecar may hold a number beyond single precision, which is written as nothing, a
number of double precision that is read back as one next to it, and a value that fits into a record but not into a
message, where more stands around it.
-/

namespace FrameStream

/-- The attribute with the location is read back in any case. -/
theorem Picture.isPortable_frame {p : Picture} {sourceId : String} :
    (p.frame sourceId).IsPortable ↔ ∀ o ∈ (p.frame sourceId).objects, o.IsPortable 117 := by
  have own : ∀ a ∈ (p.frame sourceId).attributes, a.IsPortable 119 := by
    rw [p.attributes_frame]
    intro a ha
    obtain ⟨location, -, rfl⟩ := Option.map_eq_some_iff.1 (Option.mem_toList.1 ha)
    intro v hv
    obtain rfl : v = .ofText location.display := List.mem_singleton.1 hv
    exact ⟨⟨trivial, List.forall_mem_nil _, Nat.zero_le _⟩, fun x hx => absurd hx (Option.not_mem_none x)⟩
  exact and_iff_left own

/-! ### The records in the tracker -/

namespace Tracker

/-- All records there are ordered. -/
def IsOrdered (t : Tracker) : Prop := ∀ m ∈ t.records.getD [], m.IsOrdered

theorem isOrdered_reload (files : Files) {t : Tracker} (ordered : t.IsOrdered) :
    (t.reload files).tracker.IsOrdered := by
  have cleared : ∀ m ∈ (none : Option (List FrameMetadata)).getD [], m.IsOrdered := nofun
  unfold reload
  split
  · exact ordered
  · dsimp only
    split
    · split
      · exact cleared
      · exact cleared
      · rename_i loaded
        exact Sidecar.isOrdered_of_load loaded
    · exact cleared

theorem isOrdered_prepare (files : Files) {t : Tracker} (ordered : t.IsOrdered) :
    (t.prepare files).tracker.IsOrdered := by
  have advanced : t.advance.IsOrdered := ordered
  unfold prepare
  split
  · exact isOrdered_reload files advanced
  · unfold ensureLoaded
    split
    · exact isOrdered_reload files advanced
    · exact advanced

theorem isOrdered_enter {t prepared : Tracker} (ordered : prepared.IsOrdered) : (t.enter prepared).IsOrdered := by
  unfold enter
  split <;> exact ordered

theorem isOrdered_of_nextRecord {t : Tracker} (ordered : t.IsOrdered) : ∀ m ∈ t.nextRecord.1, m.IsOrdered := by
  unfold nextRecord
  split
  · split
    · rename_i record there
      intro m hm
      cases hm
      exact ordered record (List.mem_of_getElem? there)
    · exact nofun
  · exact nofun

end Tracker

namespace Relay

variable {c : Config} {r : Relay} {m : Moment}

theorem isOrdered_ofConfig (made : ofConfig c = .ok r) : r.tracker.IsOrdered := by
  unfold ofConfig at made
  split at made
  · cases made
  · cases made
    exact nofun

private theorem isOrdered_admitted (kept : m.before.IsOf c) (passes : m.admitted = true)
    (ordered : m.before.tracker.IsOrdered) : m.after.tracker.IsOrdered := by
  have prepared : m.prepared.tracker.IsOrdered := Tracker.isOrdered_prepare m.step.files ordered
  have entered : m.entered.tracker.IsOrdered := Tracker.isOrdered_enter prepared
  have taken : m.entered.recordTaken.tracker.IsOrdered := by
    obtain ⟨i, next⟩ := m.entered.tracker.nextRecord_eq
    change m.entered.tracker.nextRecord.2.IsOrdered
    rw [next]
    exact entered
  obtain ⟨b, -, passage⟩ := Moment.passage_of_admitted kept passes
  cases passage with
  | interrupted shut n handed fails tracker =>
    rw [tracker]
    exact prepared
  | refused handed emitted fails tracker =>
    rw [tracker]
    exact entered
  | broken shut p shown n handed fails tracker =>
    rw [tracker]
    exact taken
  | sent p shown handed emitted succeeds tracker =>
    rw [tracker]
    exact taken

private theorem isOrdered_quiet (stays : m.step.operation ≠ .stop) (refused : m.admitted = false)
    (midway : m.atEnd = false) (ordered : m.before.tracker.IsOrdered) : m.after.tracker.IsOrdered := by
  obtain ⟨-, -, -, change⟩ := Moment.quiet_cases stays refused midway
  cases change with
  | opened location h tracker =>
    rw [tracker]
    exact Tracker.isOrdered_reload (t := { m.before.tracker with location := _, reopened := true }) _ ordered
  | moved location h tracker =>
    rw [tracker]
    exact ordered
  | other h format tracker =>
    rw [tracker]
    exact ordered

theorem isOrdered_after (kept : m.before.IsOf c) (ordered : m.before.tracker.IsOrdered) :
    m.after.tracker.IsOrdered := by
  by_cases stops : m.step.operation = .stop
  · obtain ⟨before, operation, files, accepts⟩ := m
    cases stops
    exact nofun
  cases passes : m.admitted with
  | true => exact isOrdered_admitted kept passes ordered
  | false =>
    cases ending : m.atEnd with
    | true =>
      rcases Moment.atEnd_tracker ending with tracker | tracker
      · rw [tracker]
        exact ordered
      · rw [tracker]
        exact ordered
    | false => exact isOrdered_quiet stops passes ending ordered

theorem isOrdered_reached (made : ofConfig c = .ok r) (steps : List Step) : (r.reached steps).tracker.IsOrdered := by
  induction steps with
  | nil => exact isOrdered_ofConfig made
  | cons step past ih => exact isOrdered_after (isOf_reached (isOf_ofConfig made) past) ih

/-! ### The frames -/

/-- What is handed over for a buffer, and ends no stream, is a frame for one of the sources. -/
theorem depicted_of_mem_handed {b : Buffer} (kept : m.before.IsOf c) (asked : m.step.operation = .transform b)
    {e : Envelope} (he : e ∈ m.handed) (continues : e.isEndOfStream = false) :
    ∃ p, m.entered.Depicts b p ∧ e ∈ m.entered.fanOut p b := by
  have no_end : e ∉ m.round := by
    intro ends
    rw [(Moment.ends_of_mem_round ends).1] at continues
    cases continues
  rcases Moment.transform_cases kept asked with ⟨handed, -⟩ | passage
  · rw [handed] at he
    cases he
  · cases passage with
    | interrupted shut n handed fails tracker =>
      rw [handed] at he
      exact absurd (List.mem_of_mem_take he) no_end
    | refused handed emitted fails tracker =>
      rw [handed] at he
      exact absurd he no_end
    | broken shut p shown n handed fails tracker =>
      rw [handed, List.mem_append] at he
      exact ⟨p, shown, List.mem_of_mem_take (he.resolve_left no_end)⟩
    | sent p shown handed emitted succeeds tracker =>
      rw [handed, List.mem_append] at he
      exact ⟨p, shown, he.resolve_left no_end⟩

/-- A frame that is handed over is read back exactly if all numbers in its objects are portable, those of single
precision and those of double precision in the contents of attributes, and no value in them is nested more than 117
deep. -/
theorem decode_of_reached (made : ofConfig c = .ok r) (past : List Step) (b : Buffer) (files : Files)
    (accepts : Nat → Bool) :
    let m : Moment := ⟨r.reached past, { operation := .transform b, files, accepts }⟩
    ∀ e ∈ m.handed, e.isEndOfStream = false → ∃ p, ∃ s ∈ m.before.sources, m.entered.Depicts b p ∧
      e = s.bufferEnvelope (.frame (p.frame s.id)) p.timing (if p.content.isExternal then some b.data else none) ∧
      (e.decode = .ok (.frame (p.frame s.id)) ↔ ∀ o ∈ (p.frame s.id).objects,
        (∀ x ∈ o.numbers, x.IsPortable) ∧
          ∀ content ∈ o.contents, (∀ x ∈ content.floats, x.IsPortable) ∧ content.depth ≤ 117) := by
  intro m e he continues
  have kept : m.before.IsOf c := isOf_reached (isOf_ofConfig made) past
  obtain ⟨p, shown, framed⟩ := depicted_of_mem_handed kept rfl he continues
  obtain ⟨s, there, rfl⟩ := List.mem_map.1 framed
  have entered : m.entered.tracker.IsOrdered :=
    Tracker.isOrdered_enter (Tracker.isOrdered_prepare files (isOrdered_reached made past))
  -- the values come from a sidecar, so that their order is none of the conditions
  have ordered : ∀ o ∈ (p.frame s.id).objects, ∀ content ∈ o.contents, content.IsOrdered := by
    rw [p.objects_frame, shown.metadata]
    cases taken : m.entered.tracker.nextRecord.1 with
    | none => exact fun o ho => absurd ho List.not_mem_nil
    | some metadata => exact Tracker.isOrdered_of_nextRecord entered metadata taken
  refine ⟨p, s, there, shown, rfl, ?_⟩
  calc Envelope.decode _ = .ok (.frame (p.frame s.id))
    _ ↔ (p.frame s.id).IsPortable := Source.decode_frame
    _ ↔ ∀ o ∈ (p.frame s.id).objects, o.IsPortable 117 := Picture.isPortable_frame
    _ ↔ _ := forall₂_congr fun o ho => FrameObject.isPortable_iff (ordered o ho)

/-- A record beside `a.mp4`, with a box whose centre is beyond single precision. -/
def boxFiles : Files := {
  files := [([Utf8.encode "a.json"], Utf8.encode
    ("\x7b\"objects\":[\x7b\"model_name\":\"m\",\"label\":\"car\",\"object_id\":1," ++
      "\"bbox\":\x7b\"xc\":1e39,\"yc\":2.5,\"width\":3,\"height\":4\x7d\x7d]\x7d"))] }

def boxOpened : List Step := [
  { operation := .handle (.tag (some "a.mp4")), files := boxFiles },
  { operation := .negotiate { name := "video/x-h264", width := some 640, height := some 480 } },
  { operation := .start }]

/-- The frame with the box goes out, and is not read back. -/
theorem decode_boxOpened :
    let m : Moment := ⟨recordingRelay.reached boxOpened, { operation := .transform {} }⟩
    m.succeeded ∧ ∃ e ∈ m.handed, e.isEndOfStream = false ∧ ∃ p, ∃ s ∈ m.before.sources,
      m.entered.Depicts {} p ∧ e.payload = (Message.frame (p.frame s.id)).encode ∧
        e.decode ≠ .ok (.frame (p.frame s.id)) := by
  intro m
  obtain ⟨goes, ⟨e, he, continues⟩, unbounded⟩ : m.succeeded ∧ (∃ e ∈ m.handed, e.isEndOfStream = false) ∧
      ((m.entered.tracker.nextRecord.1.map FrameMetadata.objects).getD []).any fun o =>
        o.numbers.contains (.infinite false) := by decide +kernel
  obtain ⟨p, s, there, shown, same, readable⟩ :=
    decode_of_reached ofConfig_recordingConfig boxOpened {} {} (fun _ => true) e he continues
  refine ⟨goes, e, he, continues, p, s, there, shown, congrArg Envelope.payload same, fun read => ?_⟩
  obtain ⟨o, ho, found⟩ := List.any_eq_true.1 unbounded
  rw [← shown.metadata, ← p.objects_frame s.id] at ho
  exact (readable.1 read o ho).1 (.infinite false) (List.contains_iff_mem.1 found)

end Relay

end FrameStream
