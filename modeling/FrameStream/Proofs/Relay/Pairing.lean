import FrameStream.Proofs.Relay.Steps
import FrameStream.Proofs.Sidecar.Records

/-!
# Which record goes with which frame

Records are loaded when a file is opened, at a boundary, and before a frame if the location changed in silence; a load
that would give the same again is left out.  What ties frames and records together is the last load and the number of
frames built since (`PairedAt`): the next frame takes the record of that number, if there is one.  This holds along
every run without a stop (`paired_reached`), whatever the sink refuses and however the files change, so that every
frame carries the objects of its own record or none (`objects_of_reached`).
-/

namespace FrameStream.Relay

/-! ### Loads and frames in a history -/

/-- Records were asked for beside the file at a location, with the files as they were then. -/
structure Load where
  location : Option Path
  files : Files

def Load.records (l : Load) : List FrameMetadata := Sidecar.recordsAt l.files l.location

namespace Moment

/-- The load that replaces the records at this moment.  Records for the same location of which none was used yet are
not replaced. -/
def load? (m : Moment) : Option Load :=
  let t := m.before.tracker
  match m.step.operation with
  | .handle (.tag (some location)) =>
    if (t.setLocation (some (.ofText location))).isFresh then none
    else some ⟨some (.ofText location), m.step.files⟩
  | .transform _ =>
    if m.admitted && (t.boundary || (t.readMetadata && !sameLocation t.loadedFor.join t.location)) && !t.isFresh
    then some ⟨t.location, m.step.files⟩
    else none
  | _ => none

/-- The frames that are handed over. -/
def frames (m : Moment) : List Envelope := m.handed.filter fun e => !e.isEndOfStream

/-- Frames are built for a buffer, whether or not the sink takes them. -/
def builds (m : Moment) : Bool := m.step.operation.isTransform && !m.frames.isEmpty

/-- The frames carry the given objects: they are the first of one frame for each source, and all of them if none was
refused. -/
def Carries (m : Moment) (objects : List FrameObject) : Prop :=
  ∃ (frame : Source → Frame) (timing : Timing) (content : Option Bytes),
    (∀ s, (frame s).sourceId = s.id ∧ (frame s).objects = objects) ∧
      m.frames <+: m.before.sources.map (fun s => s.bufferEnvelope (.frame (frame s)) timing content) ∧
      (m.succeeded → m.frames = m.before.sources.map fun s => s.bufferEnvelope (.frame (frame s)) timing content)

/-- Every envelope of frames that carry objects is that of a source and holds a frame with these objects. -/
theorem Carries.holds {m : Moment} {objects : List FrameObject} (carried : m.Carries objects) {e : Envelope}
    (sent : e ∈ m.frames) :
    ∃ s ∈ m.before.sources, ∃ f content, e.Holds s f content ∧ f.sourceId = s.id ∧ f.objects = objects := by
  obtain ⟨frame, timing, content, own, front, -⟩ := carried
  obtain ⟨s, there, rfl⟩ := List.mem_map.1 (front.subset sent)
  exact ⟨s, there, frame s, content, s.holds_bufferEnvelope _ _ _, (own s).1, (own s).2⟩

end Moment

def lastLoad (past : List Moment) : Option Load := past.findSome? Moment.load?

/-- How often frames were built since the last load. -/
def builtSince : List Moment → Nat
  | [] => 0
  | m :: past => (if m.load?.isSome then 0 else builtSince past) + (if m.builds then 1 else 0)

/-! ### The tie -/

/-- The tracker holds the records of a load, and as many of them are used as there were frames, if there are that
many. -/
structure PairedAt (load : Option Load) (built : Nat) (t : Tracker) : Prop where
  loadedFor : t.loadedFor = load.map Load.location
  records : t.records.getD [] = (load.map Load.records).getD []
  frameIndex : t.frameIndex = min built (t.records.getD []).length

variable {c : Config} {r : Relay} {t : Tracker} {past : List Moment} {m : Moment}

theorem pairedAt_ofConfig (made : ofConfig c = .ok r) : PairedAt none 0 r.tracker := by
  unfold ofConfig at made
  split at made
  · cases made
  · cases made
    exact ⟨rfl, rfl, rfl⟩

/-- A load that is not left out. -/
theorem pairedAt_reload (files : Files) (reads : t.readMetadata = true) (stale : t.isFresh = false) :
    PairedAt (some ⟨t.location, files⟩) 0 (t.reload files).tracker := by
  unfold Tracker.reload
  rw [if_neg (by simp [stale])]
  dsimp only
  cases there : t.location with
  | none =>
    rw [reads]
    exact ⟨rfl, rfl, (Nat.zero_min _).symm⟩
  | some location =>
    have found := Sidecar.recordsAt_eq files location
    rw [reads]
    dsimp only
    cases loaded : Sidecar.load files location.sidecar with
    | error f =>
      rw [loaded] at found
      exact ⟨rfl, found.symm, (Nat.zero_min _).symm⟩
    | ok records =>
      rw [loaded] at found
      cases records with
      | none => exact ⟨rfl, found.symm, (Nat.zero_min _).symm⟩
      | some records => exact ⟨rfl, found.symm, (Nat.zero_min _).symm⟩

/-- The next record is that of the number of the frame. -/
private theorem pairedAt_nextRecord {load : Option Load} {built : Nat} (reads : t.readMetadata = true)
    (paired : PairedAt load built t) :
    t.nextRecord.1 = ((load.map Load.records).getD [])[built]? ∧ PairedAt load (built + 1) t.nextRecord.2 := by
  rw [← paired.records]
  unfold Tracker.nextRecord
  rw [reads, if_pos rfl, paired.frameIndex]
  by_cases more : built < (t.records.getD []).length
  · rw [Nat.min_eq_left (by omega), List.getElem?_eq_getElem more]
    refine ⟨rfl, paired.loadedFor, paired.records, ?_⟩
    exact (Nat.min_eq_left more).symm
  · rw [Nat.min_eq_right (by omega), List.getElem?_eq_none (by omega), List.getElem?_eq_none (by omega)]
    refine ⟨rfl, paired.loadedFor, paired.records, ?_⟩
    change t.frameIndex = min (built + 1) (t.records.getD []).length
    rw [paired.frameIndex]
    omega

/-! ### Quiet steps and the end of the stream -/

/-- Without a load and without frames nothing changes. -/
private theorem lastLoad_of_none (load : m.load? = none) : lastLoad (m :: past) = lastLoad past := by
  rw [lastLoad, List.findSome?_cons, load]
  rfl

private theorem lastLoad_of_some {load : Load} (loads : m.load? = some load) :
    lastLoad (m :: past) = some load := by
  rw [lastLoad, List.findSome?_cons, loads]

theorem load?_of_refused (unopened : m.opensFile = false) (refused : m.admitted = false) :
    m.load? = none := by
  unfold Moment.load?
  dsimp only
  split
  · rename_i location h
    rw [Moment.opensFile, h] at unopened
    cases unopened
  · rw [refused]
    rfl
  · rfl

private theorem paired_quiet (kept : m.before.IsOf c) (reads : c.readMetadata = true)
    (paired : PairedAt (lastLoad past) (builtSince past) m.before.tracker) (stays : m.step.operation ≠ .stop)
    (refused : m.admitted = false) (midway : m.atEnd = false) :
    m.builds = false ∧
      PairedAt (lastLoad (m :: past)) (if m.load?.isSome then 0 else builtSince past) m.after.tracker := by
  obtain ⟨handed, -, -, change⟩ := Moment.quiet_cases stays refused midway
  have builds : m.builds = false := by
    rw [Moment.builds, Moment.frames, handed]
    exact Bool.and_false _
  refine ⟨builds, ?_⟩
  cases change with
  | opened location h tracker =>
    have loads : m.load? = if (m.before.tracker.setLocation (some (.ofText location))).isFresh then none
        else some ⟨some (.ofText location), m.step.files⟩ := by
      rw [Moment.load?, h]
    rw [tracker]
    cases fresh : (m.before.tracker.setLocation (some (.ofText location))).isFresh with
    | true =>
      have none_made : m.load? = none := by
        rw [loads, fresh]
        rfl
      have opened : ({ m.before.tracker with location := some (.ofText location), reopened := true } :
          Tracker).isFresh := fresh
      rw [lastLoad_of_none none_made, none_made, Tracker.onTag, Tracker.reload_of_isFresh m.step.files opened]
      exact ⟨paired.loadedFor, paired.records, paired.frameIndex⟩
    | false =>
      have made : m.load? = some ⟨some (.ofText location), m.step.files⟩ := by
        rw [loads, fresh]
        rfl
      rw [lastLoad_of_some made, made]
      exact pairedAt_reload (t := { m.before.tracker with location := some (.ofText location), reopened := true })
        m.step.files (kept.readMetadata.trans reads) fresh
  | moved location h tracker =>
    have none_made : m.load? = none := by rw [Moment.load?, h]
    rw [lastLoad_of_none none_made, none_made, tracker]
    exact ⟨paired.loadedFor, paired.records, paired.frameIndex⟩
  | other unopened format tracker =>
    have none_made : m.load? = none := load?_of_refused unopened refused
    rw [lastLoad_of_none none_made, none_made, tracker]
    exact ⟨paired.loadedFor, paired.records, paired.frameIndex⟩

private theorem paired_atEnd (paired : PairedAt (lastLoad past) (builtSince past) m.before.tracker)
    (ending : m.atEnd) :
    m.builds = false ∧
      PairedAt (lastLoad (m :: past)) (if m.load?.isSome then 0 else builtSince past) m.after.tracker := by
  have asked : m.step.operation = .handle .endOfStream := Moment.asked_of_atEnd ending
  have builds : m.builds = false := by
    rw [Moment.builds, asked]
    rfl
  have none_made : m.load? = none := by rw [Moment.load?, asked]
  refine ⟨builds, ?_⟩
  rw [lastLoad_of_none none_made, none_made]
  rcases Moment.atEnd_tracker ending with tracker | tracker
  · rw [tracker]
    exact paired
  · rw [tracker]
    exact ⟨paired.loadedFor, paired.records, paired.frameIndex⟩

/-! ### Admitted buffers -/

private theorem load?_admitted {b : Buffer} (asked : m.step.operation = .transform b) (passes : m.admitted = true)
    (reads : m.before.tracker.readMetadata = true) :
    m.load? = if (m.before.tracker.boundary ||
        !sameLocation m.before.tracker.loadedFor.join m.before.tracker.location) && !m.before.tracker.isFresh
      then some ⟨m.before.tracker.location, m.step.files⟩ else none := by
  unfold Moment.load?
  rw [asked]
  dsimp only
  rw [passes, reads, Bool.true_and, Bool.true_and]

/-- When the frames are built the records are in place. -/
private theorem paired_prepared {b : Buffer} (asked : m.step.operation = .transform b) (kept : m.before.IsOf c)
    (reads : c.readMetadata = true) (paired : PairedAt (lastLoad past) (builtSince past) m.before.tracker)
    (passes : m.admitted = true) :
    PairedAt (lastLoad (m :: past)) (if m.load?.isSome then 0 else builtSince past) m.prepared.tracker := by
  have reads : m.before.tracker.readMetadata = true := kept.readMetadata.trans reads
  have loads := load?_admitted asked passes reads
  have unchanged : PairedAt (lastLoad past) (builtSince past) m.before.tracker.advance :=
    ⟨paired.loadedFor, paired.records, paired.frameIndex⟩
  have fresh_advance : m.before.tracker.advance.isFresh = m.before.tracker.isFresh := rfl
  have reloaded (files : Files) (stale : m.before.tracker.isFresh = false) :=
    pairedAt_reload (t := m.before.tracker.advance) files reads stale
  unfold Moment.prepared Tracker.prepare
  cases boundary : m.before.tracker.boundary with
  | true =>
    rw [if_pos rfl]
    rw [boundary, Bool.true_or, Bool.true_and] at loads
    cases fresh : m.before.tracker.isFresh with
    | true =>
      rw [fresh] at loads
      rw [lastLoad_of_none loads, loads, Tracker.reload_of_isFresh m.step.files (fresh_advance.trans fresh)]
      exact unchanged
    | false =>
      rw [fresh] at loads
      rw [lastLoad_of_some loads, loads]
      exact reloaded m.step.files fresh
  | false =>
    rw [if_neg Bool.false_ne_true]
    rw [boundary, Bool.false_or] at loads
    cases same : sameLocation m.before.tracker.loadedFor.join m.before.tracker.location with
    | true =>
      have there : sameLocation m.before.tracker.advance.loadedFor.join m.before.tracker.advance.location := same
      rw [same] at loads
      rw [lastLoad_of_none loads, loads, Tracker.ensureLoaded_of_sameLocation m.step.files there]
      exact unchanged
    | false =>
      -- records for another location are never fresh
      have stale : m.before.tracker.isFresh = false := by
        by_contra fresh
        have there := Tracker.sameLocation_of_isFresh (Bool.not_eq_false _ ▸ fresh)
        rw [same] at there
        cases there
      rw [same, stale] at loads
      have elsewhere : ¬ sameLocation m.before.tracker.advance.loadedFor.join m.before.tracker.advance.location := by
        change ¬ sameLocation m.before.tracker.loadedFor.join m.before.tracker.location
        rw [same]
        exact Bool.false_ne_true
      have reading : m.before.tracker.advance.readMetadata = true := reads
      have looks : m.before.tracker.advance.ensureLoaded m.step.files =
          m.before.tracker.advance.reload m.step.files := by
        rw [Tracker.ensureLoaded, if_pos (by simp [reading, elsewhere])]
      rw [lastLoad_of_some loads, loads, looks]
      exact reloaded m.step.files stale

theorem frames_round (m : Moment) (n : Nat) :
    m.round.filter (fun e => !e.isEndOfStream) = [] ∧ (m.round.take n).filter (fun e => !e.isEndOfStream) = [] := by
  have ends : ∀ e ∈ m.round, e.isEndOfStream = true := fun e he => (Moment.ends_of_mem_round he).1
  refine ⟨?_, ?_⟩
  · exact List.filter_eq_nil_iff.2 fun e he => by simp [ends e he]
  · exact List.filter_eq_nil_iff.2 fun e he => by simp [ends e (List.mem_of_mem_take he)]

/-- Either no frame is built and no record is used, or frames are built with the next record. -/
theorem frames_cases (kept : m.before.IsOf c) (passes : m.admitted = true) :
    (m.builds = false ∧ (m.after.tracker = m.prepared.tracker ∨ m.after.tracker = m.entered.tracker)) ∨
    (m.builds = true ∧
      (∃ p b, p.metadata = m.entered.tracker.nextRecord.1 ∧ m.frames <+: m.entered.fanOut p b ∧
        (m.succeeded → m.frames = m.entered.fanOut p b)) ∧
      (m.after.tracker = m.entered.tracker.nextRecord.2 ∨
        m.after.tracker = m.entered.tracker.nextRecord.2.frameEmitted)) := by
  obtain ⟨b, asked, passage⟩ := Moment.passage_of_admitted kept passes
  have asks : m.step.operation.isTransform = true := by
    rw [asked]
    rfl
  have some_source : m.before.sources ≠ [] := by
    simp only [Moment.admitted, Bool.and_eq_true] at passes
    simpa [isStarted] using passes.1.2
  have plain (p : Picture) : ∀ e ∈ m.entered.fanOut p b, (!e.isEndOfStream) = true :=
    fun e he => by simp [(frame_of_mem_fanOut he).1]
  have some_frame (p : Picture) : m.entered.fanOut p b ≠ [] := by
    unfold fanOut
    exact fun h => some_source (List.map_eq_nil_iff.1 h)
  cases passage with
  | interrupted shut n handed fails tracker =>
    left
    refine ⟨?_, .inl tracker⟩
    rw [Moment.builds, Moment.frames, handed, (frames_round m _).2]
    exact Bool.and_false _
  | refused handed emitted fails tracker =>
    left
    refine ⟨?_, .inr tracker⟩
    rw [Moment.builds, Moment.frames, handed, (frames_round m 0).1]
    exact Bool.and_false _
  | broken shut p shown n handed fails tracker =>
    have frames : m.frames = (m.entered.fanOut p b).take (n + 1) := by
      rw [Moment.frames, handed, List.filter_append, (frames_round m 0).1, List.nil_append,
        List.filter_eq_self.2 fun e he => plain p e (List.mem_of_mem_take he)]
    right
    refine ⟨?_, ⟨p, b, shown.metadata, frames ▸ List.take_prefix _ _, ?_⟩, .inl tracker⟩
    · obtain ⟨e, others, whole⟩ := List.exists_cons_of_ne_nil (some_frame p)
      rw [Moment.builds, asks, frames, whole]
      rfl
    · intro succeeds
      rw [fails] at succeeds
      cases succeeds
  | sent p shown handed emitted succeeds tracker =>
    have frames : m.frames = m.entered.fanOut p b := by
      rw [Moment.frames, handed, List.filter_append, (frames_round m 0).1, List.nil_append,
        List.filter_eq_self.2 (plain p)]
    right
    refine ⟨?_, ⟨p, b, shown.metadata, frames ▸ List.prefix_refl _, fun _ => frames⟩, .inr tracker⟩
    obtain ⟨e, others, whole⟩ := List.exists_cons_of_ne_nil (some_frame p)
    rw [Moment.builds, asks, frames, whole]
    rfl

/-! ### Whole runs -/

private theorem pairedAt_entered {b : Buffer} (asked : m.step.operation = .transform b) (kept : m.before.IsOf c)
    (reads : c.readMetadata = true) (paired : PairedAt (lastLoad past) (builtSince past) m.before.tracker)
    (passes : m.admitted = true) :
    PairedAt (lastLoad (m :: past)) (if m.load?.isSome then 0 else builtSince past) m.entered.tracker := by
  have prepared := paired_prepared asked kept reads paired passes
  have entered : m.entered.tracker = m.prepared.tracker.endSegment ∨ m.entered.tracker = m.prepared.tracker := by
    change m.before.tracker.enter m.prepared.tracker = _ ∨ m.before.tracker.enter m.prepared.tracker = _
    unfold Tracker.enter
    cases m.before.tracker.boundary
    · exact .inr rfl
    · exact .inl rfl
  rcases entered with ended | same
  · rw [ended]
    exact ⟨prepared.loadedFor, prepared.records, prepared.frameIndex⟩
  · rw [same]
    exact prepared

private theorem asked_of_admitted (passes : m.admitted = true) : ∃ b, m.step.operation = .transform b := by
  simp only [Moment.admitted, Bool.and_eq_true] at passes
  exact Operation.exists_buffer passes.1.1

theorem pairedAt_after (kept : m.before.IsOf c) (reads : c.readMetadata = true) (stays : m.step.operation ≠ .stop)
    (paired : PairedAt (lastLoad past) (builtSince past) m.before.tracker) :
    PairedAt (lastLoad (m :: past)) (builtSince (m :: past)) m.after.tracker := by
  rw [builtSince]
  cases passes : m.admitted with
  | true =>
    obtain ⟨b, asked⟩ := asked_of_admitted passes
    have prepared := paired_prepared asked kept reads paired passes
    have entered := pairedAt_entered asked kept reads paired passes
    have reading : m.entered.tracker.readMetadata = true :=
      m.sameStream_entered.readMetadata.trans (kept.readMetadata.trans reads)
    rcases frames_cases kept passes with ⟨builds, tracker | tracker⟩ | ⟨builds, -, tracker | tracker⟩
    · rw [builds, tracker]
      exact prepared
    · rw [builds, tracker]
      exact entered
    · rw [builds, tracker]
      exact (pairedAt_nextRecord reading entered).2
    · have taken := (pairedAt_nextRecord reading entered).2
      rw [builds, tracker]
      exact ⟨taken.loadedFor, taken.records, taken.frameIndex⟩
  | false =>
    cases ending : m.atEnd with
    | true =>
      obtain ⟨builds, after⟩ := paired_atEnd paired ending
      rw [builds]
      exact after
    | false =>
      obtain ⟨builds, after⟩ := paired_quiet kept reads paired stays passes ending
      rw [builds]
      exact after

/-- Along a run without a stop, frames and records stay tied by the last load. -/
theorem paired_reached (made : ofConfig c = .ok r) (reads : c.readMetadata = true) {steps : List Step}
    (stays : ∀ s ∈ steps, s.operation ≠ .stop) :
    PairedAt (lastLoad (r.history steps)) (builtSince (r.history steps)) (r.reached steps).tracker := by
  induction steps with
  | nil => exact pairedAt_ofConfig made
  | cons step past ih =>
    rw [List.forall_mem_cons] at stays
    exact pairedAt_after (m := ⟨r.reached past, step⟩) (isOf_reached (isOf_ofConfig made) past) reads stays.1
      (ih stays.2)

private theorem admitted_of_builds (kept : m.before.IsOf c) (reads : c.readMetadata = true)
    (stays : m.step.operation ≠ .stop) (paired : PairedAt (lastLoad past) (builtSince past) m.before.tracker)
    (builds : m.builds = true) : m.admitted = true := by
  cases passes : m.admitted with
  | true => rfl
  | false =>
    have idle : m.builds = false := by
      cases ending : m.atEnd with
      | true => exact (paired_atEnd paired ending).1
      | false => exact (paired_quiet kept reads paired stays passes ending).1
    rw [builds] at idle
    cases idle

/-- The record for a frame, seen from the last load. -/
private theorem recordOf_lastLoad {load : Option Load} {built : Nat} (paired : PairedAt load built t)
    {location : Option Path} (same : sameLocation t.loadedFor.join location) :
    (location = none → (load.map Load.records).getD [] = []) ∧
      ∀ l, location = some l → ∃ loaded, load = some loaded ∧ sameLocation loaded.location (some l) := by
  have loadedFor := paired.loadedFor
  cases load with
  | none =>
    rw [loadedFor] at same
    refine ⟨fun _ => rfl, ?_⟩
    rintro l rfl
    cases same
  | some load =>
    rw [loadedFor] at same
    refine ⟨?_, ?_⟩
    · rintro rfl
      have nowhere : load.location = none := sameLocation_none_left (sameLocation_symm same)
      change Sidecar.recordsAt load.files load.location = []
      rw [nowhere]
      rfl
    · rintro l rfl
      exact ⟨load, rfl, same⟩

/-- The frames of a buffer carry the objects of one record, or none. -/
private theorem carries_of_builds (kept : m.before.IsOf c) (reads : c.readMetadata = true)
    (stays : m.step.operation ≠ .stop) (paired : PairedAt (lastLoad past) (builtSince past) m.before.tracker)
    (builds : m.builds = true) :
    ∃ objects, m.Carries objects ∧ (m.before.location? = none → objects = []) ∧
      ∀ location, m.before.location? = some location → ∃ load j,
        lastLoad (m :: past) = some load ∧ sameLocation load.location (some location) ∧
          builtSince (m :: past) = j + 1 ∧ objects = (load.records[j]?.map FrameMetadata.objects).getD [] ∧
          m.after.tracker.frameIndex = min (j + 1) load.records.length := by
  have after := pairedAt_after kept reads stays paired
  have passes := admitted_of_builds kept reads stays paired builds
  obtain ⟨b, asked⟩ := asked_of_admitted passes
  have entered := pairedAt_entered asked kept reads paired passes
  have reading : m.entered.tracker.readMetadata = true :=
    m.sameStream_entered.readMetadata.trans (kept.readMetadata.trans reads)
  have built : builtSince (m :: past) = (if m.load?.isSome then 0 else builtSince past) + 1 := by
    rw [builtSince, builds]
    rfl
  have place : sameLocation m.entered.tracker.loadedFor.join m.before.location? := by
    rw [entered.loadedFor, ← (paired_prepared asked kept reads paired passes).loadedFor]
    exact Tracker.sameLocation_prepare m.step.files (kept.readMetadata.trans reads)
  obtain ⟨nowhere, somewhere⟩ := recordOf_lastLoad entered place
  have record := (pairedAt_nextRecord reading entered).1
  rcases frames_cases kept passes with ⟨idle, -⟩ | ⟨-, ⟨p, b, metadata, front, whole⟩, -⟩
  · rw [builds] at idle
    cases idle
  refine ⟨(p.metadata.map FrameMetadata.objects).getD [], ?_, ?_, ?_⟩
  · exact ⟨fun s => p.frame s.id, p.timing, _, fun s => ⟨p.sourceId_frame s.id, p.objects_frame s.id⟩, front, whole⟩
  · intro unknown
    rw [metadata, record, nowhere unknown]
    rfl
  · intro location known
    obtain ⟨load, last, same⟩ := somewhere location known
    refine ⟨load, _, last, same, built, ?_, ?_⟩
    · rw [metadata, record, last]
      rfl
    · rw [after.frameIndex, built, after.records]
      rw [last]
      rfl

/-- Without a load the records stay. -/
private theorem records_after (kept : m.before.IsOf c) (reads : c.readMetadata = true)
    (stays : m.step.operation ≠ .stop) (paired : PairedAt (lastLoad past) (builtSince past) m.before.tracker)
    (unloaded : m.load? = none) : m.after.tracker.records.getD [] = m.before.tracker.records.getD [] := by
  rw [(pairedAt_after kept reads stays paired).records, paired.records, lastLoad_of_none unloaded]

/-- Without frames no record is used. -/
private theorem frameIndex_of_idle (kept : m.before.IsOf c) (reads : c.readMetadata = true)
    (stays : m.step.operation ≠ .stop) (paired : PairedAt (lastLoad past) (builtSince past) m.before.tracker)
    (idle : m.builds = false) :
    m.after.tracker.frameIndex = if m.load?.isSome then 0 else m.before.tracker.frameIndex := by
  have built : builtSince (m :: past) = if m.load?.isSome then 0 else builtSince past := by
    rw [builtSince, idle]
    rfl
  rw [(pairedAt_after kept reads stays paired).frameIndex, built]
  cases unloaded : m.load? with
  | some load => exact Nat.zero_min _
  | none =>
    rw [records_after kept reads stays paired unloaded]
    exact paired.frameIndex.symm

/-- Without a load no record is given back. -/
private theorem frameIndex_le_after (kept : m.before.IsOf c) (reads : c.readMetadata = true)
    (stays : m.step.operation ≠ .stop) (paired : PairedAt (lastLoad past) (builtSince past) m.before.tracker)
    (unloaded : m.load? = none) : m.before.tracker.frameIndex ≤ m.after.tracker.frameIndex := by
  have built : builtSince past ≤ builtSince (m :: past) := by
    rw [builtSince, unloaded]
    exact Nat.le_add_right _ _
  rw [(pairedAt_after kept reads stays paired).frameIndex, paired.frameIndex,
    records_after kept reads stays paired unloaded]
  omega

/-- Every frame carries the objects of its record, or none. -/
theorem objects_of_reached (made : ofConfig c = .ok r) (reads : c.readMetadata = true) {past : List Step}
    (next : Step) (stays : ∀ s ∈ next :: past, s.operation ≠ .stop) :
    let m : Moment := ⟨r.reached past, next⟩
    let history := m :: r.history past
    (m.builds → ∃ objects, m.Carries objects ∧ (m.before.location? = none → objects = []) ∧
      ∀ location, m.before.location? = some location → ∃ load j,
        lastLoad history = some load ∧ sameLocation load.location (some location) ∧ builtSince history = j + 1 ∧
          objects = (load.records[j]?.map FrameMetadata.objects).getD [] ∧
          m.after.tracker.frameIndex = min (j + 1) load.records.length) ∧
    (m.builds = false →
      m.after.tracker.frameIndex = if m.load?.isSome then 0 else m.before.tracker.frameIndex) ∧
    (m.load? = none → m.before.tracker.frameIndex ≤ m.after.tracker.frameIndex) := by
  intro m history
  rw [List.forall_mem_cons] at stays
  have kept : m.before.IsOf c := isOf_reached (isOf_ofConfig made) past
  have paired : PairedAt (lastLoad (r.history past)) (builtSince (r.history past)) m.before.tracker :=
    paired_reached made reads stays.2
  refine ⟨?_, ?_, ?_⟩
  · exact carries_of_builds kept reads stays.1 paired
  · exact frameIndex_of_idle kept reads stays.1 paired
  · exact frameIndex_le_after kept reads stays.1 paired

/-- Two records beside `a.mp4`, the second one with an object. -/
def recordingFiles : Files := {
  files := [([Utf8.encode "a.json"], Utf8.encode
    ("\x7b\"objects\":[]\x7d\n\x7b\"objects\":[\x7b\"model_name\":\"m\",\"label\":\"car\",\"object_id\":1," ++
      "\"bbox\":\x7b\"xc\":1,\"yc\":2.5,\"width\":3,\"height\":4\x7d\x7d]\x7d"))] }

/-- The file was opened, and one frame of it went out. -/
def firstFrame : List Step := [
  { operation := .transform {}, files := recordingFiles },
  { operation := .handle (.tag (some "a.mp4")), files := recordingFiles },
  { operation := .negotiate { name := "video/x-h264", width := some 640, height := some 480 } },
  { operation := .start }]

/-- The second frame carries the object of the second record, though the sidecar is gone by then. -/
theorem objects_secondFrame :
    let m : Moment := ⟨recordingRelay.reached firstFrame, { operation := .transform {} }⟩
    ∃ objects, m.Carries objects ∧ objects.map FrameObject.label = ["car"] ∧ m.after.tracker.frameIndex = 2 := by
  intro m
  have stays : ∀ s ∈ { operation := .transform {} } :: firstFrame, s.operation ≠ .stop := by
    simp [firstFrame]
  obtain ⟨location, builds, second, labels⟩ : m.before.location? = some (.ofText "a.mp4") ∧ m.builds = true ∧
      builtSince (m :: recordingRelay.history firstFrame) = 2 ∧
      (lastLoad (m :: recordingRelay.history firstFrame)).map (fun load =>
        (load.records.length, ((load.records[1]?.map FrameMetadata.objects).getD []).map FrameObject.label)) =
          some (2, ["car"]) := by decide +kernel
  obtain ⟨carried, -, -⟩ := objects_of_reached ofConfig_recordingConfig rfl { operation := .transform {} } stays
  obtain ⟨objects, carries, -, found⟩ := carried builds
  obtain ⟨load, j, last, -, built, rfl, used⟩ := found _ location
  obtain rfl : j = 1 := by
    rw [second] at built
    omega
  rw [last, Option.map_some, Option.some.injEq, Prod.mk.injEq] at labels
  refine ⟨_, carries, labels.2, ?_⟩
  rw [used, labels.1]
  rfl

end FrameStream.Relay
