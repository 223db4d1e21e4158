import FrameStream.Proofs.Tracker.Runs

/-!
# Records that were just loaded

Once records are loaded they are fresh until one of them is used or the location changes, where locations are compared
as paths.  Until then, whatever else is done and however the files change, nothing looks at the files again, nothing
fails, and the records stay as they are (`kept_of_loaded`).  So a file that is opened has its sidecar read once, and not
again at the boundary before its first frame.
-/

namespace FrameStream.Tracker

open Relay (Load)

/-- The action leaves a tracker at the location, and it takes no record. -/
def Action.staysAt (location : Option Path) : Action → Bool
  | .relocate other => sameLocation location other
  | .openFile other => sameLocation location (some other)
  | .nextRecord => false
  | _ => true

/-- The tracker has the records of a load, none of which was used, and is where they were loaded for. -/
structure Holds (load : Load) (records : Option (List FrameMetadata)) (t : Tracker) : Prop where
  records : t.records = records
  frameIndex : t.frameIndex = 0
  loadedFor : t.loadedFor = some load.location
  location : sameLocation load.location t.location

variable {load : Load} {records : Option (List FrameMetadata)} {t : Tracker} {m : Moment}

theorem holds_of_load? (loads : m.load? = some load) : Holds load m.after.records m.after := by
  have loaded := loaded_of_load? loads
  refine ⟨rfl, loaded.frameIndex, loaded.loadedFor, ?_⟩
  rw [loaded.location]
  exact sameLocation_refl _

theorem Holds.isFresh (h : Holds load records t) : t.isFresh = true := by
  unfold Tracker.isFresh
  rw [h.loadedFor]
  simp [h.frameIndex, h.location]

/-- An open file that is opened again is where it was. -/
theorem Holds.opened (h : Holds load records t) {location : Path}
    (same : sameLocation load.location (some location)) :
    Holds load records { t with location := some location, reopened := true } :=
  ⟨h.records, h.frameIndex, h.loadedFor, same⟩

/-- What is asked of a tracker that holds the records of a load is asked at the location of the load. -/
theorem Holds.asking (h : Holds load records m.before) (stays : m.step.action.staysAt load.location)
    (asks : m.asking? = some t) : Holds load records t := by
  obtain ⟨-, -, location, reopened, rfl, moved⟩ := asking_cases asks
  refine ⟨h.records, h.frameIndex, h.loadedFor, ?_⟩
  rcases moved with rfl | ⟨opened, opens, rfl⟩
  · exact h.location
  · rw [opens] at stays
    exact stays

theorem Holds.unloaded (h : Holds load records m.before) (stays : m.step.action.staysAt load.location) :
    m.load? = none := by
  unfold Moment.load?
  cases asks : m.asking? with
  | none => rfl
  | some t => exact if_pos (h.asking stays asks).isFresh

/-- Whatever the files are, nothing fails, nothing is told but at the end of the stream, and the records are held. -/
theorem Holds.perform (h : Holds load records t) {action : Action} (stays : action.staysAt load.location) :
    ∃ next notices, Holds load records next ∧ (action ≠ .finish → notices = []) ∧
      ∀ files, t.perform files action = { tracker := next, notices := notices } := by
  have ⟨held, unused, loadedFor, here⟩ := h
  cases action with
  | relocate location =>
    have moved : Holds load records (t.setLocation location) := ⟨held, unused, loadedFor, stays⟩
    exact ⟨_, [], moved, fun _ => rfl, fun _ => rfl⟩
  | openFile location =>
    have opened := h.opened stays
    exact ⟨_, [], opened, fun _ => rfl, fun files => reload_of_isFresh files opened.isFresh⟩
  | reload => exact ⟨t, [], h, fun _ => rfl, fun files => reload_of_isFresh files h.isFresh⟩
  | ensureLoaded =>
    have same := sameLocation_of_isFresh h.isFresh
    exact ⟨t, [], h, fun _ => rfl, fun files => ensureLoaded_of_sameLocation files same⟩
  | nextRecord => cases stays
  | finish =>
    have ended : Holds load records t.endSegment := ⟨held, unused, loadedFor, here⟩
    exact ⟨_, t.leftover, ended, fun other => absurd rfl other, fun _ => rfl⟩
  | negotiate format => exact ⟨t.setFormat format, [], ⟨held, unused, loadedFor, here⟩, fun _ => rfl, fun _ => rfl⟩
  | checkBoundary => exact ⟨t.advance, [], ⟨held, unused, loadedFor, here⟩, fun _ => rfl, fun _ => rfl⟩
  | frameEmitted => exact ⟨t.frameEmitted, [], ⟨held, unused, loadedFor, here⟩, fun _ => rfl, fun _ => rfl⟩
  | endSegment => exact ⟨t.endSegment, [], ⟨held, unused, loadedFor, here⟩, fun _ => rfl, fun _ => rfl⟩

/-! ### Runs behind a load -/

theorem holds_reached (h : Holds load records t) {steps : List Step}
    (stays : ∀ s ∈ steps, s.action.staysAt load.location) : Holds load records (t.reached steps) := by
  induction steps with
  | nil => exact h
  | cons step past ih =>
    have before := ih fun s earlier => stays s (List.mem_cons_of_mem _ earlier)
    obtain ⟨next, _, held, -, performed⟩ := before.perform (stays step List.mem_cons_self)
    have after : t.reached (step :: past) = next := congrArg Tracked.tracker (performed step.files)
    rw [after]
    exact held

theorem holds_of_mem_history (h : Holds load records t) {steps : List Step}
    (stays : ∀ s ∈ steps, s.action.staysAt load.location) (there : m ∈ t.history steps) :
    Holds load records m.before ∧ m.step ∈ steps := by
  induction steps with
  | nil => cases there
  | cons step past ih =>
    have earlier : ∀ s ∈ past, s.action.staysAt load.location := fun s hs => stays s (List.mem_cons_of_mem _ hs)
    rcases List.mem_cons.1 there with rfl | before
    · exact ⟨holds_reached h earlier, List.mem_cons_self⟩
    · obtain ⟨held, listed⟩ := ih earlier before
      exact ⟨held, List.mem_cons_of_mem _ listed⟩

/-- Records that were loaded stay until one of them is used or the location changes.  Whatever is done until then, in
whatever order and with whatever files, no file is looked at, nothing fails, and the records are those of the load, with
none of them counted.  The sidecar is looked for once in all.  Of unmatched records only the load tells, and only of
those that made way for its own; behind it nothing is told before the stream ends. -/
theorem kept_of_loaded (loads : m.load? = some load) (steps : List Step)
    (stays : ∀ s ∈ steps, s.action.staysAt load.location) :
    let past := m.after.history steps
    (∀ n ∈ past, n.load? = none ∧ (∀ files, n.before.perform files n.step.action = n.outcome) ∧
      n.outcome.failure = none ∧ n.after.records = m.after.records ∧ n.after.frameIndex = m.after.frameIndex) ∧
    m.after.frameIndex = 0 ∧
    (past ++ [m]).filterMap Moment.load? = [load] ∧
    m.outcome.notices.filter Notice.isUnmatched = m.before.leftover ∧
    ((∀ s ∈ steps, s.action ≠ .finish) → past.flatMap (fun n => n.outcome.notices) = []) := by
  intro past
  have loaded := holds_of_load? loads
  have behind (n : Moment) (there : n ∈ past) : Holds load m.after.records n.before ∧ n.step ∈ steps :=
    holds_of_mem_history loaded stays there
  have performed (n : Moment) (there : n ∈ past) := (behind n there).1.perform (stays n.step (behind n there).2)
  have unloaded (n : Moment) (there : n ∈ past) := (behind n there).1.unloaded (stays n.step (behind n there).2)
  refine ⟨fun n there => ?_, loaded.frameIndex, ?_, (loaded_of_load? loads).told, fun goes_on => ?_⟩
  · obtain ⟨next, notices, held, -, same⟩ := performed n there
    have outcome : n.outcome = { tracker := next, notices := notices } := same n.step.files
    have after : n.after = next := congrArg Tracked.tracker outcome
    refine ⟨unloaded n there, fun files => (same files).trans outcome.symm, by rw [outcome], ?_, ?_⟩
    · rw [after, held.records]
    · rw [after, held.frameIndex, loaded.frameIndex]
  · rw [List.filterMap_append, List.filterMap_eq_nil_iff.2 unloaded, List.filterMap_cons, loads]
    rfl
  · refine List.flatMap_eq_nil_iff.2 fun n there => ?_
    obtain ⟨next, notices, -, silent, same⟩ := performed n there
    have outcome : n.outcome = { tracker := next, notices := notices } := same n.step.files
    rw [outcome]
    exact silent (goes_on n.step (behind n there).2)

/-- The two records of a file went with a frame each. -/
def allUsed : List Step := [
  { action := .nextRecord },
  { action := .frameEmitted },
  { action := .nextRecord },
  { action := .checkBoundary },
  { action := .openFile (.ofText "a.mp4"), files := Relay.recordingFiles }]

/-- What a boundary comes to. -/
def crossing : List Step := [{ action := .endSegment }, { action := .reload }, { action := .checkBoundary }]

/-- The next file is opened, and its sidecar is gone at the boundary behind that; the record in it was read when it was
there, and nothing is told. -/
theorem kept_crossing :
    let opens : Moment := ⟨(ofConfig Relay.recordingConfig).reached allUsed, {
      action := .openFile (.ofText "b.mp4")
      files := { files := [([Utf8.encode "b.json"], Utf8.encode "\x7b\"objects\":[]\x7d")] } }⟩
    let past := opens.after.history crossing
    opens.after.boundary = true ∧ ((past ++ [opens]).filterMap Moment.load?).length = 1 ∧
      opens.outcome.notices.filter Notice.isUnmatched = [] ∧ past.flatMap (fun n => n.outcome.notices) = [] ∧
      (opens.after.reached crossing).unconsumed = 1 := by
  intro opens past
  obtain ⟨boundary, looks, used, found⟩ : opens.after.boundary = true ∧
      opens.load?.map Load.location = some (some (.ofText "b.mp4")) ∧ opens.before.leftover = [] ∧
      (opens.after.records.getD []).length = 1 := by decide +kernel
  obtain ⟨load, loads, -⟩ := Option.map_eq_some_iff.1 looks
  have stays : ∀ s ∈ crossing, s.action.staysAt load.location := by simp [crossing, Action.staysAt]
  have goes_on : ∀ s ∈ crossing, s.action ≠ .finish := by simp [crossing]
  obtain ⟨kept, unused, once, told, quiet⟩ := kept_of_loaded loads crossing stays
  obtain ⟨-, -, -, records, frameIndex⟩ := kept _ List.mem_cons_self
  refine ⟨boundary, by rw [once]; rfl, told.trans used, quiet goes_on, ?_⟩
  change (Moment.after _).unconsumed = 1
  rw [unconsumed, records, frameIndex, unused, found]

end FrameStream.Tracker
