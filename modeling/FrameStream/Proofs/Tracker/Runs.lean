import FrameStream.Proofs.Relay.Rejections

/-!
# Runs of a tracker

A tracker by itself, in the hands of anyone: any of its operations in any order, each with the files as they are at the
time.  As for relays, steps and moments are listed latest first.  To the records a step does one of three things
(`effect`): they make way for those of a load, which tells what was left of them; the next of them is taken; or they
stay.  A load happens where metadata is asked for and is not fresh (`load?`).
-/

namespace FrameStream

/-- It is told of records that no frame took. -/
def Notice.isUnmatched : Notice → Bool
  | .unmatchedRecords _ _ => true
  | _ => false

namespace Tracker

open Relay (Load)

/-! ### Steps and moments -/

/-- What can be done to a tracker. -/
inductive Action where
  | relocate (location : Option Path)
  | negotiate (format : StreamFormat)
  | checkBoundary
  | openFile (location : Path)
  | reload
  | ensureLoaded
  | nextRecord
  | frameEmitted
  | endSegment
  | finish

def perform (t : Tracker) (files : Files) : Action → Tracked
  | .relocate location => { tracker := t.setLocation location }
  | .negotiate format => { tracker := t.setFormat format }
  | .checkBoundary => { tracker := t.checkBoundary.2 }
  | .openFile location => t.onTag files location
  | .reload => t.reload files
  | .ensureLoaded => t.ensureLoaded files
  | .nextRecord => { tracker := t.nextRecord.2 }
  | .frameEmitted => { tracker := t.frameEmitted }
  | .endSegment => { tracker := t.endSegment }
  | .finish => t.finish

/-- An action, and the files at the time. -/
structure Step where
  action : Action
  files : Files := {}

/-- A step and the tracker that takes it. -/
structure Moment where
  before : Tracker
  step : Step

namespace Moment

def outcome (m : Moment) : Tracked := m.before.perform m.step.files m.step.action

def after (m : Moment) : Tracker := m.outcome.tracker

/-- The record that is handed out. -/
def returned? (m : Moment) : Option FrameMetadata :=
  match m.step.action with
  | .nextRecord => m.before.nextRecord.1
  | _ => none

/-- The tracker that metadata is asked of, at the location it is asked for. -/
def asking? (m : Moment) : Option Tracker :=
  match m.step.action with
  | .openFile location => some { m.before with location := some location, reopened := true }
  | .reload => some m.before
  | .ensureLoaded =>
    if m.before.readMetadata && !sameLocation m.before.loadedFor.join m.before.location then some m.before else none
  | _ => none

/-- The load that replaces the records, unless they are fresh. -/
def load? (m : Moment) : Option Load :=
  match m.asking? with
  | some t => if t.isFresh then none else some ⟨t.location, m.step.files⟩
  | none => none

/-- The records that a load gives. -/
def recordsOf (m : Moment) (load : Load) : List FrameMetadata := if m.before.readMetadata then load.records else []

end Moment

/-! ### Runs -/

/-- The tracker after the steps. -/
def reached (t : Tracker) : List Step → Tracker
  | [] => t
  | step :: past => (Moment.mk (t.reached past) step).after

/-- The moments of the steps. -/
def history (t : Tracker) : List Step → List Moment
  | [] => []
  | step :: past => ⟨t.reached past, step⟩ :: t.history past

/-! ### One step -/

/-- Metadata that is not fresh makes way for that of the current location, and it is told what was left of it. -/
theorem notices_reload (files : Files) {t : Tracker} (stale : t.isFresh = false) :
    (t.reload files).tracker.loadedFor = some t.location ∧
      (t.reload files).notices.filter Notice.isUnmatched = t.leftover := by
  have told : t.leftover.filter Notice.isUnmatched = t.leftover := by
    unfold leftover
    split <;> rfl
  have missing (p : Path) : (t.leftover ++ [Notice.sidecarMissing p]).filter Notice.isUnmatched = t.leftover := by
    rw [List.filter_append, told]
    exact List.append_nil _
  unfold reload
  rw [if_neg (by simp [stale])]
  dsimp only
  split
  · split
    · exact ⟨rfl, told⟩
    · exact ⟨rfl, missing _⟩
    · exact ⟨rfl, told⟩
  · exact ⟨rfl, told⟩

/-- A record is handed out only if it is there, and then it is counted. -/
theorem nextRecord_cases (t : Tracker) :
    t.nextRecord = (none, t) ∨
      ∃ record, (t.records.getD [])[t.frameIndex]? = some record ∧
        t.nextRecord = (some record, { t with frameIndex := t.frameIndex + 1 }) := by
  unfold nextRecord
  split
  · split
    · rename_i record next
      exact .inr ⟨record, next, rfl⟩
    · exact .inl rfl
  · exact .inl rfl

/-- At this moment the records make way for those of a load. -/
structure Loaded (m : Moment) (load : Load) : Prop where
  returned : m.returned? = none
  records : m.after.records.getD [] = m.recordsOf load
  frameIndex : m.after.frameIndex = 0
  location : m.after.location = load.location
  loadedFor : m.after.loadedFor = some load.location
  told : m.outcome.notices.filter Notice.isUnmatched = m.before.leftover

/-- What a step does to the records. -/
inductive Effect (m : Moment) : Prop where
  | loaded (load : Load) (loads : m.load? = some load) (loaded : Loaded m load)
  /-- The next record is handed out. -/
  | taken (record : FrameMetadata) (unloaded : m.load? = none) (returned : m.returned? = some record)
      (next : (m.before.records.getD [])[m.before.frameIndex]? = some record)
      (after : m.after = { m.before with frameIndex := m.before.frameIndex + 1 })
  | kept (unloaded : m.load? = none) (returned : m.returned? = none) (records : m.after.records = m.before.records)
      (frameIndex : m.after.frameIndex = m.before.frameIndex) (loadedFor : m.after.loadedFor = m.before.loadedFor)

variable {t : Tracker} {m : Moment}

/-- Metadata is asked of a tracker that differs from the one before at most in whether a file was opened and where;
what comes of it is what comes of the step. -/
theorem asking_cases (asks : m.asking? = some t) :
    m.outcome = t.reload m.step.files ∧ m.returned? = none ∧
      ∃ location reopened, t = { m.before with location := location, reopened := reopened } ∧
        (location = m.before.location ∨ ∃ opened, m.step.action = .openFile opened ∧ location = some opened) := by
  obtain ⟨before, action, files⟩ := m
  cases action with
  | openFile location =>
    cases asks
    exact ⟨rfl, rfl, some location, true, rfl, .inr ⟨location, rfl, rfl⟩⟩
  | reload =>
    cases asks
    exact ⟨rfl, rfl, before.location, before.reopened, rfl, .inl rfl⟩
  | ensureLoaded =>
    unfold Moment.asking? at asks
    dsimp only at asks
    split at asks
    · rename_i elsewhere
      cases asks
      exact ⟨if_pos elsewhere, rfl, t.location, t.reopened, rfl, .inl rfl⟩
    · cases asks
  | _ => cases asks

/-- Where no metadata is asked for at most a record is taken. -/
theorem effect_of_unasked (unasked : m.asking? = none) : Effect m := by
  have unloaded : m.load? = none := by rw [Moment.load?, unasked]
  obtain ⟨before, action, files⟩ := m
  cases action with
  | openFile location => cases unasked
  | reload => cases unasked
  | ensureLoaded =>
    have outcome : (Moment.mk before ⟨.ensureLoaded, files⟩).outcome = { tracker := before } := by
      unfold Moment.asking? at unasked
      dsimp only at unasked
      split at unasked
      · cases unasked
      · rename_i there
        exact if_neg there
    have after : (Moment.mk before ⟨.ensureLoaded, files⟩).after = before := congrArg Tracked.tracker outcome
    exact .kept unloaded rfl (by rw [after]) (by rw [after]) (by rw [after])
  | nextRecord =>
    rcases before.nextRecord_cases with none_left | ⟨record, next, taken⟩
    · have after : (Moment.mk before ⟨.nextRecord, files⟩).after = before := congrArg Prod.snd none_left
      exact .kept unloaded (congrArg Prod.fst none_left) (by rw [after]) (by rw [after]) (by rw [after])
    · exact .taken record unloaded (congrArg Prod.fst taken) next (congrArg Prod.snd taken)
  | _ => exact .kept unloaded rfl rfl rfl rfl

/-- Whatever is done, the records are replaced, taken or kept. -/
theorem effect (m : Moment) : Effect m := by
  cases asks : m.asking? with
  | none => exact effect_of_unasked asks
  | some t =>
    obtain ⟨outcome, returned, location, reopened, rfl, -⟩ := asking_cases asks
    set t : Tracker := { m.before with location := location, reopened := reopened }
    cases fresh : t.isFresh with
    | true =>
      have unloaded : m.load? = none := by
        rw [Moment.load?, asks]
        exact if_pos fresh
      have after : m.after = t := by rw [Moment.after, outcome, reload_of_isFresh m.step.files fresh]
      exact .kept unloaded returned (by rw [after]) (by rw [after]) (by rw [after])
    | false =>
      have loads : m.load? = some ⟨location, m.step.files⟩ := by
        rw [Moment.load?, asks]
        exact if_neg (by simp [fresh])
      obtain ⟨frameIndex, records⟩ := Relay.metadata_reload m.step.files fresh
      obtain ⟨loadedFor, told⟩ := notices_reload m.step.files fresh
      have stays : (t.reload m.step.files).tracker.location = location := (sameStream_reload m.step.files t).location
      rw [← outcome] at frameIndex records loadedFor told stays
      exact .loaded _ loads ⟨returned, records, frameIndex, stays, loadedFor, told⟩

theorem loaded_of_load? {load : Load} (loads : m.load? = some load) : Loaded m load := by
  cases effect m with
  | loaded load' loads' loaded =>
    obtain rfl : load' = load := Option.some.inj (loads'.symm.trans loads)
    exact loaded
  | taken _ unloaded => exact absurd (unloaded.symm.trans loads) nofun
  | kept unloaded => exact absurd (unloaded.symm.trans loads) nofun

/-- Whether metadata is read is settled when the tracker is made. -/
theorem readMetadata_after (m : Moment) : m.after.readMetadata = m.before.readMetadata := by
  cases asks : m.asking? with
  | some t =>
    obtain ⟨outcome, -, _, _, rfl, -⟩ := asking_cases asks
    rw [Moment.after, outcome]
    exact (sameStream_reload m.step.files _).readMetadata
  | none =>
    obtain ⟨before, action, files⟩ := m
    cases action with
    | openFile location => cases asks
    | reload => cases asks
    | ensureLoaded =>
      obtain ⟨_, _, _, same⟩ := before.ensureLoaded_eq files
      change (before.ensureLoaded files).tracker.readMetadata = before.readMetadata
      rw [same]
    | nextRecord => exact before.sameStream_nextRecord.readMetadata
    | _ => rfl

end Tracker

end FrameStream
