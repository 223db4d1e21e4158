import FrameStream.Proofs.Relay.Items
import FrameStream.Proofs.Relay.Pairing

/-!
# Files that are opened again

When a file is opened, also the one that is open already, its records are to be read anew if a frame was built since
they were read last.  The relay tells by the number of records used, so that it takes records of which there are none
for unused ones: they are read again unless the last look at the same file gave no record (`opened_of_reached`).
Whatever is beside the file by then, a record that was written or a fault, goes unnoticed (`opened_lateSidecar`).
-/

namespace FrameStream.Relay

variable {c : Config} {r : Relay} {t : Tracker} {m : Moment}

/-! ### Runs with stops -/

/-- The moments since the last stop. -/
def session (history : List Moment) : List Moment := history.takeWhile fun m => m.step.operation != .stop

/-- Since the last stop frames and records are tied by the last load. -/
theorem paired_session (made : ofConfig c = .ok r) (reads : c.readMetadata = true) (steps : List Step) :
    PairedAt (lastLoad (session (r.history steps))) (builtSince (session (r.history steps)))
      (r.reached steps).tracker := by
  induction steps with
  | nil => exact pairedAt_ofConfig made
  | cons step past ih =>
    rw [history, session, List.takeWhile_cons]
    by_cases stops : step.operation = .stop
    · obtain ⟨operation, files, accepts⟩ := step
      obtain rfl : operation = .stop := stops
      exact ⟨rfl, rfl, rfl⟩
    · rw [if_pos (by simpa using stops)]
      exact pairedAt_after (m := ⟨r.reached past, step⟩) (isOf_reached (isOf_ofConfig made) past) reads stops ih

/-! ### Opening -/

/-- The last look was at the same file and gave no record: there was no sidecar, none of its records was about a
frame, or it was faulty. -/
def IsBarren (past : List Moment) (path : Path) : Prop :=
  ∃ load, lastLoad past = some load ∧ sameLocation load.location (some path) ∧ load.records = []

/-- Once frames were built, records for a file count as unused exactly if there were none. -/
theorem isFresh_opened_iff {past : List Moment} {path : Path}
    (paired : PairedAt (lastLoad past) (builtSince past) t) (built : 0 < builtSince past) :
    (t.setLocation (some path)).isFresh = true ↔ IsBarren past path := by
  have loadedFor : (t.setLocation (some path)).loadedFor = (lastLoad past).map Load.location := paired.loadedFor
  unfold Tracker.isFresh IsBarren
  rw [loadedFor]
  cases last : lastLoad past with
  | none => simp
  | some load =>
    have unused : (t.setLocation (some path)).frameIndex = 0 ↔ load.records = [] := by
      change t.frameIndex = 0 ↔ _
      have records := paired.records
      rw [last, Option.map_some, Option.getD_some] at records
      rw [paired.frameIndex, records, ← List.length_eq_zero_iff]
      omega
    rw [Option.map_some]
    dsimp only
    rw [Bool.and_eq_true, beq_iff_eq, unused]
    constructor
    · rintro ⟨nothing, same⟩
      exact ⟨load, rfl, same, nothing⟩
    · rintro ⟨other, found, same, nothing⟩
      obtain rfl := Option.some.inj found
      exact ⟨nothing, same⟩

/-- A file that is opened after frames were built is looked up at once, and what is found takes the place of the
records; unless the last look was at this file and gave no record, for then nothing is looked up. -/
theorem opened_of_reached (made : ofConfig c = .ok r) (reads : c.readMetadata = true) (steps : List Step)
    (location : String) (files : Files) (accepts : Nat → Bool)
    (built : 0 < builtSince (session (r.history steps))) :
    let m : Moment := ⟨r.reached steps, { operation := .handle (.tag (some location)), files, accepts }⟩
    let path : Path := .ofText location
    (¬ IsBarren (session (r.history steps)) path →
      m.after.tracker.frameIndex = 0 ∧
      m.after.tracker.records = (Sidecar.load files path.sidecar).toOption.join ∧
      m.outcome.result = match Sidecar.load files path.sidecar with
        | .error f => .error (.sidecar f)
        | .ok _ => .ok none) ∧
    (IsBarren (session (r.history steps)) path →
      m.after.tracker = { m.before.tracker with location := some path, reopened := true } ∧
      m.after.tracker.frameIndex = 0 ∧ m.after.tracker.records.getD [] = [] ∧ m.outcome.result = .ok none) := by
  intro m path
  have kept : m.before.IsOf c := isOf_reached (isOf_ofConfig made) steps
  have paired : PairedAt _ _ m.before.tracker := paired_session made reads steps
  let opened : Tracker := { m.before.tracker with location := some path, reopened := true }
  have fresh : opened.isFresh = true ↔ IsBarren (session (r.history steps)) path := isFresh_opened_iff paired built
  have asked : m.step.operation = .handle (.tag (some location)) := rfl
  have looking : m.before.tracker.onTag m.step.files path = opened.reload files := rfl
  obtain ⟨result, tracker⟩ := outcome_opened asked
  rw [looking] at result tracker
  rw [result, tracker]
  refine ⟨fun looked => ?_, fun barren => ?_⟩
  · have stale : opened.isFresh = false := Bool.eq_false_iff.2 fun unused => looked (fresh.1 unused)
    have reading : opened.readMetadata = true := kept.readMetadata.trans reads
    obtain ⟨replaced, failure⟩ := Tracker.reload_of_stale files reading rfl stale
    rw [replaced, failure]
    refine ⟨rfl, rfl, ?_⟩
    cases Sidecar.load files path.sidecar <;> rfl
  · rw [Tracker.reload_of_isFresh files (fresh.2 barren)]
    obtain ⟨load, last, -, nothing⟩ := barren
    have records : m.before.tracker.records.getD [] = [] := by
      rw [paired.records, last]
      exact nothing
    have index : m.before.tracker.frameIndex = 0 := by
      rw [paired.frameIndex, records]
      exact Nat.min_zero _
    exact ⟨rfl, index, records, rfl⟩

/-- A file was opened when there was nothing beside it, and one frame of it went out. -/
def bareFrame : List Step := [
  { operation := .transform {} },
  { operation := .handle (.tag (some "a.mp4")) },
  { operation := .negotiate { name := "video/x-h264", width := some 640, height := some 480 } },
  { operation := .start }]

/-- Records that are written after the file was opened first are not found when it is opened again, but if there were
records at first it is found that they are gone. -/
theorem opened_lateSidecar :
    let opens : Operation := .handle (.tag (some "a.mp4"))
    let late : Moment := ⟨recordingRelay.reached bareFrame, { operation := opens, files := recordingFiles }⟩
    let gone : Moment := ⟨recordingRelay.reached firstFrame, { operation := opens }⟩
    (late.outcome.result = .ok none ∧ late.after.tracker.records.getD [] = [] ∧
      (Sidecar.recordsAt recordingFiles (some (.ofText "a.mp4"))).length = 2) ∧
    (gone.outcome.result = .ok none ∧ gone.after.tracker.records = none ∧
      gone.before.tracker.unconsumed = 1) := by
  dsimp only
  have made := ofConfig_recordingConfig
  obtain ⟨lateBuilt, goneBuilt, two, left, written⟩ :
      0 < builtSince (session (recordingRelay.history bareFrame)) ∧
      0 < builtSince (session (recordingRelay.history firstFrame)) ∧
      (lastLoad (session (recordingRelay.history firstFrame))).map (fun load => load.records.length) = some 2 ∧
      (recordingRelay.reached firstFrame).tracker.unconsumed = 1 ∧
      (Sidecar.recordsAt recordingFiles (some (.ofText "a.mp4"))).length = 2 := by decide +kernel
  have barren : IsBarren (session (recordingRelay.history bareFrame)) (.ofText "a.mp4") :=
    ⟨⟨some (.ofText "a.mp4"), {}⟩, rfl, by decide, rfl⟩
  obtain ⟨-, -, unread, succeeds⟩ :=
    (opened_of_reached made rfl bareFrame "a.mp4" recordingFiles (fun _ => true) lateBuilt).2 barren
  have filled : ¬ IsBarren (session (recordingRelay.history firstFrame)) (.ofText "a.mp4") := by
    rintro ⟨load, last, -, nothing⟩
    rw [last, Option.map_some, nothing] at two
    cases two
  obtain ⟨-, replaced, result⟩ :=
    (opened_of_reached made rfl firstFrame "a.mp4" {} (fun _ => true) goneBuilt).1 filled
  have missing : Sidecar.load {} (Path.ofText "a.mp4").sidecar = .ok none := rfl
  rw [missing] at replaced result
  exact ⟨⟨succeeds, unread, written⟩, result, replaced, left⟩

end FrameStream.Relay
