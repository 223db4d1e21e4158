import FrameStream.Relay.Tracker

/-!
# Before a frame

Before a frame the tracker looks for a boundary and sees to the metadata: at a boundary it is loaded anew, elsewhere
only if it is for another location.  Both are one step here, `prepare`, which touches nothing but the metadata
(`prepare_eq`) and leaves it loaded for the current location (`sameLocation_prepare`).
-/

namespace FrameStream

/-! ### Locations -/

@[simp] theorem sameLocation_refl (l : Option Path) : sameLocation l l := by
  cases l with
  | none => rfl
  | some p => exact beq_self_eq_true p.components

theorem sameLocation_iff {l k : Option Path} :
    sameLocation l k ↔ l.map Path.components = k.map Path.components := by
  cases l <;> cases k <;> simp [sameLocation, Path.same]

theorem sameLocation_symm {l k : Option Path} (h : sameLocation l k) : sameLocation k l :=
  sameLocation_iff.2 (sameLocation_iff.1 h).symm

theorem sameLocation_trans {k l m : Option Path} (h : sameLocation k l) (g : sameLocation l m) : sameLocation k m :=
  sameLocation_iff.2 ((sameLocation_iff.1 h).trans (sameLocation_iff.1 g))

theorem sameLocation_none_left {l : Option Path} (h : sameLocation none l) : l = none := by
  cases l with
  | none => rfl
  | some p => exact absurd h Bool.false_ne_true

namespace Tracker

variable (files : Files) (t : Tracker)

/-! ### Only the metadata changes -/

theorem reload_eq : ∃ i records loadedFor, (t.reload files).tracker =
    { t with frameIndex := i, records := records, loadedFor := loadedFor } := by
  unfold reload
  split
  · exact ⟨t.frameIndex, t.records, t.loadedFor, rfl⟩
  · dsimp only
    split
    · split
      · exact ⟨0, none, some t.location, rfl⟩
      · exact ⟨0, none, some t.location, rfl⟩
      · exact ⟨0, some _, some t.location, rfl⟩
    · exact ⟨0, none, some t.location, rfl⟩

theorem ensureLoaded_eq : ∃ i records loadedFor, (t.ensureLoaded files).tracker =
    { t with frameIndex := i, records := records, loadedFor := loadedFor } := by
  unfold ensureLoaded
  split
  · exact t.reload_eq files
  · exact ⟨t.frameIndex, t.records, t.loadedFor, rfl⟩

theorem nextRecord_eq : ∃ i, t.nextRecord.2 = { t with frameIndex := i } := by
  unfold nextRecord
  split
  · split
    · exact ⟨t.frameIndex + 1, rfl⟩
    · exact ⟨t.frameIndex, rfl⟩
  · exact ⟨t.frameIndex, rfl⟩

/-- The trackers follow the same stream. -/
structure SameStream (t u : Tracker) : Prop where
  location : t.location = u.location
  format : t.format = u.format
  triggers : t.triggers = u.triggers
  readMetadata : t.readMetadata = u.readMetadata

theorem SameStream.refl (t : Tracker) : t.SameStream t := ⟨rfl, rfl, rfl, rfl⟩

theorem SameStream.trans {t u v : Tracker} (h : t.SameStream u) (k : u.SameStream v) : t.SameStream v :=
  ⟨h.location.trans k.location, h.format.trans k.format, h.triggers.trans k.triggers,
    h.readMetadata.trans k.readMetadata⟩

theorem sameStream_reload : (t.reload files).tracker.SameStream t := by
  obtain ⟨_, _, _, h⟩ := t.reload_eq files
  rw [h]
  exact ⟨rfl, rfl, rfl, rfl⟩

theorem sameStream_onTag (location : Path) :
    (t.onTag files location).tracker.SameStream (t.setLocation (some location)) :=
  (sameStream_reload files _).trans ⟨rfl, rfl, rfl, rfl⟩

theorem sameStream_nextRecord : t.nextRecord.2.SameStream t := by
  obtain ⟨_, h⟩ := t.nextRecord_eq
  rw [h]
  exact ⟨rfl, rfl, rfl, rfl⟩

theorem sameStream_frameEmitted : t.frameEmitted.SameStream t := ⟨rfl, rfl, rfl, rfl⟩

/-- Without a segment there is nothing to end. -/
theorem boundary_of_idle {t : Tracker} (idle : t.inProgress = false) : t.boundary = false := by
  unfold boundary
  rw [idle]
  split <;> rfl

/-! ### Preparing -/

/-- The metadata for the next frame is seen to. -/
def prepare : Tracked := if t.boundary then t.advance.reload files else t.advance.ensureLoaded files

/-- The segment is ended if the next frame is behind a boundary. -/
def enter (t prepared : Tracker) : Tracker := if t.boundary then prepared.endSegment else prepared

theorem prepare_eq : ∃ i records loadedFor, (t.prepare files).tracker =
    { t.advance with frameIndex := i, records := records, loadedFor := loadedFor } := by
  unfold prepare
  split
  · exact t.advance.reload_eq files
  · exact t.advance.ensureLoaded_eq files

/-- Metadata is looked for at a boundary, and where it is for another location. -/
theorem prepare_eq_ite : t.prepare files =
    if t.boundary || (t.readMetadata && !sameLocation t.loadedFor.join t.location) then t.advance.reload files
    else { tracker := t.advance } := by
  unfold prepare ensureLoaded
  cases t.boundary with
  | true => rfl
  | false => rfl

theorem sameStream_prepare : (t.prepare files).tracker.SameStream t := by
  obtain ⟨_, _, _, h⟩ := t.prepare_eq files
  rw [h]
  exact ⟨rfl, rfl, rfl, rfl⟩

theorem sameStream_enter (prepared : Tracker) : (t.enter prepared).SameStream prepared := by
  unfold enter
  split <;> exact ⟨rfl, rfl, rfl, rfl⟩

theorem sameLocation_of_isFresh {t : Tracker} (h : t.isFresh) : sameLocation t.loadedFor.join t.location := by
  unfold isFresh at h
  split at h
  · exact absurd h Bool.false_ne_true
  · rename_i location loaded
    rw [loaded]
    exact (Bool.and_eq_true_iff.1 h).2

theorem reload_of_isFresh {t : Tracker} (h : t.isFresh) : t.reload files = { tracker := t } := by
  unfold reload
  rw [if_pos h]

/-- Metadata that is not fresh is looked for, and what was there before is gone whatever is found. -/
theorem reload_of_stale {t : Tracker} {l : Path} (reads : t.readMetadata = true) (there : t.location = some l)
    (stale : t.isFresh = false) :
    (t.reload files).tracker = { t with
      frameIndex := 0
      records := (Sidecar.load files l.sidecar).toOption.join
      loadedFor := some t.location } ∧
    (t.reload files).failure = match Sidecar.load files l.sidecar with
      | .error f => some f
      | .ok _ => none := by
  unfold reload
  rw [if_neg (by simp [stale]), reads, there]
  dsimp only
  cases Sidecar.load files l.sidecar with
  | error f => exact ⟨rfl, rfl⟩
  | ok records => cases records <;> exact ⟨rfl, rfl⟩

theorem sameLocation_reload :
    sameLocation (t.reload files).tracker.loadedFor.join (t.reload files).tracker.location := by
  unfold reload
  split
  · rename_i fresh
    exact sameLocation_of_isFresh fresh
  · dsimp only
    split
    · split <;> exact sameLocation_refl _
    · exact sameLocation_refl _

/-- Metadata that is for the current location already is not loaded again. -/
theorem ensureLoaded_of_sameLocation {t : Tracker} (h : sameLocation t.loadedFor.join t.location) :
    t.ensureLoaded files = { tracker := t } := by
  rw [ensureLoaded, if_neg (by simp [h])]

/-- Before a frame the metadata is that for the current location. -/
theorem sameLocation_prepare {t : Tracker} (reads : t.readMetadata = true) :
    sameLocation (t.prepare files).tracker.loadedFor.join t.location := by
  have location := (t.sameStream_prepare files).location
  rw [← location]
  unfold prepare
  split
  · exact t.advance.sameLocation_reload files
  · by_cases same : sameLocation t.advance.loadedFor.join t.advance.location
    · rw [ensureLoaded_of_sameLocation files same]
      exact same
    · have reading : t.advance.readMetadata = true := reads
      rw [ensureLoaded, if_pos (by simp [reading, same])]
      exact t.advance.sameLocation_reload files

end Tracker

end FrameStream
