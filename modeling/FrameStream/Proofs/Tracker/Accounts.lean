import FrameStream.Proofs.Tracker.Runs

/-!
# What becomes of records

The records of each load are kept account of: which were handed out, and once others have taken their place what was
told of the rest.  The ledger of a history has one account for each load, and they tell of all records that were loaded
or handed out (`loaded_ledger`, `returned_ledger`).  Along every run the accounts balance (`accounted_of_reached`): the
records of a load were handed out from the front, in order and once each, and those left over are the unconsumed ones of
the tracker or were told of, all of them, when they were replaced.
-/

namespace FrameStream.Tracker

/-! ### Accounts -/

/-- What became of the records of one load. -/
structure Account where
  location : Option Path
  loaded : List FrameMetadata
  /-- In the order in which they were handed out. -/
  returned : List FrameMetadata := []

namespace Account

/-- The records that were not handed out. -/
def left (a : Account) : List FrameMetadata := a.loaded.drop a.returned.length

/-- What is to be told of the records that are left. -/
def warning (a : Account) : List Notice := if a.left = [] then [] else [.unmatchedRecords a.left.length a.location]

/-- The records were handed out from the front. -/
def Balances (a : Account) : Prop := a.loaded = a.returned ++ a.left

end Account

/-- The account of the last load, and those of the loads before it, latest first, each with what was told when its
records were replaced. -/
structure Ledger where
  current : Account := { location := none, loaded := [] }
  closed : List (Account × List Notice) := []

namespace Ledger

def enter (l : Ledger) (m : Moment) : Ledger :=
  match m.load? with
  | some load =>
    { current := { location := load.location, loaded := m.recordsOf load }
      closed := (l.current, m.outcome.notices) :: l.closed }
  | none => { l with current.returned := l.current.returned ++ m.returned?.toList }

/-- All accounts, latest first. -/
def accounts (l : Ledger) : List Account := l.current :: l.closed.map Prod.fst

end Ledger

def ledger : List Moment → Ledger
  | [] => {}
  | m :: past => (ledger past).enter m

/-- There is an account for every load, and one for the time before the first. -/
theorem loaded_ledger (past : List Moment) :
    (ledger past).accounts.map (fun a => (a.location, a.loaded)) =
      past.filterMap (fun m => m.load?.map fun load => (load.location, m.recordsOf load)) ++ [(none, [])] := by
  induction past with
  | nil => rfl
  | cons m past ih =>
    rw [ledger, Ledger.enter, List.filterMap_cons]
    cases loads : m.load? with
    | none => exact ih
    | some load => exact congrArg ((load.location, m.recordsOf load) :: ·) ih

/-- The accounts tell of all records that were handed out, in order. -/
theorem returned_ledger (past : List Moment) :
    (ledger past).accounts.reverse.flatMap Account.returned = past.reverse.filterMap Moment.returned? := by
  induction past with
  | nil => rfl
  | cons m past ih =>
    rw [List.reverse_cons, List.filterMap_append, ← ih, ledger, Ledger.enter]
    cases effect m with
    | loaded load loads loaded => simp [loads, loaded.returned, Ledger.accounts]
    | taken record unloaded returned => simp [unloaded, returned, Ledger.accounts]
    | kept unloaded returned => simp [unloaded, returned, Ledger.accounts]

/-! ### The balance -/

/-- The ledger agrees with the tracker, and all that was told is right. -/
structure Accounted (l : Ledger) (t : Tracker) : Prop where
  location : l.current.location = t.loadedFor.join
  loaded : l.current.loaded = t.records.getD []
  returned : l.current.returned = (t.records.getD []).take t.frameIndex
  frameIndex : t.frameIndex ≤ (t.records.getD []).length
  closed : ∀ a told, (a, told) ∈ l.closed → a.Balances ∧ told.filter Notice.isUnmatched = a.warning

variable {l : Ledger} {t : Tracker} {m : Moment}

theorem Accounted.left (h : Accounted l t) : l.current.left = (t.records.getD []).drop t.frameIndex := by
  rw [Account.left, h.loaded, h.returned, List.length_take, Nat.min_eq_left h.frameIndex]

theorem Accounted.balances (h : Accounted l t) : l.current.Balances := by
  rw [Account.Balances, h.left, h.loaded, h.returned, List.take_append_drop]

theorem Accounted.length_left (h : Accounted l t) : l.current.left.length = t.unconsumed := by
  rw [h.left, List.length_drop, unconsumed]

/-- The tracker tells of what is left in the current account. -/
theorem Accounted.leftover (h : Accounted l t) : t.leftover = l.current.warning := by
  rw [Tracker.leftover, Account.warning, ← h.length_left, h.location]
  cases l.current.left with
  | nil => rfl
  | cons record others => rfl

theorem accounted_enter (h : Accounted l m.before) : Accounted (l.enter m) m.after := by
  unfold Ledger.enter
  cases effect m with
  | loaded load loads loaded =>
    rw [loads]
    refine ⟨?_, loaded.records.symm, ?_, ?_, ?_⟩
    · rw [loaded.loadedFor]
      rfl
    · rw [loaded.frameIndex]
      rfl
    · rw [loaded.frameIndex]
      exact Nat.zero_le _
    · intro a told closed
      rcases List.mem_cons.1 closed with same | earlier
      · cases same
        exact ⟨h.balances, loaded.told.trans h.leftover⟩
      · exact h.closed a told earlier
  | taken record unloaded returned next after =>
    rw [unloaded, returned, after]
    have more : m.before.frameIndex < (m.before.records.getD []).length := (List.getElem?_eq_some_iff.1 next).1
    refine ⟨h.location, h.loaded, ?_, more, h.closed⟩
    change l.current.returned ++ [record] = _
    rw [List.take_add_one, next, h.returned]
    rfl
  | kept unloaded returned records frameIndex loadedFor =>
    rw [unloaded, returned]
    refine ⟨?_, ?_, ?_, ?_, h.closed⟩
    · rw [loadedFor]
      exact h.location
    · rw [records]
      exact h.loaded
    · rw [records, frameIndex]
      exact (List.append_nil _).trans h.returned
    · rw [records, frameIndex]
      exact h.frameIndex

theorem accounted_history (c : Config) (steps : List Step) :
    Accounted (ledger ((ofConfig c).history steps)) ((ofConfig c).reached steps) := by
  induction steps with
  | nil => exact ⟨rfl, rfl, rfl, Nat.le_refl 0, nofun⟩
  | cons step past ih => exact accounted_enter (m := ⟨(ofConfig c).reached past, step⟩) ih

/-! ### Without metadata -/

theorem readMetadata_reached (t : Tracker) (steps : List Step) : (t.reached steps).readMetadata = t.readMetadata := by
  induction steps with
  | nil => rfl
  | cons step past ih => exact (readMetadata_after ⟨t.reached past, step⟩).trans ih

/-- Where metadata is not read there is never a record. -/
theorem records_of_unread {c : Config} (unread : c.readMetadata = false) (steps : List Step) :
    ((ofConfig c).reached steps).records.getD [] = [] := by
  induction steps with
  | nil => rfl
  | cons step past ih =>
    have before : ((ofConfig c).reached past).readMetadata = false := (readMetadata_reached _ past).trans unread
    change (Moment.mk ((ofConfig c).reached past) step).after.records.getD [] = []
    cases effect ⟨(ofConfig c).reached past, step⟩ with
    | loaded load loads loaded =>
      rw [loaded.records, Moment.recordsOf, before]
      rfl
    | taken record unloaded returned next =>
      rw [ih] at next
      cases next
    | kept unloaded returned records =>
      rw [records]
      exact ih

/-! ### All runs -/

/-- Without a load the records stay, and those handed out are counted. -/
theorem frameIndex_of_unloaded (unloaded : m.load? = none) :
    m.after.records = m.before.records ∧
      m.after.frameIndex = m.before.frameIndex + m.returned?.toList.length := by
  cases effect m with
  | loaded load loads =>
    rw [unloaded] at loads
    cases loads
  | taken record _ returned next after =>
    rw [after, returned]
    exact ⟨rfl, rfl⟩
  | kept _ returned records frameIndex =>
    rw [returned]
    exact ⟨records, frameIndex⟩

/-- No record is lost without a word.  Whatever is done, no more records are counted than there are; every record of
every load was handed out, once and in order, or is left over; those left over of the last load are the unconsumed ones
of the tracker, and those of an earlier load were told of when it made way, by their number and the location that they
were loaded for.  Only a load replaces records.  Where metadata is not read there are none. -/
theorem accounted_of_reached (c : Config) (steps : List Step) :
    let t := (ofConfig c).reached steps
    let past := (ofConfig c).history steps
    let l := ledger past
    t.frameIndex ≤ (t.records.getD []).length ∧
    l.accounts.map (fun a => (a.location, a.loaded)) =
      past.filterMap (fun m => m.load?.map fun load => (load.location, m.recordsOf load)) ++ [(none, [])] ∧
    l.accounts.reverse.flatMap Account.returned = past.reverse.filterMap Moment.returned? ∧
    (∀ a ∈ l.accounts, a.loaded = a.returned ++ a.left) ∧
    (l.current.loaded = t.records.getD [] ∧ l.current.left = (t.records.getD []).drop t.frameIndex ∧
      l.current.left.length = t.unconsumed) ∧
    (∀ a told, (a, told) ∈ l.closed → told.filter Notice.isUnmatched =
      if a.left = [] then [] else [.unmatchedRecords a.left.length a.location]) ∧
    (∀ next, let m : Moment := ⟨t, next⟩
      m.load? = none → m.after.records = t.records ∧
        m.after.frameIndex = t.frameIndex + m.returned?.toList.length) ∧
    (c.readMetadata = false → t.records.getD [] = [] ∧ ∀ next, (Moment.mk t next).returned? = none) := by
  intro t past l
  have accounted : Accounted l t := accounted_history c steps
  refine ⟨accounted.frameIndex, loaded_ledger past, returned_ledger past, ?_,
    ⟨accounted.loaded, accounted.left, accounted.length_left⟩, fun a told closed => (accounted.closed a told closed).2,
    fun next => frameIndex_of_unloaded, ?_⟩
  · intro a listed
    rcases List.mem_cons.1 listed with rfl | closed
    · exact accounted.balances
    · obtain ⟨⟨_, told⟩, there, rfl⟩ := List.mem_map.1 closed
      exact (accounted.closed _ told there).1
  · intro unread
    have nothing : t.records.getD [] = [] := records_of_unread unread steps
    refine ⟨nothing, fun next => ?_⟩
    cases effect ⟨t, next⟩ with
    | loaded _ _ loaded => exact loaded.returned
    | taken record _ _ found =>
      change (t.records.getD [])[t.frameIndex]? = some record at found
      rw [nothing] at found
      cases found
    | kept _ returned => exact returned

/-- Two records were found for a file, and one of them was handed out. -/
def halfUsed : List Step := [
  { action := .nextRecord },
  { action := .openFile (.ofText "a.mp4"), files := Relay.recordingFiles }]

/-- When a file without a sidecar is opened next, the other record is told of; it stays as long as nothing is loaded;
and where metadata is not read there is none to begin with. -/
theorem accounted_halfUsed :
    let t := (ofConfig Relay.recordingConfig).reached halfUsed
    let opens : Step := { action := .openFile (.ofText "b.mp4") }
    let waits : Moment := ⟨t, { action := .ensureLoaded }⟩
    let unread : Config := { Relay.recordingConfig with readMetadata := false }
    (∃ a told, (a, told) ∈ (ledger ((ofConfig Relay.recordingConfig).history (opens :: halfUsed))).closed ∧
      a.loaded.length = 2 ∧ a.returned.length = 1 ∧
      told.filter Notice.isUnmatched = [.unmatchedRecords 1 (some (.ofText "a.mp4"))]) ∧
    (t.frameIndex = 1 ∧ waits.after.frameIndex = 1 ∧ waits.after.records = t.records) ∧
    ((ofConfig unread).reached halfUsed).records.getD [] = [] := by
  intro t opens waits unread
  obtain ⟨closes, unloaded, index, quiet⟩ :
      (ledger ((ofConfig Relay.recordingConfig).history (opens :: halfUsed))).closed.head?.map
        (fun a => (a.1.location, a.1.loaded.length, a.1.returned.length)) =
          some (some (.ofText "a.mp4"), 2, 1) ∧
      waits.load? = none ∧ t.frameIndex = 1 ∧ waits.returned? = none := by decide +kernel
  obtain ⟨⟨a, told⟩, first, same⟩ := Option.map_eq_some_iff.1 closes
  obtain ⟨location, loaded, returned⟩ : a.location = some (.ofText "a.mp4") ∧ a.loaded.length = 2 ∧
      a.returned.length = 1 := by simpa using same
  have closed := List.mem_of_mem_head? first
  have one_left : a.left.length = 1 := by rw [Account.left, List.length_drop, loaded, returned]
  have some_left : a.left ≠ [] := List.ne_nil_of_length_pos (by omega)
  obtain ⟨-, -, -, -, -, warned, -, -⟩ := accounted_of_reached Relay.recordingConfig (opens :: halfUsed)
  obtain ⟨-, -, -, -, -, -, stays, -⟩ := accounted_of_reached Relay.recordingConfig halfUsed
  obtain ⟨-, -, -, -, -, -, -, nothing⟩ := accounted_of_reached unread halfUsed
  obtain ⟨records, counted⟩ := stays waits.step unloaded
  refine ⟨⟨a, told, closed, loaded, returned, ?_⟩, ⟨index, ?_, records⟩, (nothing rfl).1⟩
  · rw [warned a told closed, if_neg some_left, one_left, location]
  · change waits.after.frameIndex = t.frameIndex + waits.returned?.toList.length at counted
    rw [counted, quiet, index]
    rfl

end FrameStream.Tracker
