import FrameStream.Proofs.Relay.Steps

/-!
# Items of a stream

A source gives a relay events and buffers, and no other operation.  None of them changes the sources; caps change the
format if they are accepted, a file that is opened changes the location, and a buffer leaves behind what later ones
are compared with.  `fed` is the relay handed one item after the other.
-/

namespace FrameStream

namespace StreamItem

/-- What a relay is to do for an item. -/
def operation : StreamItem → Relay.Operation
  | event e => .handle e
  | buffer b => .transform b

def isEvent : StreamItem → Bool
  | event _ => true
  | buffer _ => false

def isBuffer : StreamItem → Bool
  | event _ => false
  | buffer _ => true

end StreamItem

namespace Relay

/-- The refusal of caps among the results. -/
def capsRefused? {α : Type} : Except Refusal α → Option Refusal
  | .error (.caps c reason) => some (.caps c reason)
  | _ => none

theorem capsRefused?_map {α β : Type} (f : α → β) (result : Except Refusal α) :
    capsRefused? (f <$> result) = capsRefused? result := by
  cases result with
  | ok a => rfl
  | error r => cases r <;> rfl

namespace Moment

/-- Caps are refused. -/
def capsRefusal? (m : Moment) : Option Refusal :=
  match m.step.operation with
  | .handle _ => capsRefused? m.outcome.result
  | _ => none

/-- A buffer is refused. -/
def rejects (m : Moment) : Bool := m.step.operation.isTransform && !m.succeeded

end Moment

/-- The moments of a relay that is handed items one after the other, with a sink that takes everything; caps that it
refuses are the last. -/
def fed (files : Files) (r : Relay) : List StreamItem → List Moment
  | [] => []
  | i :: rest =>
    let m : Moment := ⟨r, { operation := i.operation, files }⟩
    m :: if m.capsRefusal?.isSome then [] else fed files m.after rest

theorem outcome_handle (files : Files) (r : Relay) (e : StreamEvent) :
    (Moment.mk r { operation := .handle e, files }).outcome =
      ⟨(fun _ => none) <$> (r.handle files e).runOpen.result, (r.handle files e).runOpen.state,
        (r.handle files e).runOpen.pushed, (r.handle files e).runOpen.notices⟩ :=
  Script.run_map _ _ 0 (r.handle files e)

theorem outcome_transform (files : Files) (r : Relay) (b : Buffer) :
    (Moment.mk r { operation := .transform b, files }).outcome =
      ⟨some <$> (r.transform files b).runOpen.result, (r.transform files b).runOpen.state,
        (r.transform files b).runOpen.pushed, (r.transform files b).runOpen.notices⟩ :=
  Script.run_map _ _ 0 (r.transform files b)

variable {r : Relay} {m : Moment}

/-! ### Sources -/

private theorem sources_negotiate (caps : Caps) :
    (r.negotiate caps).Leaves fun after => after.sources = r.sources := by
  unfold negotiate
  split
  · exact rfl
  · exact rfl

private theorem sources_openFile (files : Files) (location : Path) :
    (r.openFile files location).Leaves fun after => after.sources = r.sources := by
  unfold openFile
  apply Script.leaves_noteAll
  split
  · exact rfl
  · exact rfl

private theorem sources_endStream : r.endStream.Leaves fun after => after.sources = r.sources := by
  unfold endStream
  split
  · exact rfl
  · apply Script.leaves_pushAll (by exact rfl)
    apply Script.leaves_noteAll
    exact Script.leaves_pushAll rfl rfl

private theorem sources_handle (files : Files) (e : StreamEvent) :
    (r.handle files e).Leaves fun after => after.sources = r.sources := by
  match e with
  | .caps caps => exact sources_negotiate caps
  | .tag (some location) => exact sources_openFile files (.ofText location)
  | .tag none => exact rfl
  | .endOfStream => exact sources_endStream

private theorem sources_build (initialSize : Transformation) (b : Buffer) (t : Tracker) :
    ({ r with tracker := t : Relay }.build initialSize b).Leaves fun after => after.sources = r.sources := by
  unfold build
  split
  · exact rfl
  · split
    · exact rfl
    · unfold emit
      dsimp only
      split
      · exact rfl
      · exact Script.leaves_pushAll rfl rfl

private theorem sources_transform (files : Files) (b : Buffer) :
    (r.transform files b).Leaves fun after => after.sources = r.sources := by
  by_cases checks : r.isStarted = false ∨ r.initialSize = none
  · obtain ⟨f, done⟩ := transform_of_refused files b checks
    rw [done]
    exact rfl
  · rw [not_or, Bool.not_eq_false] at checks
    obtain ⟨initialSize, negotiated⟩ := Option.ne_none_iff_exists'.1 checks.2
    rw [transform_eq files b checks.1 negotiated]
    apply Script.leaves_noteAll
    apply Script.leaves_pushAll (by exact rfl)
    split
    · exact rfl
    · exact sources_build initialSize b _

/-- No item changes the sources. -/
theorem sources_of_item {i : StreamItem} (asked : m.step.operation = i.operation) :
    m.after.sources = m.before.sources := by
  have leaves : m.script.Leaves fun after => after.sources = m.before.sources := by
    rw [Moment.script, asked]
    cases i with
    | event e => exact Script.leaves_map _ (sources_handle m.step.files e)
    | buffer b => exact Script.leaves_map _ (sources_transform m.step.files b)
  exact Script.state_run leaves m.step.accepts 0

/-! ### Events -/

/-- Caps that are accepted change the format, and others nothing. -/
theorem caps_cases {caps : Caps} (asked : m.step.operation = .handle (.caps caps)) :
    m.emitted = [] ∧
      ((∃ format, StreamFormat.ofCaps caps m.before.config.framerate = .ok format ∧
          m.after.tracker = m.before.tracker.setFormat format) ∨
        (m.capsRefusal?.isSome ∧ m.after.tracker = m.before.tracker)) := by
  have script : m.script = (m.before.negotiate caps).map fun _ => none := by
    rw [Moment.script, asked]
    rfl
  unfold Moment.capsRefusal?
  rw [asked]
  unfold negotiate at script
  cases made : StreamFormat.ofCaps caps m.before.config.framerate with
  | error reason =>
    rw [made] at script
    have outcome : m.outcome = _ := congrArg (Script.run m.step.accepts 0) script
    unfold Moment.emitted Moment.primary Moment.after
    rw [outcome]
    exact ⟨rfl, .inr ⟨rfl, rfl⟩⟩
  | ok format =>
    rw [made] at script
    have outcome : m.outcome = _ := congrArg (Script.run m.step.accepts 0) script
    unfold Moment.emitted Moment.primary Moment.after
    rw [outcome]
    exact ⟨rfl, .inl ⟨format, rfl, rfl⟩⟩

theorem outcome_opened {location : String} (asked : m.step.operation = .handle (.tag (some location))) :
    m.outcome.result = (match (m.before.tracker.onTag m.step.files (.ofText location)).failure with
      | some f => .error (.sidecar f)
      | none => .ok none) ∧
    m.after.tracker = (m.before.tracker.onTag m.step.files (.ofText location)).tracker := by
  have script : m.script = (m.before.openFile m.step.files (.ofText location)).map fun _ => none := by
    rw [Moment.script, asked]
    rfl
  unfold openFile at script
  dsimp only at script
  rw [Moment.after, Moment.outcome, script, Script.map_noteAll, Script.run_noteAll]
  cases (m.before.tracker.onTag m.step.files (.ofText location)).failure <;> exact ⟨rfl, rfl⟩

theorem emitted_opened {location : String} (asked : m.step.operation = .handle (.tag (some location))) :
    m.emitted = [] := by
  have stays : m.step.operation ≠ .stop := by
    rw [asked]
    exact nofun
  have refused : m.admitted = false := by
    rw [Moment.admitted, asked]
    rfl
  have midway : m.atEnd = false := by
    rw [Moment.atEnd, asked]
    simp
  exact (Moment.quiet_cases stays refused midway).2.1

theorem ended_of_started (started : m.before.isStarted) (asked : m.step.operation = .handle .endOfStream)
    (taken : m.step.IsOpen) :
    m.emitted = endOfStreamRound m.before.sources ++ m.closing ∧
      m.after.tracker = m.before.tracker.endSegment := by
  have ending : m.atEnd := by
    rw [Moment.atEnd, started, asked]
    simp
  exact Moment.atEnd_open ending taken

end Relay

end FrameStream
