import FrameStream.Proofs.Relay.Frames

/-!
# Starting over

A stop leaves a relay nothing but its configuration, with the location as it is by then, and the format
(`IsOf.stopped_eq`).  So a relay that is stopped and started again is one that was made anew with that location,
started, and given the format: not a similar one, but the same (`restarted_of_reached`).  That it was told of the
location and the format in whatever order, and whatever failed in between, is forgotten.
-/

namespace FrameStream.Relay

variable {c : Config} {r : Relay}

/-! ### Formats come from caps -/

/-- The format is one that caps describe. -/
def IsDescribed (c : Config) (r : Relay) : Prop :=
  ∀ format, r.tracker.format = some format → ∃ caps, StreamFormat.ofCaps caps c.framerate = .ok format

private theorem isDescribed_ofConfig (made : ofConfig c = .ok r) : r.IsDescribed c := by
  unfold ofConfig at made
  split at made
  · cases made
  · cases made
    intro format known
    cases known

private theorem IsDescribed.of_change {after : Relay} (h : r.IsDescribed c) (kept : r.IsOf c)
    (change : r.Change after) : after.IsDescribed c := by
  cases change with
  | started => exact h
  | stopped => exact h
  | negotiated format caps made =>
    intro other known
    obtain rfl : format = other := Option.some.inj known
    have framerate : r.config.framerate = c.framerate := by rw [kept.config]
    exact ⟨caps, framerate ▸ made⟩
  | relocated location t same =>
    intro format known
    exact h format (same.format ▸ known)
  | tracked t same =>
    intro format known
    exact h format (same.format ▸ known)

theorem isDescribed_reached (made : ofConfig c = .ok r) (steps : List Step) : (r.reached steps).IsDescribed c := by
  induction steps with
  | nil => exact isDescribed_ofConfig made
  | cons step past ih =>
    exact ih.of_change (isOf_reached (isOf_ofConfig made) past) (Moment.change ⟨r.reached past, step⟩)

/-! ### Stopping -/

@[simp] theorem stopped_stopped (r : Relay) : r.stopped.stopped = r.stopped := rfl

/-- A relay that was told of its location in advance and of its format afterwards, but not started. -/
def idle (c : Config) (location : Option Path) (format : Option StreamFormat) : Relay where
  config := { c with location }
  tracker := { Tracker.ofConfig { c with location } with format }
  initialSize := format.map StreamFormat.size

theorem IsOf.stopped_eq (kept : r.IsOf c) (sized : r.IsSized) :
    r.stopped = idle c r.tracker.location r.tracker.format := by
  unfold stopped idle
  rw [← kept.config, sized]

/-! ### Starting -/

/-- A relay with the sources of its configuration, if it has any. -/
def startedAnew (r : Relay) : Relay :=
  match r.config.sources with
  | .error _ => r
  | .ok sources => { r with sources }

theorem after_stop {m : Moment} (asked : m.step.operation = .stop) : m.after = m.before.stopped := by
  unfold Moment.after Moment.outcome Moment.script
  rw [asked]
  rfl

theorem after_start {m : Moment} (asked : m.step.operation = .start) : m.after = m.before.startedAnew := by
  unfold Moment.after Moment.outcome Moment.script
  rw [asked]
  change (Script.run _ _ (m.before.start.map _)).state = _
  unfold start startedAnew
  cases m.before.config.sources <;> rfl

theorem after_negotiate {m : Moment} {caps : Caps} {format : StreamFormat}
    (asked : m.step.operation = .negotiate caps)
    (described : StreamFormat.ofCaps caps m.before.config.framerate = .ok format) :
    m.after = { m.before with initialSize := some format.size, tracker := m.before.tracker.setFormat format } := by
  unfold Moment.after Moment.outcome Moment.script
  rw [asked]
  change (Script.run _ _ ((m.before.negotiate caps).map _)).state = _
  unfold negotiate
  rw [described]
  rfl

/-- A start is refused only for the sources. -/
theorem result_start {m : Moment} (asked : m.step.operation = .start) :
    m.outcome.result = (fun _ => none) <$> m.before.config.sources := by
  unfold Moment.outcome Moment.script
  rw [asked]
  change (Script.run _ _ (m.before.start.map _)).result = _
  unfold start
  cases m.before.config.sources <;> rfl

/-- A configuration that a relay was started with once serves again. -/
theorem exists_sources_of_started (made : r.IsOf c) {steps : List Step} {m : Moment} (there : m ∈ r.history steps)
    (asked : m.step.operation = .start) (succeeds : m.outcome.result.isOk) : ∃ sources, c.sources = .ok sources := by
  rw [result_start asked, (isOf_of_mem_history made there).sources_config] at succeeds
  cases all : c.sources with
  | error f =>
    rw [all] at succeeds
    cases succeeds
  | ok sources => exact ⟨sources, rfl⟩

/-! ### Starting over -/

theorem ofConfig_relocated (made : ofConfig c = .ok r) (location : Option Path) :
    ofConfig { c with location } = .ok (idle c location none) := by
  have same : Config.validate { c with location } = c.validate := rfl
  unfold ofConfig at made ⊢
  rw [same]
  split at made
  · cases made
  · rfl

/-- Started, and then given the caps if there are any. -/
def setUp (caps : Option Caps) : List Step :=
  (caps.map fun caps => { operation := .negotiate caps }).toList ++ [{ operation := .start }]

theorem reached_setUp (location : Option Path) {caps : Option Caps} {format : Option StreamFormat}
    (described : caps.map (StreamFormat.ofCaps · c.framerate) = format.map .ok) :
    (idle c location none).reached (setUp caps) = (idle c location format).startedAnew := by
  have started : (idle c location none).reached [{ operation := .start }] = (idle c location none).startedAnew :=
    after_start rfl
  cases caps with
  | none =>
    cases format with
    | none => exact started
    | some format => cases described
  | some caps =>
    cases format with
    | none => cases described
    | some format =>
      have sources (f : Option StreamFormat) : (idle c location f).config.sources = c.sources := rfl
      have framerate : (idle c location none).startedAnew.config.framerate = c.framerate := by
        unfold startedAnew
        split <;> rfl
      have known : StreamFormat.ofCaps caps c.framerate = .ok format := Option.some.inj described
      change Moment.after ⟨(idle c location none).reached [{ operation := .start }],
        { operation := .negotiate caps }⟩ = _
      rw [started, after_negotiate rfl (by rw [framerate]; exact known)]
      unfold startedAnew
      rw [sources, sources]
      cases c.sources <;> rfl

/-- A relay that is stopped and started again is the one that is made with the same configuration and the location as
it is by then, started, and given the format, if there was one; nothing that happens later tells them apart. -/
theorem restarted_of_reached (made : ofConfig c = .ok r) (steps : List Step) {halting starting : Step}
    (halts : halting.operation = .stop) (starts : starting.operation = .start) :
    let before := r.reached steps
    let restarted := r.reached (starting :: halting :: steps)
    before.config = { c with location := before.location? } ∧
    before.stopped.stopped = before.stopped ∧
    before.stopped.tracker = {
      triggers := c.triggers, readMetadata := c.readMetadata, location := before.location?,
      format := before.format?, previous := none, reopened := false, inProgress := false, frameIndex := 0,
      records := none, loadedFor := none } ∧
    ((∃ m ∈ r.history steps, m.step.operation = .start ∧ m.outcome.result.isOk) →
      (Moment.mk (r.reached (halting :: steps)) starting).outcome.result = .ok none) ∧
    ∃ fresh, ofConfig { c with location := before.location? } = .ok fresh ∧
      (∃ caps : Option Caps, caps.map (StreamFormat.ofCaps · c.framerate) = before.format?.map .ok) ∧
      ∀ caps : Option Caps, caps.map (StreamFormat.ofCaps · c.framerate) = before.format?.map .ok →
        restarted = fresh.reached (setUp caps) ∧
        ∀ later, (restarted.history later).map Moment.outcome =
          ((fresh.reached (setUp caps)).history later).map Moment.outcome := by
  intro before restarted
  have kept : before.IsOf c := isOf_reached (isOf_ofConfig made) steps
  have stopped : before.stopped = idle c before.location? before.format? :=
    kept.stopped_eq (isSized_reached made steps)
  have halted : r.reached (halting :: steps) = idle c before.location? before.format? :=
    (after_stop halts).trans stopped
  refine ⟨kept.config, stopped_stopped _, by rw [stopped]; rfl, ?_, idle c before.location? none,
    ofConfig_relocated made before.location?, ?_, ?_⟩
  · rintro ⟨m, there, asked, succeeds⟩
    obtain ⟨sources, all⟩ := exists_sources_of_started (isOf_ofConfig made) there asked succeeds
    have same : (idle c before.location? before.format?).config.sources = .ok sources := all
    rw [result_start starts, halted, same]
    rfl
  · cases known : before.format? with
    | none => exact ⟨none, rfl⟩
    | some format =>
      obtain ⟨caps, described⟩ := isDescribed_reached made steps format known
      exact ⟨some caps, congrArg some described⟩
  · intro caps described
    have same : restarted = (idle c before.location? none).reached (setUp caps) := by
      rw [reached_setUp before.location? described, ← halted]
      exact after_start starts
    exact ⟨same, fun later => by rw [same]⟩

/-- Two sources with metadata. -/
def wornConfig : Config := { twinConfig with readMetadata := true }

def wornRelay : Relay := { config := wornConfig, tracker := .ofConfig wornConfig }

/-- A frame of one file went out and the end of stream before the next was refused; then a file was opened whose sidecar
is faulty, and a format without a size was refused. -/
def worn : List Step := [
  { operation := .negotiate { name := "video/x-h264" } },
  { operation := .handle (.tag (some "c.mp4")), files := { files := [([Utf8.encode "c.json"], Utf8.encode "[")] } },
  { operation := .transform {}, accepts := fun _ => false },
  { operation := .relocate (some (.ofText "b.mp4")) },
  { operation := .transform {} },
  { operation := .relocate (some (.ofText "a.mp4")) },
  { operation := .negotiate { name := "video/x-h264", width := some 640, height := some 480 } },
  { operation := .start }]

/-- A relay in the middle of a segment, with a file just opened, is started over. -/
theorem restarted_worn :
    let before := wornRelay.reached worn
    let caps : Caps := { name := "video/x-h264", width := some 640, height := some 480 }
    (before.tracker.inProgress = true ∧ before.tracker.reopened = true ∧ before.tracker.previous.isSome) ∧
      before.location? = some (.ofText "c.mp4") ∧
      ∃ fresh, ofConfig { wornConfig with location := some (.ofText "c.mp4") } = .ok fresh ∧
        wornRelay.reached ({ operation := .start } :: { operation := .stop } :: worn) =
          fresh.reached (setUp (some caps)) := by
  intro before caps
  have made : ofConfig wornConfig = .ok wornRelay := rfl
  obtain ⟨left, location, format⟩ :
      (before.tracker.inProgress = true ∧ before.tracker.reopened = true ∧ before.tracker.previous.isSome) ∧
        before.location? = some (.ofText "c.mp4") ∧
        before.format? = some ⟨"h264", 640, 480, "30/1"⟩ := by decide +kernel
  have halts : ({ operation := .stop } : Step).operation = .stop := rfl
  have starts : ({ operation := .start } : Step).operation = .start := rfl
  obtain ⟨-, -, -, -, fresh, anew, -, same⟩ := restarted_of_reached made worn halts starts
  have described : StreamFormat.ofCaps caps wornConfig.framerate = .ok ⟨"h264", 640, 480, "30/1"⟩ := by
    decide +kernel
  change ofConfig { wornConfig with location := before.location? } = _ at anew
  rw [location] at anew
  refine ⟨left, location, fresh, anew, (same (some caps) ?_).1⟩
  change some (StreamFormat.ofCaps caps wornConfig.framerate) = before.format?.map _
  rw [format, described]
  rfl

end FrameStream.Relay
