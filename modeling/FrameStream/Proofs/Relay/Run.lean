import FrameStream.Proofs.Relay.Changes

/-!
# Runs of a relay

A run is a sequence of steps, each with the files as they are at the time and with what the sink is ready to take.
Steps and moments are listed latest first, so that the tail of a history is the past of its head.  A relay that was
made from a configuration keeps to it along every run (`isOf_reached`).
-/

namespace FrameStream.Relay

/-! ### Steps and moments -/

/-- An operation, the files at the time, and which pushes the sink takes. -/
structure Step where
  operation : Operation
  files : Files := {}
  accepts : Nat → Bool := fun _ => true

/-- The sink takes every push. -/
def Step.IsOpen (s : Step) : Prop := s.accepts = fun _ => true

/-- A step and the relay that takes it. -/
structure Moment where
  before : Relay
  step : Step

namespace Moment

def script (m : Moment) : Script Relay (Option Envelope) := m.before.perform m.step.files m.step.operation

def outcome (m : Moment) : Outcome Relay (Option Envelope) := m.script.run m.step.accepts 0

def after (m : Moment) : Relay := m.outcome.state

/-- The envelope that is left to the host to push. -/
def primary (m : Moment) : List Envelope :=
  match m.outcome.result with
  | .ok (some e) => [e]
  | _ => []

/-- The envelopes that the consumer gets, in order. -/
def emitted (m : Moment) : List Envelope := m.outcome.pushed ++ m.primary

end Moment

/-! ### Runs -/

/-- The relay after the steps. -/
def reached (r : Relay) : List Step → Relay
  | [] => r
  | step :: past => (Moment.mk (r.reached past) step).after

/-- The moments of the steps. -/
def history (r : Relay) : List Step → List Moment
  | [] => []
  | step :: past => ⟨r.reached past, step⟩ :: r.history past

theorem reached_append (r : Relay) (later past : List Step) :
    r.reached (later ++ past) = (r.reached past).reached later := by
  induction later with
  | nil => rfl
  | cons step later ih => rw [List.cons_append, reached, reached, ih]

/-! ### What a relay keeps of its configuration -/

/-- The relay was made from the configuration.  Only the location may have changed since. -/
structure IsOf (c : Config) (r : Relay) : Prop where
  config : r.config = { c with location := r.tracker.location }
  sources : r.sources = [] ∨ c.sources = .ok r.sources
  triggers : r.tracker.triggers = c.triggers
  readMetadata : r.tracker.readMetadata = c.readMetadata
  format : r.initialSize.isSome → r.tracker.format.isSome

variable {c : Config} {r : Relay}

theorem isOf_ofConfig (made : ofConfig c = .ok r) : r.IsOf c := by
  unfold ofConfig at made
  split at made
  · cases made
  · cases made
    exact ⟨rfl, .inl rfl, rfl, rfl, fun h => absurd h Bool.false_ne_true⟩

/-- A relay is only made from a configuration that is valid. -/
theorem validate_of_ofConfig (made : ofConfig c = .ok r) : c.validate = .ok () := by
  unfold ofConfig at made
  split at made
  · cases made
  · rename_i valid
    exact valid

/-- What the configuration says but for the location is what the relay goes by. -/
theorem IsOf.sources_config (h : r.IsOf c) : r.config.sources = c.sources := by
  rw [h.config]
  rfl

theorem IsOf.of_change {after : Relay} (h : r.IsOf c) (change : r.Change after) : after.IsOf c := by
  cases change with
  | started sources made => exact ⟨h.config, .inr (h.sources_config ▸ made), h.triggers, h.readMetadata, h.format⟩
  | stopped =>
    have triggers : r.config.triggers = c.triggers := by
      rw [h.config]
      rfl
    have readMetadata : r.config.readMetadata = c.readMetadata := by rw [h.config]
    have config : r.config = { c with location := r.config.location } := by rw [h.config]
    exact ⟨config, .inl rfl, triggers, readMetadata, h.format⟩
  | negotiated => exact ⟨h.config, h.sources, h.triggers, h.readMetadata, fun _ => rfl⟩
  | relocated location t same =>
    have config : { r.config with location } = { c with location := t.location } := by
      rw [h.config, same.location]
      rfl
    exact ⟨config, h.sources, same.triggers.trans h.triggers, same.readMetadata.trans h.readMetadata,
      fun negotiated => same.format ▸ h.format negotiated⟩
  | tracked t same =>
    exact ⟨by rw [h.config, same.location], h.sources, same.triggers.trans h.triggers,
      same.readMetadata.trans h.readMetadata, fun negotiated => same.format ▸ h.format negotiated⟩

/-! ### Whole runs -/

theorem Moment.change (m : Moment) : m.before.Change m.after :=
  Script.state_run (leaves_perform m.step.files m.before m.step.operation) m.step.accepts 0

theorem isOf_after {m : Moment} (h : m.before.IsOf c) : m.after.IsOf c := h.of_change m.change

/-- Whatever is done to it, a relay keeps to its configuration. -/
theorem isOf_reached (h : r.IsOf c) (steps : List Step) : (r.reached steps).IsOf c := by
  induction steps with
  | nil => exact h
  | cons step past ih => exact isOf_after ih

theorem isOf_of_mem_history (made : r.IsOf c) {steps : List Step} {m : Moment} (h : m ∈ r.history steps) :
    m.before.IsOf c := by
  induction steps with
  | nil => cases h
  | cons step past ih =>
    rcases List.mem_cons.1 h with rfl | earlier
    · exact isOf_reached made past
    · exact ih earlier

/-! ### Two configurations -/

/-- One source, with metadata beside the files. -/
def recordingConfig : Config := { sourceId := some "cam", frameType := .embedded, readMetadata := true }

def recordingRelay : Relay := { config := recordingConfig, tracker := .ofConfig recordingConfig }

theorem ofConfig_recordingConfig : ofConfig recordingConfig = .ok recordingRelay := rfl

/-- Two sources, by a pattern. -/
def pairConfig : Config := { multistream := true, pattern := some "cam-%d", streams := 2, frameType := .embedded }

def pairRelay : Relay := { config := pairConfig, tracker := .ofConfig pairConfig }

theorem ofConfig_pairConfig : ofConfig pairConfig = .ok pairRelay := rfl

theorem sources_pairConfig : pairConfig.sources = .ok [⟨"cam-0"⟩, ⟨"cam-1"⟩] := rfl

end FrameStream.Relay
