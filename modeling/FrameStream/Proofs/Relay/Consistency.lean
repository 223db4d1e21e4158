import FrameStream.Proofs.Relay.Rejections
import FrameStream.Proofs.Source.Topics

/-!
# What a relay can rely on

The sources of a relay are none or all of those that its configuration makes, which are as many as were asked for and at
least one; and the size is there exactly with the format, and is its size.  Both hold in every state, whatever was
refused on the way there.  So a buffer is refused for coming too early only by the first two checks, which leave
everything as it was (`consistent_of_reached`): once it has passed them there is a first source, a format after the
record was taken, and a last envelope.
-/

namespace FrameStream

/-! ### Sources -/

theorem Config.streams_pos {c : Config} (valid : c.validate = .ok ()) : 0 < c.streams := by
  unfold validate at valid
  split at valid
  · cases valid
  · split at valid
    · cases valid
    · omega

theorem Config.length_sources {c : Config} {sources : List Source} (made : c.sources = .ok sources) :
    sources.length = if c.multistream then c.streams else 1 := by
  obtain ⟨ids, all, rfl⟩ := map_eq_ok.1 made
  rw [List.length_map]
  cases split : c.multistream with
  | true =>
    rw [sourceIds_of_multistream split, expandPattern_eq_ok] at all
    obtain ⟨p, -, -, rfl⟩ := all
    simp [Pattern.expand]
  | false =>
    rw [sourceIds, split, if_neg Bool.false_ne_true] at all
    cases id : c.sourceId with
    | none =>
      rw [id] at all
      cases all
    | some id' =>
      rw [id] at all
      cases all
      rfl

/-- A valid configuration asks for at least one source. -/
theorem Config.sources_ne_nil {c : Config} (valid : c.validate = .ok ()) {sources : List Source}
    (made : c.sources = .ok sources) : sources ≠ [] := by
  have one_asked := streams_pos valid
  have all := length_sources made
  rintro rfl
  rw [List.length_nil] at all
  split at all <;> omega

namespace Relay

variable {c : Config} {r : Relay} {m : Moment} {b : Buffer}

/-! ### Negotiation -/

/-- Caps that are refused change nothing. -/
theorem after_of_refused_caps {caps : Caps}
    (asked : m.step.operation = .negotiate caps ∨ m.step.operation = .handle (.caps caps)) {e : Refusal}
    (fails : m.outcome.result = .error e) : m.after = m.before := by
  have script : m.script = (m.before.negotiate caps).map fun _ => none := by
    rw [Moment.script]
    rcases asked with asked | asked <;> rw [asked] <;> rfl
  rw [Moment.after]
  rw [Moment.outcome, script, negotiate] at fails ⊢
  cases described : StreamFormat.ofCaps caps m.before.config.framerate with
  | error reason => rfl
  | ok format =>
    rw [described] at fails
    cases fails

/-! ### Buffers -/

/-- What is found against an admitted buffer is not that it comes too early. -/
theorem result_of_admitted (kept : m.before.IsOf c) (passes : m.admitted) :
    m.outcome.result ≠ .error .notStarted ∧ m.outcome.result ≠ .error .notNegotiated := by
  obtain ⟨b, asked, -⟩ := Moment.passage_of_admitted kept passes
  have found {e : Refusal} (fails : m.outcome.result = .error e) : e = .sinkClosed ∨ m.objection? b = some e := by
    rcases refusal_cases kept asked passes fails with ⟨-, closed⟩ | ⟨objection, -⟩
    · exact .inl closed
    · exact .inr objection
  have objections {e : Refusal} (objection : m.objection? b = some e) : e ≠ .notStarted ∧ e ≠ .notNegotiated := by
    unfold Moment.objection? at objection
    split at objection
    · cases objection
      exact ⟨nofun, nofun⟩
    · split at objection
      · cases objection
        exact ⟨nofun, nofun⟩
      · cases objection
  constructor
  · intro fails
    exact (found fails).elim nofun fun objection => (objections objection).1 rfl
  · intro fails
    exact (found fails).elim nofun fun objection => (objections objection).2 rfl

/-- The two checks that a buffer has to pass are the only ones that find it too early. -/
theorem early_iff (kept : m.before.IsOf c) (asked : m.step.operation = .transform b) :
    (m.outcome.result = .error .notStarted ↔ m.before.sources = []) ∧
      (m.outcome.result = .error .notNegotiated ↔ m.before.sources ≠ [] ∧ m.before.initialSize = none) := by
  have script : m.script = (m.before.transform m.step.files b).map some := by
    rw [Moment.script, asked]
    rfl
  have started_iff : m.before.isStarted = true ↔ m.before.sources ≠ [] := by simp [isStarted]
  cases started : m.before.isStarted with
  | false =>
    have nothing : m.before.sources = [] := by simpa [isStarted] using started
    have result : m.outcome.result = .error .notStarted := by
      rw [Moment.outcome, script, transform_of_stopped m.step.files b started]
      rfl
    simp [result, nothing]
  | true =>
    have some_made := started_iff.1 started
    cases size : m.before.initialSize with
    | none =>
      have result : m.outcome.result = .error .notNegotiated := by
        rw [Moment.outcome, script, transform_of_unnegotiated m.step.files b started size]
        rfl
      simp [result, some_made]
    | some initialSize =>
      have passes : m.admitted = true := by simp [Moment.admitted, asked, Operation.isTransform, started, size]
      obtain ⟨begun, negotiated⟩ := result_of_admitted kept passes
      simp [begun, negotiated, some_made]

/-- Where the frames of a buffer are built, everything is there that they are built from. -/
theorem found_of_admitted (sized : m.before.IsSized) (begun : m.before.sources ≠ [])
    (negotiated : m.before.initialSize ≠ none) (b : Buffer) :
    m.entered.sources[0]?.isSome ∧ m.entered.recordTaken.tracker.format.isSome ∧
      ∀ p, (m.entered.recordTaken.fanOut p b).getLast?.isSome := by
  obtain ⟨first, others, all⟩ := List.exists_cons_of_ne_nil begun
  have sources : m.entered.sources = first :: others := all
  have format : m.entered.recordTaken.tracker.format = m.before.tracker.format :=
    (m.entered.tracker.sameStream_nextRecord.trans m.sameStream_entered).format
  refine ⟨by simp [sources], ?_, fun p => ?_⟩
  · rw [format]
    cases known : m.before.tracker.format with
    | some f => rfl
    | none =>
      rw [IsSized, known] at sized
      exact absurd sized negotiated
  · have envelopes : m.entered.recordTaken.fanOut p b ≠ [] := by
      unfold fanOut
      rw [show m.entered.recordTaken.sources = first :: others from all]
      exact nofun
    rw [List.getLast?_eq_some_getLast envelopes]
    rfl

/-! ### All states -/

/-- In every state the sources are none or all of those of the configuration, of which there are as many as it asks for,
and the size is that of the format.  Caps that are refused leave the state as it was.  A buffer is too early exactly if
one of the first two checks finds it so, and for a buffer that passes them nothing is missing later. -/
theorem consistent_of_reached (made : ofConfig c = .ok r) (past : List Step) (next : Step) :
    let m : Moment := ⟨r.reached past, next⟩
    (m.before.sources = [] ∨ m.before.config.sources = .ok m.before.sources) ∧
    (∀ sources, m.before.config.sources = .ok sources → sources ≠ [] ∧
      sources.length = if m.before.config.multistream then m.before.config.streams else 1) ∧
    m.before.initialSize =
      m.before.format?.map (fun f => .initialSize f.width.toUInt64 f.height.toUInt64) ∧
    (∀ caps e, next.operation = .negotiate caps ∨ next.operation = .handle (.caps caps) →
      m.outcome.result = .error e → m.after = m.before) ∧
    ∀ b, next.operation = .transform b →
      (m.outcome.result = .error .notStarted ↔ m.before.sources = []) ∧
      (m.outcome.result = .error .notNegotiated ↔ m.before.sources ≠ [] ∧ m.before.initialSize = none) ∧
      (m.before.sources ≠ [] → m.before.initialSize ≠ none →
        m.entered.sources[0]?.isSome ∧ m.entered.recordTaken.tracker.format.isSome ∧
          ∀ p, (m.entered.recordTaken.fanOut p b).getLast?.isSome) := by
  intro m
  have kept : m.before.IsOf c := isOf_reached (isOf_ofConfig made) past
  have sized : m.before.IsSized := isSized_reached made past
  have valid : m.before.config.validate = .ok () := by
    rw [kept.config]
    exact validate_of_ofConfig (c := c) made
  refine ⟨?_, ?_, sized, ?_, ?_⟩
  · rw [kept.sources_config]
    exact kept.sources
  · intro sources all
    exact ⟨Config.sources_ne_nil valid all, Config.length_sources all⟩
  · intro caps e asked fails
    exact after_of_refused_caps asked fails
  · intro b asked
    obtain ⟨stopped, unnegotiated⟩ := early_iff kept asked
    exact ⟨stopped, unnegotiated, fun begun negotiated => found_of_admitted sized begun negotiated b⟩

/-- The format outlives a stop and the sources do not, so that only the next start lets a buffer in; caps without a size
are refused in between. -/
theorem consistent_startedOver :
    let stopped : Moment := ⟨wornRelay.reached ({ operation := .stop } :: worn), { operation := .transform {} }⟩
    let refused : Moment := ⟨stopped.before, { operation := .negotiate { name := "video/x-h264" } }⟩
    let started : Moment :=
      ⟨wornRelay.reached ({ operation := .start } :: { operation := .stop } :: worn), { operation := .transform {} }⟩
    (stopped.before.sources = [] ∧ stopped.before.initialSize = some (.initialSize 640 480) ∧
      stopped.outcome.result = .error .notStarted) ∧
    refused.after = refused.before ∧
    started.before.sources.length = 2 ∧ started.before.initialSize = some (.initialSize 640 480) ∧
      started.entered.sources[0]?.isSome ∧ started.entered.recordTaken.tracker.format.isSome ∧
      started.outcome.result ≠ .error .notStarted ∧ started.outcome.result ≠ .error .notNegotiated := by
  intro stopped refused started
  have made : ofConfig wornConfig = .ok wornRelay := rfl
  obtain ⟨gone, size, format⟩ : stopped.before.sources = [] ∧
      stopped.before.initialSize = some (.initialSize 640 480) ∧
      started.before.format? = some ⟨"h264", 640, 480, "30/1"⟩ := by decide +kernel
  obtain ⟨some_made, fails⟩ : started.before.sources ≠ [] ∧
      refused.outcome.result = .error (.caps { name := "video/x-h264" } .widthMissing) := by decide +kernel
  obtain ⟨-, -, -, -, stopped_buffers⟩ := consistent_of_reached made ({ operation := .stop } :: worn) stopped.step
  obtain ⟨-, -, -, caps, -⟩ := consistent_of_reached made ({ operation := .stop } :: worn) refused.step
  obtain ⟨sources, counted, sized, -, buffers⟩ :=
    consistent_of_reached made ({ operation := .start } :: { operation := .stop } :: worn) started.step
  obtain ⟨too_early, unnegotiated, found⟩ := buffers {} rfl
  have sized : started.before.initialSize = some (.initialSize 640 480) := by
    rw [sized, format]
    rfl
  have negotiated : started.before.initialSize ≠ none := by simp [sized]
  obtain ⟨first, format, -⟩ := found some_made negotiated
  refine ⟨⟨gone, size, (stopped_buffers {} rfl).1.2 gone⟩, caps _ _ (.inl rfl) fails,
    (counted _ (sources.resolve_left some_made)).2, sized, first, format, ?_, ?_⟩
  · exact fun fails => some_made (too_early.1 fails)
  · exact fun fails => negotiated (unnegotiated.1 fails).2

end Relay

end FrameStream
