import FrameStream.Pipeline.Basic
import FrameStream.Proofs.Envelope.Dumps
import FrameStream.Proofs.Location.Creation
import FrameStream.Proofs.Pipeline.Feeding
import FrameStream.Proofs.Pipeline.Progress

/-!
# Nothing is lost between a relay and its output

A pipeline that is not cancelled hands to its output what the relay emits when it is fed with the items of the feed
one after the other, up to the end of the feed, the first failure of it or the first caps that the relay refuses, and
this whatever turns worker and output take.  All work breaks off instead if the capacity is more than a channel can
have (`run_of_feed`).
-/

namespace FrameStream

/-- What comes of a run if the relay was fed with these items from a feed of moments. -/
def resultOf (items : List StreamItem) (fed : List Relay.Moment) (ms : List Moment) : Except Failure Stats :=
  match failureOf fed ms with
  | some f => .error f
  | none => .ok {
      events := items.countP StreamItem.isEvent
      buffers := items.countP StreamItem.isBuffer
      rejected := fed.countP Relay.Moment.rejects
      envelopes := (fed.flatMap Relay.Moment.emitted).length }

namespace Pipeline

variable {p : Pipeline} {files : Files} {dump : Option (List Bytes)} {feed : Feed} {relay : Relay}

/-- The output takes every envelope: a dump has room for the lengths of it. -/
def Takes (p : Pipeline) (e : Envelope) : Prop := ∀ path, p.config.output = .dump path → Dump.Fits e

/-! ### Outputs -/

private theorem openOutput_cases {created : Files} (ready : p.openOutput files = .ok (dump, created)) :
    (dump = none ∧ ∀ path, p.config.output ≠ .dump path) ∨
      ∃ path names, p.config.output = .dump path ∧ dump = some names ∧
        files.create path = .ok (names, created) := by
  unfold openOutput at ready
  split at ready
  · rename_i path output
    split at ready
    · cases ready
    · rename_i names others made
      cases ready
      exact .inr ⟨path, names, output, rfl, made⟩
  · rename_i other
    cases ready
    exact .inl ⟨rfl, other⟩

/-- What an output takes is written, and a dump of it is read back. -/
private theorem exists_written {created : Files} (ready : p.openOutput files = .ok (dump, created))
    {es : List Envelope} (taken : ∀ e ∈ es, p.Takes e) :
    ∃ written, writeDump dump es created = .ok written ∧
      ∀ path, p.config.output = .dump path →
        ∃ data, written.read path = .ok data ∧ Dump.decode data = .ok (es.map Envelope.settled) := by
  rcases openOutput_cases ready with ⟨rfl, other⟩ | ⟨path, names, output, rfl, made⟩
  · exact ⟨created, rfl, fun path output => absurd output (other path)⟩
  · have fits : ∀ e ∈ es, Dump.Fits e := fun e he => taken e he path output
    have encoded : Dump.encodeAll es = .ok (es.flatMap Dump.layout) := Dump.encodeAll_eq_ok_iff.2 ⟨fits, rfl⟩
    refine ⟨created.write names (es.flatMap Dump.layout), ?_, ?_⟩
    · rw [writeDump, encoded]
    · intro path' same
      rw [output] at same
      cases same
      exact ⟨_, Files.read_write_of_create made _, Dump.decode_flatMap_layout fits⟩

/-! ### Conclusions -/

/-- What comes of a line depends on what was delivered and on the work alone. -/
private theorem conclude_congr {line line' : Line} (failed : line.outputFailed = line'.outputFailed)
    (same : (line.delivered.toList, line.work) = (line'.delivered.toList, line'.work)) (files : Files) :
    p.conclude files dump line = p.conclude files dump line' := by
  rw [Prod.mk.injEq] at same
  unfold conclude
  rw [failed, same.1, same.2]

private theorem conclude_of_taken {created written : Files} {line : Line} {es : List Envelope} {work : Work}
    (intact : line.outputFailed = false) (done : (line.delivered.toList, line.work) = (es, work))
    (wrote : writeDump dump es created = .ok written) :
    (p.conclude created dump line).delivered = es ∧ (p.conclude created dump line).files = written ∧
      (p.conclude created dump line).result = match work.failure with
        | some f => .error f
        | none => .ok { work.stats with envelopes := es.length } := by
  rw [Prod.mk.injEq] at done
  unfold conclude
  rw [intact, done.1, done.2]
  dsimp only
  rw [wrote]
  refine ⟨rfl, rfl, ?_⟩
  cases work.failure <;> rfl

/-! ### Runs -/

/-- A relay that starts is put to work at once. -/
private theorem run_eq_work {sources : List Source} (made : Relay.ofConfig p.config.relay = .ok relay)
    (named : p.config.relay.sources = .ok sources) (feed : Feed) :
    p.run files true feed = p.work files true feed { relay with sources } := by
  have config : relay.config = p.config.relay := by
    unfold Relay.ofConfig at made
    split at made
    · cases made
    · cases made
      rfl
  have starts : relay.start = .done (.ok ()) { relay with sources } := by
    unfold Relay.start
    rw [config, named]
  unfold run
  rw [made]
  dsimp only
  rw [starts, Script.runOpen_done]
  rfl

private theorem line_of_crowded (crowded : maxCapacity < p.config.capacity) (outputOpen : Bool) (feed : Feed)
    (relay : Relay) : p.line outputOpen feed relay = .error (.plain (.channelRoom p.config.capacity)) := by
  have none : ¬ (0 < p.config.capacity ∧ p.config.capacity ≤ maxCapacity) := fun room =>
    absurd room.2 (Nat.not_le.2 crowded)
  rw [line, Channel.withCapacity, dif_neg none]

private theorem exists_line (going : p.cancelled = false)
    (room : 0 < p.config.capacity ∧ p.config.capacity ≤ maxCapacity) (outputOpen : Bool) (feed : Feed)
    (relay : Relay) :
    ∃ channel, channel.IsNew ∧ p.line outputOpen feed relay = .ok (.ofFeed channel outputOpen feed { relay }) := by
  have made : Channel.withCapacity p.config.capacity = .ok { capacity := p.config.capacity, room } := dif_pos room
  refine ⟨_, Channel.isNew_of_withCapacity made, ?_⟩
  rw [line, made, going]

/-- However a line comes to its end, what comes of it is what comes of the run. -/
private theorem run_of_ended {created : Files} {sources : List Source} {channel : Channel} (new : channel.IsNew)
    (made : Relay.ofConfig p.config.relay = .ok relay) (named : p.config.relay.sources = .ok sources)
    (ready : p.openOutput files = .ok (dump, created)) {feed : Feed} {w : Work}
    (start : p.line true feed { relay with sources } = .ok (.ofFeed channel true feed w)) (turns : List Turn) :
    let line := (Line.ofFeed channel true feed w).run created turns
    line.ended → p.run files true feed = p.conclude created dump line := by
  intro line atEnd
  -- `finish` is the run of one such list of turns
  obtain ⟨others, way, finished⟩ := Line.exists_finish new created feed w
  obtain ⟨intact, done⟩ := (Line.delivered_of_run new created feed w turns).2 atEnd
  obtain ⟨unbroken, same⟩ := (Line.delivered_of_run new created feed w others).2 finished
  have run : p.run files true feed = p.work files true feed { relay with sources } := run_eq_work made named feed
  rw [run, work, start]
  dsimp only
  rw [ready]
  dsimp only
  rw [way]
  exact conclude_congr (unbroken.trans intact.symm) (same.trans done.symm) created

/-- All work breaks off if the channel was to have more room than a channel can have.  Otherwise there is a line, and
whatever turns worker and output take, what was delivered is at every time a part of what the relay emits when it is
fed with the items at once; under a fair schedule the end is reached, and there it is all of it, with the counts of
the items if neither caps were refused nor the feed failed.  A dump is read back but for the greatest timestamp. -/
theorem run_of_feed {created : Files} {sources : List Source} (going : p.cancelled = false)
    (room : 0 < p.config.capacity) (made : Relay.ofConfig p.config.relay = .ok relay)
    (named : p.config.relay.sources = .ok sources) (ready : p.openOutput files = .ok (dump, created))
    (uncancelled : .cancel ∉ feed.moments) :
    let items := Moment.itemsOf feed.moments
    let fed := { relay with sources : Relay }.fed created items
    let emission := fed.flatMap Relay.Moment.emitted
    (∀ e ∈ emission, p.Takes e) →
    (maxCapacity < p.config.capacity → p.run files true feed =
      { result := .error (.plain (.channelRoom p.config.capacity)), pipeline := p, files }) ∧
    (p.config.capacity ≤ maxCapacity → ∃ line, p.line true feed { relay with sources } = .ok line ∧
      (∀ turns, (line.run created turns).delivered.toList <+: emission) ∧
      (∀ schedule, Line.Fair schedule → ∃ n, (line.run created (Line.turnsOf schedule n)).ended) ∧
      (∀ turns, (line.run created turns).ended →
        p.run files true feed = p.conclude created dump (line.run created turns)) ∧
      (p.run files true feed).delivered = emission ∧
      (p.run files true feed).result = resultOf items fed feed.moments ∧
      ∀ path, p.config.output = .dump path → ∃ data, (p.run files true feed).files.read path = .ok data ∧
        Dump.decode data = .ok (emission.map Envelope.settled)) := by
  intro items fed emission taken
  refine ⟨fun crowded => ?_, fun few => ?_⟩
  · rw [run_eq_work made named, work, line_of_crowded crowded]
  let w : Work := { relay := { relay with sources } }
  obtain ⟨channel, new, start⟩ := exists_line going ⟨room, few⟩ true feed { relay with sources }
  let line := Line.ofFeed channel true feed w
  have feeds : w.Feeds (w.through created feed.moments).2 (w.through created feed.moments).1 items fed feed.moments :=
    Work.feeds_through rfl rfl rfl feed.moments uncancelled
  have whole : (w.through created feed.moments).1 = emission := feeds.emission
  have delivered := Line.delivered_of_run new created feed w
  have concluded := run_of_ended new made named ready start
  obtain ⟨turns, -, atEnd⟩ := Line.exists_finish new created feed w
  obtain ⟨intact, done⟩ := (delivered turns).2 atEnd
  have all : w.through created feed.moments = (emission, (w.through created feed.moments).2) := Prod.ext whole rfl
  obtain ⟨written, wrote, readBack⟩ := exists_written ready taken
  obtain ⟨sent, files_after, result⟩ := conclude_of_taken (p := p) intact (done.trans all) wrote
  refine ⟨line, start, fun turns => whole ▸ (delivered turns).1, ?_, concluded, ?_, ?_, ?_⟩
  · intro schedule fair
    exact Line.exists_ended_of_fair (Line.sound_ofFeed new feed w) fair
  · rw [concluded turns atEnd, sent]
  · rw [concluded turns atEnd, result, resultOf, ← feeds.failure]
    cases clean : (w.through created feed.moments).2.failure with
    | some f => rfl
    | none =>
      rw [feeds.stats clean]
      simp [w, emission]
  · rw [concluded turns atEnd, files_after]
    exact readBack

/-- Two sources, and a dump behind a channel. -/
def twinPipeline (capacity : Nat) : Pipeline where
  config := { inputs := [], loops := 0, output := .dump (.ofText "/out.dump"), relay := Relay.pairConfig, capacity }

/-- A buffer that comes too early, and one behind the caps. -/
def twinMoments : List Moment := [
  .item (.buffer {}),
  .item (.event (.caps { name := "video/x-h264", width := some 640, height := some 480 })),
  .startAgain,
  .item (.buffer { data := [1, 2] }),
  .item (.event .endOfStream)]

def twinStarted : Relay := { Relay.pairRelay with sources := [⟨"cam-0"⟩, ⟨"cam-1"⟩] }

def twinFiles : Files := Files.write {} [Utf8.encode "out.dump"] []

/-- One envelope at a time is enough for all of it, and a channel with room for `2 ^ 61` cannot be made. -/
theorem run_twinMoments :
    (let run := (twinPipeline 1).run {} true (.listed twinMoments)
    run.result = .ok { events := 2, buffers := 2, rejected := 1, envelopes := 4 } ∧
      run.delivered = (twinStarted.fed twinFiles (Moment.itemsOf twinMoments)).flatMap Relay.Moment.emitted ∧
      (∃ line, (twinPipeline 1).line true (.listed twinMoments) twinStarted = .ok line ∧
        ∀ schedule, Line.Fair schedule → ∃ n, (line.run twinFiles (Line.turnsOf schedule n)).ended) ∧
      ∃ data, run.files.read (.ofText "/out.dump") = .ok data ∧
        Dump.decode data = .ok (run.delivered.map Envelope.settled)) ∧
    ((twinPipeline 0x2000000000000000).run {} true (.listed twinMoments)).result =
      .error (.plain (.channelRoom 0x2000000000000000)) := by
  have moments : (Feed.listed twinMoments).moments = twinMoments := Feed.moments_listed _
  have uncancelled : Moment.cancel ∉ (Feed.listed twinMoments).moments := by
    rw [moments]
    simp [twinMoments]
  have taken : ∀ e ∈ (twinStarted.fed twinFiles (Moment.itemsOf twinMoments)).flatMap Relay.Moment.emitted,
      e.segments.length < 0x100000000 ∧ ∀ s ∈ e.segments, s.length < 0x100000000 := by decide +kernel
  have ready (capacity : Nat) :
      (twinPipeline capacity).openOutput {} = .ok (some [Utf8.encode "out.dump"], twinFiles) := rfl
  have conclusion (capacity : Nat) (room : 0 < capacity) :=
    run_of_feed (p := twinPipeline capacity) rfl room Relay.ofConfig_pairConfig Relay.sources_pairConfig
      (ready capacity) uncancelled
  rw [moments] at conclusion
  refine ⟨?_, ?_⟩
  · intro run
    obtain ⟨line, start, -, ends, -, delivered, result, dumped⟩ :=
      (conclusion 1 (by decide) fun e he path _ => taken e he).2 (by decide)
    obtain ⟨data, read, decoded⟩ := dumped (.ofText "/out.dump") rfl
    have same : run.delivered = _ := delivered
    refine ⟨result.trans rfl, same, ⟨line, start, ends⟩, data, read, ?_⟩
    rw [same]
    exact decoded
  · rw [(conclusion 0x2000000000000000 (by decide) fun e he path _ => taken e he).1 (by decide)]
    rfl

end Pipeline

end FrameStream
