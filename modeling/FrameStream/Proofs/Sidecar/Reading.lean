import FrameStream.Proofs.Json.Streams
import FrameStream.Proofs.Sidecar.Records

/-!
# Reading a sidecar of written records

A sidecar of objects one behind the other is taken apart into just these objects, whatever spaces stand around them.
So it gives the metadata of the records about frames, or it is refused at the first of them with the wrong shape; the
place of that record is counted over all records (`readFrom_of_isFirstFault`).  If one more object breaks off at the
end, that is the fault, unless there is one before it (`read_spread`).
-/

namespace FrameStream

open Json (Value IsSpread IsSpacing IsBrokenObject spread)

namespace FrameMetadata

theorem isFrameRecord_iff {v : Value} :
    isFrameRecord v ↔ v.member? "schema" = none ∨ v.member? "schema" = some (.string "VideoFrame") := by
  unfold isFrameRecord
  split
  · rename_i absent
    simp [absent]
  · rename_i schema there
    simp [there]
  · rename_i v other there
    have different : v ≠ .string "VideoFrame" := fun same => other _ same
    simp [there, different]

end FrameMetadata

namespace Sidecar

open FrameMetadata (isFrameRecord ofRecord)

/-! ### Places -/

/-- The record does not stop the reading: it is not about a frame, or it has the right shape. -/
def Passes (v : Value) : Prop := isFrameRecord v → ∃ m, ofRecord v = .ok m

/-- The record at `index` is about a frame and has the wrong shape, and no record before it stops the reading. -/
structure IsFirstFault (records : List Value) (index : Nat) (f : Fault) : Prop where
  isFault : ∃ v, records[index]? = some v ∧ isFrameRecord v ∧ ofRecord v = .error f
  isFirst : ∀ v ∈ records.take index, Passes v

theorem exists_frameRecords {records : List Value} (all : ∀ v ∈ records, Passes v) :
    ∃ ms, frameRecords records = .ok ms := by
  induction records with
  | nil => exact ⟨[], rfl⟩
  | cons v records ih =>
    obtain ⟨passes, others⟩ := List.forall_mem_cons.1 all
    obtain ⟨ms, converted⟩ := ih others
    by_cases about : isFrameRecord v
    · obtain ⟨m, shape⟩ := passes about
      exact ⟨m :: ms, by rw [frameRecords_cons_of_pos about, shape, ok_bind, converted, ok_bind]⟩
    · exact ⟨ms, by rw [frameRecords_cons_of_neg about, converted]⟩

/-- If not every record passes, there is a first that does not. -/
theorem exists_isFirstFault {records : List Value} (some_stops : ¬ ∀ v ∈ records, Passes v) :
    ∃ index f, IsFirstFault records index f := by
  induction records with
  | nil => exact absurd (List.forall_mem_nil _) some_stops
  | cons v records ih =>
    by_cases passes : Passes v
    · obtain ⟨index, f, isFault, isFirst⟩ := ih fun others => some_stops (List.forall_mem_cons.2 ⟨passes, others⟩)
      exact ⟨index + 1, f, isFault, List.forall_mem_cons.2 ⟨passes, isFirst⟩⟩
    · simp only [Passes, not_forall] at passes
      obtain ⟨about, shape⟩ := passes
      cases converted : ofRecord v with
      | ok m => exact absurd ⟨m, converted⟩ shape
      | error f => exact ⟨0, f, ⟨v, rfl, about, converted⟩, List.forall_mem_nil _⟩

/-- Behind records that do not stop it, the reading goes on with what they gave. -/
theorem readFrom_append {path : Path} {before : List Value} {ms : List FrameMetadata}
    (converted : frameRecords before = .ok ms) (index : Nat) (rest : List Value) (fault : Option Fault) :
    readFrom path index (before ++ rest) fault =
      (ms ++ ·) <$> readFrom path (index + before.length) rest fault := by
  induction before generalizing index ms with
  | nil =>
    obtain rfl : [] = ms := Except.ok.inj converted
    exact (id_map _).symm
  | cons v before ih =>
    have place : index + (v :: before).length = index + 1 + before.length := by
      rw [List.length_cons]
      omega
    rw [List.cons_append, readFrom, place]
    by_cases about : isFrameRecord v
    · rw [frameRecords_cons_of_pos about] at converted
      obtain ⟨m, shape, behind⟩ := bind_eq_ok.1 converted
      obtain ⟨others, others_converted, same⟩ := bind_eq_ok.1 behind
      obtain rfl : m :: others = ms := Except.ok.inj same
      rw [if_pos about, shape]
      dsimp only
      rw [ih others_converted, Functor.map_map]
      rfl
    · rw [frameRecords_cons_of_neg about] at converted
      rw [if_neg about, ih converted]

theorem readFrom_of_isFirstFault {path : Path} {records : List Value} {index : Nat} {f : Fault}
    (first : IsFirstFault records index f) (fault : Option Fault) :
    readFrom path 0 records fault = .error (.record path index f) := by
  obtain ⟨⟨v, there, about, shape⟩, passes⟩ := first
  obtain ⟨inside, rfl⟩ := List.getElem?_eq_some_iff.1 there
  obtain ⟨ms, converted⟩ := exists_frameRecords passes
  have place : 0 + (records.take index).length = index := by
    rw [List.length_take]
    omega
  rw [← List.take_append_drop index records, readFrom_append converted, place, List.drop_eq_getElem_cons inside,
    readFrom, if_pos about, shape]
  rfl

theorem IsFirstFault.unique {records : List Value} {index index' : Nat} {f f' : Fault}
    (first : IsFirstFault records index f) (first' : IsFirstFault records index' f') : index = index' ∧ f = f' := by
  -- The reading ends at one place, and it is that of either fault.
  have one : readFrom ⟨[]⟩ 0 records none = .error (.record ⟨[]⟩ index f) := readFrom_of_isFirstFault first none
  rw [readFrom_of_isFirstFault first' none] at one
  obtain ⟨-, rfl, rfl⟩ := SidecarFault.record.inj (Except.error.inj one)
  exact ⟨rfl, rfl⟩

/-! ### Texts -/

/-- A sidecar of objects with spaces before, between and behind them gives the metadata of those that are about
frames, in order, if they all convert, and else the place of the first that does not.  Where it goes on with an object
that breaks off, the place behind all others is at fault, unless there is one before it. -/
theorem read_spread (path : Path) {records : List (Bytes × Value)} (all : IsSpread records) {gap : Bytes}
    (spacing : IsSpacing gap) :
    (∀ v : Value, isFrameRecord v ↔
      v.member? "schema" = none ∨ v.member? "schema" = some (.string "VideoFrame")) ∧
    ((∀ v ∈ records.map Prod.snd, Passes v) → ∃ ms, frameRecords (records.map Prod.snd) = .ok ms ∧
      read path (spread records ++ gap) = .ok ms ∧
      ∀ front, IsBrokenObject front →
        ∃ f, read path (spread records ++ (gap ++ front)) = .error (.record path records.length f)) ∧
    ((¬ ∀ v ∈ records.map Prod.snd, Passes v) → ∃ index f, IsFirstFault (records.map Prod.snd) index f ∧
      read path (spread records ++ gap) = .error (.record path index f) ∧
      ∀ front, IsBrokenObject front →
        read path (spread records ++ (gap ++ front)) = .error (.record path index f)) := by
  have whole : read path (spread records ++ gap) = readFrom path 0 (records.map Prod.snd) none := by
    rw [read, Json.readRecords_spread all spacing]
  have broken_off {front : Bytes} (broken : IsBrokenObject front) :
      ∃ f, read path (spread records ++ (gap ++ front)) = readFrom path 0 (records.map Prod.snd) (some f) := by
    obtain ⟨f, parts⟩ := Json.readRecords_spread_append all spacing broken
    exact ⟨f, by rw [read, parts]⟩
  refine ⟨fun v => FrameMetadata.isFrameRecord_iff, fun passes => ?_, fun some_stops => ?_⟩
  · obtain ⟨ms, converted⟩ := exists_frameRecords passes
    refine ⟨ms, converted, whole.trans (readFrom_eq_ok.2 ⟨rfl, converted⟩), fun front broken => ?_⟩
    obtain ⟨f, parts⟩ := broken_off broken
    have behind : readFrom path 0 (records.map Prod.snd ++ []) (some f) = _ :=
      readFrom_append converted 0 [] (some f)
    rw [List.append_nil, Nat.zero_add, List.length_map] at behind
    exact ⟨f, parts.trans behind⟩
  · obtain ⟨index, f, first⟩ := exists_isFirstFault some_stops
    refine ⟨index, f, first, whole.trans (readFrom_of_isFirstFault first none), fun front broken => ?_⟩
    obtain ⟨g, parts⟩ := broken_off broken
    exact parts.trans (readFrom_of_isFirstFault first (some g))

/-- A record of another schema, one about a frame, and one of the wrong shape. -/
def mixedRecords : List (Bytes × Value) :=
  [([0x20], .object [("schema", .string "EndOfStream")]),
    ([], .object [("objects", .array []), ("score", .number (.float .half))]),
    ([0x0D, 0x0A], .object [("objects", .null)])]

private theorem isSpread_mixedRecords : IsSpread mixedRecords := by
  intro r h
  simp only [mixedRecords, List.mem_cons, List.not_mem_nil, or_false] at h
  rcases h with rfl | rfl | rfl
  · exact ⟨List.forall_mem_singleton.2 rfl, ⟨_, rfl⟩, ⟨List.forall_mem_nil _, trivial, trivial⟩,
      List.forall_mem_nil _, by decide⟩
  · have sorted : ∀ m ∈ [("score", Value.number (.float .half))], "objects" < m.1 := by decide +kernel
    exact ⟨List.forall_mem_nil _, ⟨_, rfl⟩, ⟨sorted, trivial, List.forall_mem_nil _, trivial, trivial⟩,
      List.forall_mem_singleton.2 Finite.isPortable_half, by decide⟩
  · exact ⟨List.forall_mem_cons.2 ⟨rfl, List.forall_mem_singleton.2 rfl⟩, ⟨_, rfl⟩,
      ⟨List.forall_mem_nil _, trivial, trivial⟩, List.forall_mem_nil _, by decide⟩

private theorem isBrokenObject_brace : IsBrokenObject [0x7B] :=
  ⟨by decide, [0x7B, 0x7D], Json.isObjectText_render [], by decide, by decide⟩

/-- The first record counts, though it is passed over. -/
theorem read_spread_mixedRecords :
    read (.ofText "a.json") (spread mixedRecords ++ [0x0A]) = .error (.record (.ofText "a.json") 2 .unexpected) ∧
    read (.ofText "a.json") (spread mixedRecords ++ ([0x0A] ++ [0x7B])) =
      .error (.record (.ofText "a.json") 2 .unexpected) ∧
    read (.ofText "a.json") (spread (mixedRecords.take 2) ++ [0x0A]) = .ok [⟨[]⟩] ∧
    ∃ f, read (.ofText "a.json") (spread (mixedRecords.take 2) ++ ([0x0A] ++ [0x7B])) =
      .error (.record (.ofText "a.json") 2 f) := by
  have spacing : IsSpacing [0x0A] := List.forall_mem_singleton.2 rfl
  have two : IsSpread (mixedRecords.take 2) := fun r h => isSpread_mixedRecords r (List.mem_of_mem_take h)
  have passes : ∀ v ∈ (mixedRecords.take 2).map Prod.snd, Passes v := by
    refine List.forall_mem_cons.2 ⟨fun about => absurd about (by decide), List.forall_mem_singleton.2 fun _ => ?_⟩
    exact ⟨⟨[]⟩, rfl⟩
  have wrong : IsFirstFault (mixedRecords.map Prod.snd) 2 .unexpected := ⟨⟨_, rfl, rfl, rfl⟩, passes⟩
  have stops : ¬ ∀ v ∈ mixedRecords.map Prod.snd, Passes v := by
    intro all
    obtain ⟨m, converted⟩ := all (.object [("objects", .null)]) (by simp [mixedRecords]) rfl
    cases converted
  obtain ⟨-, accepted, -⟩ := read_spread (.ofText "a.json") two spacing
  obtain ⟨ms, converted, whole, broken⟩ := accepted passes
  obtain rfl : [⟨[]⟩] = ms := Except.ok.inj converted
  obtain ⟨-, -, refused⟩ := read_spread (.ofText "a.json") isSpread_mixedRecords spacing
  obtain ⟨index, f, first, whole_refused, broken_refused⟩ := refused stops
  obtain ⟨rfl, rfl⟩ := first.unique wrong
  exact ⟨whole_refused, broken_refused _ isBrokenObject_brace, whole, broken _ isBrokenObject_brace⟩

end Sidecar

end FrameStream
