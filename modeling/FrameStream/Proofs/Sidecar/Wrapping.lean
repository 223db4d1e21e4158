import FrameStream.Proofs.Sidecar.Reading

/-!
# Objects in a record and objects in its metadata

The objects of a record stand directly in it, or in metadata that the record wraps.  Which of both it is depends on
the kind of value that stands as metadata, and on nothing else (`ofRecord_of_wrapped`, `ofRecord_of_direct`): objects
directly in a record are kept unless the metadata is an object, and are passed over in silence if it is
(`objects_of_read`).
-/

namespace FrameStream

open Json (Value)

namespace FrameMetadata

variable {record : Value} {inner : List (String × Value)} {items : List Value} {m : FrameMetadata}

/-- The record wraps its metadata. -/
def IsWrapped (record : Value) : Prop := ∃ inner, record.member? "metadata" = some (.object inner)

/-- A value that lists no objects: it has no such member, or an empty list. -/
def ListsNone (v : Value) : Prop := v.member? "objects" = none ∨ v.member? "objects" = some (.array [])

theorem ofRecord_of_wrapped (wrapped : record.member? "metadata" = some (.object inner)) :
    ofRecord record = ofValue (.object inner) := by
  rw [ofRecord, wrapped]

theorem ofRecord_of_direct (direct : ¬ IsWrapped record) : ofRecord record = ofValue record := by
  unfold ofRecord
  split
  · rename_i inner there
    exact absurd ⟨inner, there⟩ direct
  · rfl

theorem ofValue_of_listsNone (none_there : ListsNone (.object inner)) : ofValue (.object inner) = .ok ⟨[]⟩ := by
  change inner.lookup "objects" = none ∨ inner.lookup "objects" = some (.array []) at none_there
  unfold ofValue
  rw [Value.asRecord, ok_bind, Json.defaulted]
  rcases none_there with absent | empty
  · rw [absent]
    rfl
  · rw [empty]
    rfl

theorem ofValue_eq_ok_iff (there : record.member? "objects" = some (.array items)) :
    ofValue record = .ok m ↔ items.mapM readObject = .ok m.objects := by
  cases record with
  | object members =>
    change members.lookup "objects" = some (.array items) at there
    unfold ofValue
    rw [Value.asRecord, ok_bind, Json.defaulted, there]
    change items.mapM readObject >>= _ = .ok m ↔ _
    rw [bind_eq_ok]
    constructor
    · rintro ⟨objects, read, ⟨⟩⟩
      exact read
    · intro read
      exact ⟨m.objects, read, rfl⟩
  | null | bool _ | number _ | string _ | array _ => cases there

/-- Of a record with objects directly in it and none in its metadata, all or none are kept. -/
theorem ofRecord_objects (there : record.member? "objects" = some (.array items))
    (bare : ∀ v, record.member? "metadata" = some v → ListsNone v) (read : ofRecord record = .ok m) :
    (IsWrapped record → m.objects = []) ∧
      (items.mapM readObject = .ok m.objects ↔ ¬ IsWrapped record ∨ items = []) := by
  by_cases wrapped : IsWrapped record
  · obtain ⟨inner, metadata⟩ := wrapped
    rw [ofRecord_of_wrapped metadata, ofValue_of_listsNone (bare _ metadata)] at read
    obtain rfl : ⟨[]⟩ = m := Except.ok.inj read
    refine ⟨fun _ => rfl, fun kept => .inr ?_, ?_⟩
    · cases items with
      | nil => rfl
      | cons item items =>
        rw [List.mapM_cons] at kept
        obtain ⟨first, -, kept⟩ := bind_eq_ok.1 kept
        obtain ⟨others, -, kept⟩ := bind_eq_ok.1 kept
        cases kept
    · rintro (direct | rfl)
      · exact absurd ⟨inner, metadata⟩ direct
      · rfl
  · rw [ofRecord_of_direct wrapped, ofValue_eq_ok_iff there] at read
    exact ⟨fun h => absurd h wrapped, fun _ => .inl wrapped, fun _ => read⟩

end FrameMetadata

namespace Sidecar

open FrameMetadata (isFrameRecord ofRecord readObject IsWrapped ListsNone)

/-! ### Places -/

/-- All that can be wrong with a sidecar is wrong with one of its records. -/
theorem exists_of_read_eq_error {path : Path} {text : Bytes} {e : SidecarFault} (h : read path text = .error e) :
    ∃ index f, e = .record path index f := by
  have from_any (index : Nat) (records : List Value) (fault : Option Fault)
      (h : readFrom path index records fault = .error e) : ∃ index f, e = .record path index f := by
    induction records generalizing index with
    | nil =>
      cases fault with
      | none => cases h
      | some f => exact ⟨index, f, (Except.error.inj h).symm⟩
    | cons record rest ih =>
      rw [readFrom] at h
      split at h
      · split at h
        · rename_i f _
          exact ⟨index, f, (Except.error.inj h).symm⟩
        · cases behind : readFrom path (index + 1) rest fault with
          | error other =>
            rw [behind] at h
            exact ih (index + 1) (behind.trans h)
          | ok ms =>
            rw [behind] at h
            cases h
      · exact ih (index + 1) h
  exact from_any 0 _ _ h

/-- The metadata of a record stands behind that of the records about frames before it. -/
theorem getElem?_frameRecords {before after : List Value} {record : Value} {ms : List FrameMetadata}
    (about : isFrameRecord record) (h : frameRecords (before ++ record :: after) = .ok ms) :
    ∃ m, ms[(before.filter isFrameRecord).length]? = some m ∧ ofRecord record = .ok m := by
  induction before generalizing ms with
  | nil =>
    rw [List.nil_append, frameRecords_cons_of_pos about] at h
    obtain ⟨m, first, h⟩ := bind_eq_ok.1 h
    obtain ⟨others, -, h⟩ := bind_eq_ok.1 h
    obtain rfl : m :: others = ms := Except.ok.inj h
    exact ⟨m, rfl, first⟩
  | cons v before ih =>
    rw [List.cons_append] at h
    by_cases about_v : isFrameRecord v
    · rw [frameRecords_cons_of_pos about_v] at h
      obtain ⟨first, -, h⟩ := bind_eq_ok.1 h
      obtain ⟨others, behind, h⟩ := bind_eq_ok.1 h
      obtain rfl : first :: others = ms := Except.ok.inj h
      rw [List.filter_cons_of_pos about_v]
      exact ih behind
    · rw [frameRecords_cons_of_neg about_v] at h
      rw [List.filter_cons_of_neg about_v]
      exact ih h

/-- A sidecar is refused for one of its records, or the metadata of a record with objects directly in it and none in
its own metadata has just these objects, in order, unless the record wraps metadata: then it has none. -/
theorem objects_of_read (path : Path) {text : Bytes} {before after items : List Value} {record : Value}
    {fault : Option Fault} (parts : Json.readRecords text = (before ++ record :: after, fault))
    (about : isFrameRecord record) (there : record.member? "objects" = some (.array items))
    (bare : ∀ v, record.member? "metadata" = some v → ListsNone v) :
    (∃ index f, read path text = .error (.record path index f)) ∨
    ∃ ms m, read path text = .ok ms ∧ ms[(before.filter isFrameRecord).length]? = some m ∧
      (IsWrapped record → m.objects = []) ∧
      (items.mapM readObject = .ok m.objects ↔ ¬ IsWrapped record ∨ items = []) := by
  cases whole : read path text with
  | error e =>
    obtain ⟨index, f, rfl⟩ := exists_of_read_eq_error whole
    exact .inl ⟨index, f, rfl⟩
  | ok ms =>
    have converted : frameRecords (before ++ record :: after) = .ok ms := by
      rw [read, parts] at whole
      exact (readFrom_eq_ok.1 whole).2
    obtain ⟨m, place, shape⟩ := getElem?_frameRecords about converted
    exact .inr ⟨ms, m, rfl, place, FrameMetadata.ofRecord_objects there bare shape⟩

/-- A car in a box at the origin. -/
def carValue : Value :=
  let zero : Value := .number (.integer ⟨0, by decide, by decide⟩)
  .object [("bbox", .array [zero, zero, zero, zero]), ("label", .string "car"), ("model_name", .string "m"),
    ("object_id", zero)]

/-- A record with the car directly in it, and this value for metadata. -/
def carRecord (metadata : Value) : Value := .object [("metadata", metadata), ("objects", .array [carValue])]

/-- Metadata that says nothing about objects. -/
def cameraValue : Value := .object [("camera", .string "left")]

def carRecords : List (Bytes × Value) := [([], carRecord .null), ([0x0A], carRecord cameraValue)]

private theorem isSpread_carRecords : Json.IsSpread carRecords := by
  have car : carValue.IsOrdered := by
    refine ⟨?_, ⟨trivial, trivial, trivial, trivial, trivial⟩, ?_, trivial, ?_, trivial, List.forall_mem_nil _, trivial,
      trivial⟩ <;> decide
  have record {metadata : Value} (ordered : metadata.IsOrdered) : (carRecord metadata).IsOrdered :=
    ⟨List.forall_mem_singleton.2 (by decide), ordered, List.forall_mem_nil _, ⟨car, trivial⟩, trivial⟩
  intro r h
  simp only [carRecords, List.mem_cons, List.not_mem_nil, or_false] at h
  rcases h with rfl | rfl
  · exact ⟨List.forall_mem_nil _, ⟨_, rfl⟩, record trivial, List.forall_mem_nil _, by decide⟩
  · exact ⟨List.forall_mem_singleton.2 rfl, ⟨_, rfl⟩, record ⟨List.forall_mem_nil _, trivial, trivial⟩,
      List.forall_mem_nil _, by decide⟩

/-- The car is there where nothing stands as metadata, and it is lost where the name of a camera does. -/
theorem objects_carRecords :
    ∃ ms kept lost, read (.ofText "a.json") (Json.spread carRecords ++ []) = .ok ms ∧ ms[0]? = some kept ∧
      [carValue].mapM readObject = .ok kept.objects ∧ ms[1]? = some lost ∧ lost.objects = [] ∧
      [carValue].mapM readObject ≠ .ok lost.objects := by
  have parts := Json.readRecords_spread isSpread_carRecords (List.forall_mem_nil _ : Json.IsSpacing [])
  obtain ⟨ms, converted⟩ : ∃ ms, frameRecords (carRecords.map Prod.snd) = .ok ms :=
    exists_frameRecords (List.forall_mem_cons.2 ⟨fun _ => ⟨_, rfl⟩, List.forall_mem_singleton.2 fun _ => ⟨_, rfl⟩⟩)
  have whole : read (.ofText "a.json") (Json.spread carRecords ++ []) = .ok ms := by
    rw [read, parts]
    exact readFrom_eq_ok.2 ⟨rfl, converted⟩
  have parts_first : Json.readRecords (Json.spread carRecords ++ []) =
      ([] ++ carRecord .null :: [carRecord cameraValue], none) := parts
  have parts_second : Json.readRecords (Json.spread carRecords ++ []) =
      ([carRecord .null] ++ carRecord cameraValue :: [], none) := parts
  have first := objects_of_read (.ofText "a.json") parts_first rfl rfl (by rintro _ ⟨⟩; exact .inl rfl)
  have second := objects_of_read (.ofText "a.json") parts_second rfl rfl (by rintro _ ⟨⟩; exact .inl rfl)
  rw [whole] at first second
  rcases first with ⟨_, _, ⟨⟩⟩ | ⟨_, kept, ⟨⟩, there, -, all⟩
  rcases second with ⟨_, _, ⟨⟩⟩ | ⟨_, lost, ⟨⟩, behind, nothing, all_lost⟩
  have wrapped : IsWrapped (carRecord cameraValue) := ⟨_, rfl⟩
  have direct : ¬ IsWrapped (carRecord .null) := by
    rintro ⟨_, ⟨⟩⟩
  refine ⟨ms, kept, lost, whole, there, all.2 (.inl direct), behind, nothing wrapped, fun same => ?_⟩
  rcases all_lost.1 same with direct | empty
  · exact direct wrapped
  · cases empty

end Sidecar

end FrameStream
