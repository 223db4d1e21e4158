import FrameStream.Proofs.Json.Values
import FrameStream.Proofs.Message.RoundTrip
import FrameStream.Proofs.Sidecar.Records

/-!
# The values in a sidecar

Free values reach the attributes of objects as they stand in the sidecar, so they are ordered as everything is that
was read from a text (`isOrdered_of_load`).
-/

namespace FrameStream

open Json (Value required defaulted)

variable {α : Type}

/-! ### Lists, members and fields -/

namespace Json

theorem itemsOrdered_iff {vs : List Value} : itemsOrdered vs ↔ ∀ v ∈ vs, v.IsOrdered := by
  induction vs with
  | nil => exact ⟨fun _ => nofun, fun _ => trivial⟩
  | cons v vs ih =>
    rw [List.forall_mem_cons, ← ih]
    rfl

theorem isOrdered_of_member {members : List (String × Value)} {m : String × Value} (ordered : membersOrdered members)
    (h : m ∈ members) : m.2.IsOrdered := by
  induction members with
  | nil => exact absurd h List.not_mem_nil
  | cons other rest ih =>
    obtain ⟨key, v⟩ := other
    rcases List.mem_cons.1 h with rfl | h
    · exact ordered.2.1
    · exact ih ordered.2.2 h

theorem mem_of_lookup {fields : List (String × α)} {name : String} {a : α} (h : fields.lookup name = some a) :
    (name, a) ∈ fields := by
  induction fields with
  | nil => cases h
  | cons f fields ih =>
    rw [List.lookup_cons] at h
    split at h
    · rename_i same
      cases h
      rw [eq_of_beq same]
      exact List.mem_cons_self
    · exact List.mem_cons_of_mem _ (ih h)

/-- The fields of an ordered value are ordered. -/
theorem isOrdered_of_asRecord {v : Value} {names : List String} {fields : List (String × Value)}
    (ordered : v.IsOrdered) (h : v.asRecord names = .ok fields) : ∀ f ∈ fields, f.2.IsOrdered := by
  intro f hf
  match v with
  | .object members =>
    cases h
    exact isOrdered_of_member ordered hf
  | .array items =>
    rw [Value.asRecord] at h
    split at h
    · cases h
      exact itemsOrdered_iff.1 ordered _ (List.of_mem_zip hf).2
    · cases h
  | .null | .bool _ | .number _ | .string _ => cases h

theorem forall_of_mapM {β : Type} {read : β → Except Fault α} {P : α → Prop} {bs : List β} {as : List α}
    (each : ∀ b ∈ bs, ∀ a, read b = .ok a → P a) (h : bs.mapM read = .ok as) : ∀ a ∈ as, P a := by
  induction bs generalizing as with
  | nil =>
    cases h
    exact nofun
  | cons b bs ih =>
    rw [List.mapM_cons] at h
    rw [List.forall_mem_cons] at each
    obtain ⟨a, first, h⟩ := bind_eq_ok.1 h
    obtain ⟨rest, others, h⟩ := bind_eq_ok.1 h
    cases h
    rw [List.forall_mem_cons]
    exact ⟨each.1 a first, ih each.2 others⟩

/-- What is read from a list of ordered values. -/
theorem forall_of_asList {read : Value → Except Fault α} {P : α → Prop} {v : Value} {as : List α}
    (each : ∀ v a, v.IsOrdered → read v = .ok a → P a) (ordered : v.IsOrdered) (h : v.asList read = .ok as) :
    ∀ a ∈ as, P a := by
  match v with
  | .array items => exact forall_of_mapM (fun v hv a => each v a (itemsOrdered_iff.1 ordered v hv)) h
  | .null | .bool _ | .number _ | .string _ | .object _ => cases h

end Json

/-! ### Records -/

theorem AttributeContent.isOrdered_ofJson {v : Value} (ordered : v.IsOrdered) :
    (AttributeContent.ofJson v).IsOrdered := by
  unfold ofJson
  split
  · trivial
  · trivial
  · trivial
  · split
    · trivial
    · split <;> trivial
  · exact ordered

namespace FrameMetadata

/-- The contents of all attributes are ordered. -/
def IsOrdered (m : FrameMetadata) : Prop := ∀ o ∈ m.objects, ∀ c ∈ o.contents, c.IsOrdered

private theorem isOrdered_of_readAttribute {v : Value} {a : Attribute} (ordered : v.IsOrdered)
    (h : readAttribute v = .ok a) : ∀ c ∈ a.values.map AttributeValue.content, c.IsOrdered := by
  obtain ⟨fields, record, h⟩ := bind_eq_ok.1 h
  obtain ⟨scope, -, h⟩ := bind_eq_ok.1 h
  obtain ⟨name, -, h⟩ := bind_eq_ok.1 h
  obtain ⟨value, found, h⟩ := bind_eq_ok.1 h
  obtain ⟨confidence, -, h⟩ := bind_eq_ok.1 h
  cases h
  rw [required] at found
  split at found
  · rename_i v there
    cases found
    have value_ordered : value.IsOrdered := Json.isOrdered_of_asRecord ordered record _ (Json.mem_of_lookup there)
    intro c hc
    rw [List.mem_singleton.1 hc]
    exact AttributeContent.isOrdered_ofJson value_ordered
  · cases found

private theorem isOrdered_of_readObject {v : Value} {o : FrameObject} (ordered : v.IsOrdered)
    (h : readObject v = .ok o) : ∀ c ∈ o.contents, c.IsOrdered := by
  obtain ⟨fields, record, h⟩ := bind_eq_ok.1 h
  obtain ⟨model, -, h⟩ := bind_eq_ok.1 h
  obtain ⟨label, -, h⟩ := bind_eq_ok.1 h
  obtain ⟨id, -, h⟩ := bind_eq_ok.1 h
  obtain ⟨box, -, h⟩ := bind_eq_ok.1 h
  obtain ⟨confidence, -, h⟩ := bind_eq_ok.1 h
  obtain ⟨attributes, found, h⟩ := bind_eq_ok.1 h
  obtain ⟨parent, -, h⟩ := bind_eq_ok.1 h
  cases h
  intro c hc
  obtain ⟨a, ha, hc⟩ := List.mem_flatMap.1 hc
  rw [defaulted] at found
  split at found
  · rename_i list there
    have list_ordered := Json.isOrdered_of_asRecord ordered record _ (Json.mem_of_lookup there)
    exact Json.forall_of_asList (fun _ _ => isOrdered_of_readAttribute) list_ordered found a ha c hc
  · cases found
    exact absurd ha List.not_mem_nil

private theorem isOrdered_of_ofValue {v : Value} {m : FrameMetadata} (ordered : v.IsOrdered)
    (h : ofValue v = .ok m) : m.IsOrdered := by
  obtain ⟨fields, record, h⟩ := bind_eq_ok.1 h
  obtain ⟨objects, found, h⟩ := bind_eq_ok.1 h
  cases h
  change ∀ o ∈ objects, ∀ c ∈ o.contents, c.IsOrdered
  rw [defaulted] at found
  split at found
  · rename_i list there
    have list_ordered := Json.isOrdered_of_asRecord ordered record _ (Json.mem_of_lookup there)
    exact Json.forall_of_asList (fun _ _ => isOrdered_of_readObject) list_ordered found
  · cases found
    exact fun o ho => absurd ho List.not_mem_nil

theorem isOrdered_of_ofRecord {record : Value} {m : FrameMetadata} (ordered : record.IsOrdered)
    (h : ofRecord record = .ok m) : m.IsOrdered := by
  unfold ofRecord at h
  split at h
  · rename_i members there
    refine isOrdered_of_ofValue ?_ h
    cases record with
    | object outer => exact Json.isOrdered_of_member ordered (Json.mem_of_lookup there)
    | _ => cases there
  · exact isOrdered_of_ofValue ordered h

end FrameMetadata

/-! ### Files -/

private theorem isOrdered_of_readRecordsFrom (fuel : Nat) (bs : Bytes) :
    ∀ v ∈ (Json.readRecordsFrom fuel bs).1, v.IsOrdered := by
  induction fuel generalizing bs with
  | zero => exact nofun
  | succ fuel ih =>
    rw [Json.readRecordsFrom]
    split
    · exact nofun
    · exact nofun
    · rename_i value rest read
      rw [List.forall_mem_cons]
      refine ⟨?_, ih rest⟩
      unfold Json.readRecord at read
      split at read
      · cases read
      · obtain ⟨v, meant, read⟩ := bind_eq_ok.1 (Option.some.inj read)
        obtain ⟨after, -, read⟩ := bind_eq_ok.1 read
        split at read
        · cases read
          exact Json.isOrdered_of_value meant
        · cases read

namespace Sidecar

private theorem isOrdered_of_frameRecords {records : List Value} {ms : List FrameMetadata}
    (ordered : ∀ v ∈ records, v.IsOrdered) (h : frameRecords records = .ok ms) : ∀ m ∈ ms, m.IsOrdered :=
  Json.forall_of_mapM
    (fun v hv _ => FrameMetadata.isOrdered_of_ofRecord (ordered v (List.mem_of_mem_filter hv))) h

/-- All metadata that is loaded is ordered. -/
theorem isOrdered_of_load {files : Files} {path : Path} {ms : List FrameMetadata}
    (h : load files path = .ok (some ms)) : ∀ m ∈ ms, m.IsOrdered := by
  unfold load at h
  split at h
  · cases h
  · cases h
  · cases h
  · rename_i text there
    obtain ⟨ms, read_all, h⟩ := map_eq_ok.1 h
    cases h
    unfold read at read_all
    have ordered : ∀ v ∈ (Json.readRecords text).1, v.IsOrdered := isOrdered_of_readRecordsFrom _ text
    exact isOrdered_of_frameRecords ordered (readFrom_eq_ok.1 read_all).2

end Sidecar

end FrameStream
