import FrameStream.Proofs.Results
import FrameStream.Sidecar.Metadata

/-!
# The records of a sidecar

A sidecar is accepted exactly if all of it can be read and every record about a frame has the right shape; then it
gives the metadata of just these records, in order (`readFrom_eq_ok`).  `recordsAt` says in these terms which records
there are beside a media file, and `recordsAt_eq` that loading gives them.
-/

namespace FrameStream.Sidecar

open Json (Value)

/-- The metadata in those of the records that are about frames. -/
def frameRecords (records : List Value) : Except Fault (List FrameMetadata) :=
  (records.filter FrameMetadata.isFrameRecord).mapM FrameMetadata.ofRecord

theorem frameRecords_cons_of_pos {v : Value} (about : FrameMetadata.isFrameRecord v) (records : List Value) :
    frameRecords (v :: records) =
      FrameMetadata.ofRecord v >>= fun m => frameRecords records >>= fun ms => .ok (m :: ms) := by
  rw [frameRecords, List.filter_cons_of_pos about, List.mapM_cons]
  rfl

theorem frameRecords_cons_of_neg {v : Value} (about : ¬ FrameMetadata.isFrameRecord v) (records : List Value) :
    frameRecords (v :: records) = frameRecords records := by
  rw [frameRecords, List.filter_cons_of_neg about, ← frameRecords]

theorem readFrom_eq_ok {path : Path} {index : Nat} {records : List Value} {fault : Option Fault}
    {ms : List FrameMetadata} :
    readFrom path index records fault = .ok ms ↔ fault = none ∧ frameRecords records = .ok ms := by
  induction records generalizing index ms with
  | nil =>
    cases fault with
    | none => simp [readFrom, frameRecords, pure, Except.pure]
    | some f => simp [readFrom]
  | cons record rest ih =>
    rw [readFrom]
    by_cases about : FrameMetadata.isFrameRecord record
    · rw [if_pos about, frameRecords_cons_of_pos about]
      cases FrameMetadata.ofRecord record with
      | error f => simp
      | ok m =>
        simp only [ok_bind, map_eq_ok, bind_eq_ok, ih]
        constructor
        · rintro ⟨others, ⟨read, others_read⟩, rfl⟩
          exact ⟨read, others, others_read, rfl⟩
        · rintro ⟨read, others, others_read, same⟩
          exact ⟨others, ⟨read, others_read⟩, Except.ok.inj same⟩
    · rw [if_neg about, ih, frameRecords_cons_of_neg about]

/-- The records about frames in a text that can be read to its end, if all of them have the right shape. -/
def recordsOf (text : Bytes) : List FrameMetadata :=
  match Json.readRecords text with
  | (records, none) => (frameRecords records).toOption.getD []
  | (_, some _) => []

/-- The records about frames in the sidecar for a media file; there are none without a file, or if it is faulty. -/
def recordsAt (files : Files) : Option Path → List FrameMetadata
  | none => []
  | some location =>
    match files.lookup location.sidecar with
    | .ok (.file text) => recordsOf text
    | _ => []

private theorem recordsOf_eq (path : Path) (text : Bytes) :
    recordsOf text = (read path text).toOption.getD [] := by
  unfold recordsOf read
  rcases Json.readRecords text with ⟨records, _ | f⟩
  · dsimp only
    cases read : readFrom path 0 records none with
    | ok ms =>
      rw [(readFrom_eq_ok.1 read).2]
      rfl
    | error f =>
      cases all : frameRecords records with
      | ok ms =>
        rw [readFrom_eq_ok.2 ⟨rfl, all⟩] at read
        cases read
      | error f => rfl
  · dsimp only
    cases read : readFrom path 0 records (some f) with
    | ok ms => cases (readFrom_eq_ok.1 read).1
    | error f => rfl

/-- What is there is what is loaded. -/
theorem recordsAt_eq (files : Files) (location : Path) :
    recordsAt files (some location) = ((load files location.sidecar).toOption.bind id).getD [] := by
  unfold recordsAt load
  dsimp only
  match files.lookup location.sidecar with
  | .error .notFound => rfl
  | .error .notADirectory => rfl
  | .error .isADirectory => rfl
  | .error .invalidPath => rfl
  | .ok .directory => rfl
  | .ok (.file text) =>
    dsimp only
    rw [recordsOf_eq location.sidecar]
    cases read location.sidecar text <;> rfl

end FrameStream.Sidecar
