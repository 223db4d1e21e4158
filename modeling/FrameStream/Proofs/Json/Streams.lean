import FrameStream.Json.Records
import FrameStream.Proofs.Json.Continuations
import FrameStream.Proofs.Json.Values

/-!
# Streams of written objects

Objects written one behind the other, with or without spaces between them, are read back one by one, since an object
shows its own end (`readRecord_render`, `readRecords_spread`).  A further object that breaks off before its end is a
fault behind all of them (`readRecords_spread_append`): no reader can take the part for the whole, or the whole would
leave something over.
-/

namespace FrameStream.Json

/-! ### Objects -/

theorem readDoc_brace (fuel : Nat) (bs : Bytes) :
    readDoc (fuel + 1) (0x7B :: bs) = (.object (readMembers fuel true bs).1, (readMembers fuel true bs).2) := rfl

theorem readRecord_brace (fuel : Nat) (bs : Bytes) :
    readRecord (fuel + 1) (0x7B :: bs) = some ((Doc.object (readMembers fuel true bs).1).value depthLimit >>= fun v =>
      (readMembers fuel true bs).2 >>= fun rest => .ok (v, rest)) := rfl

/-- A value that a stream can hold: an object in the form that reading gives it, with numbers that are read back, and
nested no deeper than is read. -/
structure Value.IsRecord (v : Value) : Prop where
  isObject : ∃ members, v = .object members
  isOrdered : v.IsOrdered
  isPortable : ∀ x ∈ v.floats, x.IsPortable
  shallow : v.depth ≤ depthLimit

theorem readRecord_render {v : Value} (record : v.IsRecord) {fuel : Nat} (enough : 3 * v.render.length ≤ fuel)
    (rest : Bytes) : readRecord fuel (v.render ++ rest) = some (.ok (v, rest)) := by
  obtain ⟨⟨members, rfl⟩, ordered, portable, shallow⟩ := record
  have written : (Value.object members).render = 0x7B :: (memberDocs members).render true := rfl
  rw [written, List.length_cons] at enough
  obtain ⟨fuel, rfl⟩ : ∃ n, fuel = n + 1 := ⟨fuel - 1, by omega⟩
  have meaning : (Doc.object (memberDocs members)).value depthLimit = .ok (.object members) :=
    (value_doc ordered depthLimit).2 ⟨portable, shallow⟩
  have read : readMembers fuel true ((memberDocs members).render true ++ rest) = (memberDocs members, .ok rest) :=
    readMembers_render (isWhole_memberDocs members) true (by omega) rest
  rw [written, List.cons_append, readRecord_brace, read]
  dsimp only
  rw [meaning, ok_bind, ok_bind]

/-! ### Objects that break off -/

/-- A text that is one object from its first octet to its last, with any spaces inside. -/
def IsObjectText (text : Bytes) : Prop :=
  text.head? = some 0x7B ∧ ∃ members, Doc.read text = (.object members, .ok [])

theorem isObjectText_render (members : List (String × Value)) : IsObjectText (Value.object members).render :=
  ⟨rfl, memberDocs members, read_render (isWhole_doc (.object members))⟩

/-- An object that ends too early: some of its text is there, but not all. -/
def IsBrokenObject (front : Bytes) : Prop :=
  front ≠ [] ∧ ∃ text, IsObjectText text ∧ front <+: text ∧ front ≠ text

/-- The members of a broken object cannot be read: a reader that came to their end would come there in the whole
text too, with something left behind the end. -/
theorem eq_brace_of_broken {front : Bytes} (broken : IsBrokenObject front) :
    ∃ bs, front = 0x7B :: bs ∧ ∀ fuel members rest, readMembers fuel true bs ≠ (members, .ok rest) := by
  obtain ⟨nonempty, _, ⟨opening, members, whole⟩, ⟨missing, rfl⟩, proper⟩ := broken
  obtain ⟨b, bs, rfl⟩ := List.exists_cons_of_ne_nil nonempty
  obtain rfl : b = 0x7B := Option.some.inj opening
  refine ⟨bs, rfl, fun fuel part rest read => proper ?_⟩
  obtain ⟨more, all⟩ : ∃ more, readMembers more true (bs ++ missing) = (members, .ok []) := by
    rw [List.cons_append, Doc.read, readingFuel, readDoc_brace] at whole
    obtain ⟨same, ends⟩ := Prod.mk.inj whole
    exact ⟨_, Prod.ext (Doc.object.inj same) ends⟩
  -- Both readings are taken with the fuel of the longer one, so that they can be compared.
  have part_read := readMembers_append read (Nat.le_max_left fuel more) missing
  have whole_read := readMembers_append all (Nat.le_max_right fuel more) []
  rw [List.append_nil, part_read] at whole_read
  have nothing : rest ++ missing = [] := Except.ok.inj (Prod.mk.inj whole_read).2
  rw [(List.append_eq_nil_iff.1 nothing).2, List.append_nil]

theorem readRecord_broken {front : Bytes} (broken : IsBrokenObject front) (fuel : Nat) :
    ∃ f, readRecord fuel front = some (.error f) := by
  obtain ⟨bs, rfl, unread⟩ := eq_brace_of_broken broken
  cases fuel with
  | zero => exact ⟨.truncated, rfl⟩
  | succ fuel =>
    rw [readRecord_brace]
    rcases read : readMembers fuel true bs with ⟨part, f | rest⟩
    · cases (Doc.object part).value depthLimit with
      | error g => exact ⟨g, rfl⟩
      | ok v => exact ⟨f, rfl⟩
    · exact absurd read (unread fuel part rest)

/-! ### Spaces -/

/-- There are only spaces. -/
def IsSpacing (gap : Bytes) : Prop := ∀ b ∈ gap, isSpace b

theorem skipSpaces_of_isSpacing {gap : Bytes} (spacing : IsSpacing gap) (bs : Bytes) :
    skipSpaces (gap ++ bs) = skipSpaces bs := List.dropWhile_append_of_pos spacing

theorem readRecord_of_isSpacing {gap : Bytes} (spacing : IsSpacing gap) (fuel : Nat) (bs : Bytes) :
    readRecord fuel (gap ++ bs) = readRecord fuel bs := by
  rw [readRecord, skipSpaces_of_isSpacing spacing, ← readRecord]

/-! ### Whole streams -/

/-- The text of a list of records, each with what stands before it. -/
def spread (records : List (Bytes × Value)) : Bytes := records.flatMap fun r => r.1 ++ r.2.render

/-- There are only spaces before each of the records. -/
def IsSpread (records : List (Bytes × Value)) : Prop := ∀ r ∈ records, IsSpacing r.1 ∧ r.2.IsRecord

/-- Behind the records the reading goes on with fuel enough. -/
theorem readRecordsFrom_spread {records : List (Bytes × Value)} (all : IsSpread records) (rest : Bytes) {fuel : Nat}
    (enough : 3 * (spread records ++ rest).length + 1 ≤ fuel) :
    ∃ left, 3 * rest.length + 1 ≤ left ∧ readRecordsFrom fuel (spread records ++ rest) =
      (records.map Prod.snd ++ (readRecordsFrom left rest).1, (readRecordsFrom left rest).2) := by
  induction records generalizing fuel with
  | nil => exact ⟨fuel, enough, rfl⟩
  | cons r records ih =>
    obtain ⟨⟨spacing, record⟩, others⟩ := List.forall_mem_cons.1 all
    have written : spread (r :: records) ++ rest = r.1 ++ (r.2.render ++ (spread records ++ rest)) := by
      simp [spread]
    -- Every record takes an octet, so that one unit of fuel less is still enough for those behind it.
    have visible : 0 < r.2.render.length := by
      obtain ⟨members, isObject⟩ := record.isObject
      rw [isObject]
      exact Nat.succ_pos _
    rw [written] at enough ⊢
    simp only [List.length_append] at enough
    obtain ⟨fuel, rfl⟩ : ∃ n, fuel = n + 1 := ⟨fuel - 1, by omega⟩
    have room : 3 * (spread records ++ rest).length + 1 ≤ fuel := by
      rw [List.length_append]
      omega
    obtain ⟨left, remains, behind⟩ := ih others room
    refine ⟨left, remains, ?_⟩
    rw [readRecordsFrom, readRecord_of_isSpacing spacing, readRecord_render record (by omega)]
    dsimp only
    rw [behind]
    rfl

private theorem exists_readRecords_spread {records : List (Bytes × Value)} (all : IsSpread records) (rest : Bytes) :
    ∃ left, readRecords (spread records ++ rest) =
      (records.map Prod.snd ++ (readRecordsFrom (left + 1) rest).1, (readRecordsFrom (left + 1) rest).2) := by
  have enough : 3 * (spread records ++ rest).length + 1 ≤ readingFuel (spread records ++ rest) + 1 := by
    unfold readingFuel
    omega
  obtain ⟨left, remains, read⟩ := readRecordsFrom_spread all rest enough
  obtain ⟨left, rfl⟩ : ∃ n, left = n + 1 := ⟨left - 1, by omega⟩
  exact ⟨left, read⟩

theorem readRecords_spread {records : List (Bytes × Value)} (all : IsSpread records) {gap : Bytes}
    (spacing : IsSpacing gap) : readRecords (spread records ++ gap) = (records.map Prod.snd, none) := by
  obtain ⟨left, read⟩ := exists_readRecords_spread all gap
  have ends : readRecordsFrom (left + 1) gap = ([], none) := by
    rw [readRecordsFrom, ← List.append_nil gap, readRecord_of_isSpacing spacing]
    rfl
  rw [read, ends, List.append_nil]

theorem readRecords_spread_append {records : List (Bytes × Value)} (all : IsSpread records) {gap front : Bytes}
    (spacing : IsSpacing gap) (broken : IsBrokenObject front) :
    ∃ f, readRecords (spread records ++ (gap ++ front)) = (records.map Prod.snd, some f) := by
  obtain ⟨left, read⟩ := exists_readRecords_spread all (gap ++ front)
  obtain ⟨f, faulty⟩ := readRecord_broken broken left
  refine ⟨f, ?_⟩
  have ends : readRecordsFrom (left + 1) (gap ++ front) = ([], some f) := by
    rw [readRecordsFrom, readRecord_of_isSpacing spacing, faulty]
  rw [read, ends, List.append_nil]

end FrameStream.Json
