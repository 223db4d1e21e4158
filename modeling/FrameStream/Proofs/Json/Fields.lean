import FrameStream.Json.Typed
import FrameStream.Proofs.Json.Values

/-!
# Reading typed data back

What the readers of typed data make of documents built from such data.  Texts, truth values and integers come back as
they were; a floating-point number does so exactly if it is *portable* (`asDouble_ofBinary`, `asSingle_ofBinary`),
which for single precision means by way of double precision.  Options and lists come back exactly if their content
does, and the fields of a record are found under their names.
-/

namespace FrameStream

open Json (Doc Value Items Members)

/-! ### Floating-point numbers -/

/-- The number is finite, and its literal leads back to it through double precision. -/
def Binary.IsPortable : Binary single → Prop
  | .finite x => ∃ y, Json.Number.ofLiteral (.ofFinite singlePositional x) = .ok (.float y) ∧
      y.convert single = .finite x
  | .infinite _ => False

namespace Json

variable {α : Type}

/-! ### Scalars -/

@[simp] theorem scalar_text (s : String) : (Doc.text s).scalar = .ok (.string s) := by
  simp [Doc.text, Doc.scalar, Doc.value, pieceText_textPieces]

@[simp] theorem asText_text (s : String) : (Doc.text s).asText = .ok s := by
  rw [Doc.asText, Doc.asScalar, scalar_text]
  rfl

@[simp] theorem asScalar_bool (b : Bool) : (Doc.bool b).asScalar Value.asBool = .ok b := rfl

theorem scalar_ofInt {i : Int} (lower : -0x8000000000000000 ≤ i) (upper : i < 0x10000000000000000) :
    (Doc.ofInt i).scalar = .ok (.number (.integer ⟨i, lower, upper⟩)) := by
  have read : Number.ofLiteral (.ofInt i) = .ok (.integer ⟨i, lower, upper⟩) :=
    Number.ofLiteral_ofInt ⟨i, lower, upper⟩
  change Value.number <$> Number.ofLiteral (.ofInt i) = _
  rw [read]
  rfl

/-- An integer within the bounds of its reader. -/
theorem asScalar_asInt {i lower upper : Int} (f : Int → α) (low : lower ≤ i) (high : i ≤ upper)
    (wide : -0x8000000000000000 ≤ lower ∧ upper < 0x10000000000000000) :
    (Doc.ofInt i).asScalar (fun v => f <$> v.asInt lower upper) = .ok (f i) := by
  rw [Doc.asScalar, scalar_ofInt (by omega) (by omega), ok_bind, Value.asInt, if_pos ⟨low, high⟩]
  rfl

@[simp] theorem asInt64_ofInt (n : Int64) : (Doc.ofInt n.toInt).asScalar Value.asInt64 = .ok n := by
  have low := n.le_toInt
  have high := n.toInt_lt
  exact (asScalar_asInt Int64.ofInt (by omega) (by omega) (by decide)).trans
    (congrArg Except.ok n.ofInt_toInt)

@[simp] theorem asInt32_ofInt (n : Int32) : (Doc.ofInt n.toInt).asScalar Value.asInt32 = .ok n := by
  have low := n.le_toInt
  have high := n.toInt_lt
  exact (asScalar_asInt Int32.ofInt (by omega) (by omega) (by decide)).trans
    (congrArg Except.ok n.ofInt_toInt)

@[simp] theorem asUInt64_ofNat (n : UInt64) : (Doc.ofNat n.toNat).asScalar Value.asUInt64 = .ok n := by
  have high := n.toNat_lt
  exact (asScalar_asInt (fun i => UInt64.ofNat i.toNat) (by omega) (by omega) (by decide)).trans
    (by simp)

@[simp] theorem asUInt8_ofNat (n : UInt8) : (Doc.ofNat n.toNat).asScalar Value.asUInt8 = .ok n := by
  have high := n.toNat_lt
  exact (asScalar_asInt (fun i => UInt8.ofNat i.toNat) (by omega) (by omega) (by decide)).trans
    (by simp)

/-- A number that is written for a floating-point number is one. -/
private theorem eq_float_of_ofLiteral {F : FloatFormat} {style : Positional} {x : Finite F} {n : Number}
    (h : Number.ofLiteral (.ofFinite style x) = .ok n) : ∃ y, n = .float y := by
  rw [Number.ofLiteral_of_pointed (Literal.isWhole_ofFinite style x)] at h
  obtain ⟨y, -, rfl⟩ := map_eq_ok.1 h
  exact ⟨_, rfl⟩

@[simp] theorem asDouble_ofBinary {x : Finite double} :
    (Doc.ofBinary doublePositional (.finite x)).asScalar Value.asDouble = .ok x ↔ x.IsPortable := by
  change (Value.number <$> Number.ofLiteral (.ofFinite doublePositional x)) >>= Value.asDouble = _ ↔ _
  rw [Finite.IsPortable, bind_eq_ok]
  constructor
  · rintro ⟨v, read, number⟩
    obtain ⟨n, literal, rfl⟩ := map_eq_ok.1 read
    obtain ⟨y, rfl⟩ := eq_float_of_ofLiteral literal
    obtain rfl : y = x := Except.ok.inj number
    exact literal
  · intro literal
    exact ⟨_, map_eq_ok.2 ⟨_, literal, rfl⟩, rfl⟩

/-- A number of single precision comes back exactly if it is portable. -/
theorem asSingle_ofBinary {x : Binary single} :
    (Doc.ofBinary singlePositional x).asSingle = .ok x ↔ x.IsPortable := by
  cases x with
  | infinite negative => exact ⟨nofun, False.elim⟩
  | finite x =>
    change (Value.number <$> Number.ofLiteral (.ofFinite singlePositional x)) >>= Value.asSingle = _ ↔ _
    rw [Binary.IsPortable, bind_eq_ok]
    constructor
    · rintro ⟨v, read, number⟩
      obtain ⟨n, literal, rfl⟩ := map_eq_ok.1 read
      obtain ⟨y, rfl⟩ := eq_float_of_ofLiteral literal
      exact ⟨y, literal, Except.ok.inj number⟩
    · rintro ⟨y, literal, back⟩
      exact ⟨_, map_eq_ok.2 ⟨_, literal, rfl⟩, congrArg Except.ok back⟩

/-! ### Options and lists -/

/-- An option comes back exactly if its content does; what is written as nothing must not be read as something. -/
theorem asOption_ofOption {read : Doc → Except Fault α} {write : α → Doc} (null : ∀ a, read .null ≠ .ok a)
    {a : Option α} : (Doc.ofOption write a).asOption read = .ok a ↔ ∀ b ∈ a, read (write b) = .ok b := by
  cases a with
  | none => simp [Doc.ofOption, Doc.asOption]
  | some a =>
    simp only [Doc.ofOption, Option.mem_some_iff, forall_eq']
    cases h : write a with
    | null => simp [Doc.asOption, null a]
    | _ => simp [Doc.asOption, map_eq_ok]

theorem asList_ofList {read : Doc → Except Fault α} {write : α → Doc} {as : List α} :
    (Doc.ofList write as).asList read = .ok as ↔ ∀ a ∈ as, read (write a) = .ok a := by
  change (as.foldr (fun a tail => Items.item (write a) tail) .closed).readAll read = .ok as ↔ _
  induction as with
  | nil => simp [Items.readAll]
  | cons a as ih =>
    rw [List.forall_mem_cons, List.foldr_cons, Items.readAll, ← ih]
    simp [bind_eq_ok]

/-! ### Records and choices -/

private theorem fields_members {names : List String} {members before : List (String × Doc)}
    (known : ∀ m ∈ members, m.1 ∈ names) (distinct : (members.map Prod.fst).Nodup)
    (new : ∀ m ∈ members, before.lookup m.1 = none) :
    Members.fields names (members.foldr (fun m tail => .member (textPieces m.1) m.2 tail) .closed) before =
      .ok (members.reverse ++ before) := by
  induction members generalizing before with
  | nil => rfl
  | cons m members ih =>
    rw [List.forall_mem_cons] at known new
    rw [List.map_cons, List.nodup_cons] at distinct
    have later : ∀ n ∈ members, (m :: before).lookup n.1 = none := by
      intro n hn
      have other : (n.1 == m.1) = false :=
        beq_false_of_ne fun same => distinct.1 (same ▸ List.mem_map_of_mem hn)
      rw [List.lookup_cons, other]
      exact new.2 n hn
    rw [List.foldr_cons, Members.fields, pieceText_textPieces, ok_bind, if_pos (by simpa using known.1), new.1,
      ih known.2 distinct.2 later, List.reverse_cons, List.append_assoc]
    rfl

/-- The fields of a record, last one first. -/
theorem asRecord_record {names : List String} {members : List (String × Doc)}
    (known : members.map Prod.fst = names) (distinct : names.Nodup) :
    (Doc.record members).asRecord names = .ok members.reverse := by
  have read : (Doc.record members).asRecord names = .ok (members.reverse ++ []) :=
    fields_members (fun _ hm => known ▸ List.mem_map_of_mem hm) (known ▸ distinct) fun _ _ => rfl
  rwa [List.append_nil] at read

@[simp] theorem asChoice_record (form : String) (d : Doc) : (Doc.record [(form, d)]).asChoice = .ok (form, d) := by
  change (·, d) <$> pieceText (textPieces form) = _
  rw [pieceText_textPieces]
  rfl

end Json

end FrameStream
