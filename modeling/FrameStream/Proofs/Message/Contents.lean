import FrameStream.Message.Attribute
import FrameStream.Proofs.Number.Integers

/-!
# Contents of attributes

A free value that becomes the content of an attribute is kept as it is, with one exception: a number of double precision
can be had of every integer, so that an integer beyond those of 64 bits with sign becomes one instead of staying a JSON
value (`carries_ofJson`).  It is rounded to a multiple of 2048 then, and integers that are rounded to the same one can
no longer be told apart.
-/

namespace FrameStream

open Json (Value WideInt)

namespace Json.Value

variable {v : Value}

/-- The value is an integer beyond those of 64 bits with sign. -/
def IsBeyond (v : Value) (i : WideInt) : Prop := v = .number (.integer i) ∧ 0x8000000000000000 ≤ i.value

/-- The value is the number, or an integer beyond those of 64 bits with sign to which the number is nearest. -/
def RoundsTo (v : Value) (x : Finite double) : Prop :=
  v = .number (.float x) ∨ ∃ i, v.IsBeyond i ∧ Binary.ofInt double i.value = .finite x

end Json.Value

namespace AttributeContent

variable {content : AttributeContent} {v w : Value} {i : WideInt}

/-- The content is the value itself, as a scalar of its own type where there is one, and as a JSON value otherwise. -/
inductive Carries : AttributeContent → Value → Prop where
  | text (s : String) : Carries (.text s) (.string s)
  | truth (b : Bool) : Carries (.truth b) (.bool b)
  | float (x : Finite double) : Carries (.float x) (.number (.float x))
  | integer (i : WideInt) (n : Int64) (same : n.toInt = i.value) : Carries (.integer n) (.number (.integer i))
  | beyond (i : WideInt) (large : 0x8000000000000000 ≤ i.value) :
    Carries (.json (.number (.integer i))) (.number (.integer i))
  | null : Carries (.json .null) .null
  | array (items : List Value) : Carries (.json (.array items)) (.array items)
  | object (members : List (String × Value)) : Carries (.json (.object members)) (.object members)

/-- A content carries one value at most. -/
theorem Carries.unique (h : Carries content v) (k : Carries content w) : v = w := by
  cases h with
  | integer i n same =>
    cases k with
    | integer j _ same' =>
      have values : i.value = j.value := same.symm.trans same'
      obtain ⟨i, _, _⟩ := i
      obtain ⟨j, _, _⟩ := j
      obtain rfl : i = j := values
      rfl
  | _ =>
    cases k
    rfl

/-! ### Integers beyond 64 bits with sign -/

/-- They have eleven bits too many. -/
theorem exists_ofInt_beyond (i : WideInt) (large : 0x8000000000000000 ≤ i.value) :
    ∃ (x : Finite double) (k : Nat), Binary.ofInt double i.value = .finite x ∧ x.negative = false ∧
      x.magnitude.value = 2048 * k ∧ |2048 * (k : ℤ) - i.value| ≤ 1024 ∧
      (|2048 * (k : ℤ) - i.value| = 1024 → Even k) ∧ (2048 * (k : ℤ) = i.value ↔ 2048 ∣ i.value) := by
  obtain ⟨n, whole⟩ : ∃ n : Nat, i.value = n := ⟨i.value.toNat, by omega⟩
  have upper := i.upper
  rw [whole] at large upper ⊢
  obtain ⟨x, rounds, sign, value⟩ := Binary.exists_ofInt (F := double) (n := n) (e := 11)
    (show 2 ^ 63 ≤ n by omega) (show n < 2 ^ 64 by omega) (by decide) (by decide) (by decide)
  obtain ⟨near, even⟩ := Ratio.nearest_spec (r := ⟨n, 2 ^ 11⟩) (Nat.two_pow_pos 11)
  set k := (⟨n, 2 ^ 11⟩ : Ratio).nearest
  have multiple : ((k * (2 ^ 11 : Nat) : Nat) : ℤ) = 2048 * k := by
    push_cast
    ring
  push_cast at near even multiple
  rw [multiple] at near even
  refine ⟨x, k, rounds, sign, ?_, by omega, fun tie => even (by omega), fun same => ⟨k, same.symm⟩, ?_⟩
  · rw [value]
    ring
  · -- a multiple that is not the integer itself is further than a half away
    rintro ⟨j, hj⟩
    rw [hj, ← mul_sub, abs_mul] at near
    have : |(k : ℤ) - j| < 1 := by
      norm_num at near
      omega
    have : (k : ℤ) - j = 0 := Int.abs_lt_one_iff.1 this
    omega

/-! ### Conversion -/

theorem ofJson_of_roundsTo {x : Finite double} (h : v.RoundsTo x) : ofJson v = .float x := by
  rcases h with rfl | ⟨i, ⟨rfl, large⟩, rounds⟩
  · rfl
  · rw [ofJson, if_neg (by omega), rounds]

/-- Every value but an integer beyond those of 64 bits with sign is carried. -/
theorem carries_ofJson_of_small (small : ∀ i, ¬ v.IsBeyond i) : (ofJson v).Carries v := by
  cases v with
  | null => exact .null
  | bool b => exact .truth b
  | string s => exact .text s
  | array items => exact .array items
  | object members => exact .object members
  | number n =>
    cases n with
    | float x => exact .float x
    | integer i =>
      have lower := i.lower
      have fits : i.value < 0x8000000000000000 := by
        by_contra large
        exact small i ⟨rfl, by omega⟩
      rw [ofJson, if_pos fits]
      exact .integer i _ (Int64.toInt_ofInt_of_le lower fits)

/-- Either the value is carried, or it becomes the number of double precision nearest to it. -/
theorem ofJson_cases (v : Value) : (ofJson v).Carries v ∨ ∃ x, v.RoundsTo x := by
  by_cases beyond : ∃ i, v.IsBeyond i
  · obtain ⟨i, large⟩ := beyond
    obtain ⟨x, -, rounds, -⟩ := exists_ofInt_beyond i large.2
    exact .inr ⟨x, .inr ⟨i, large, rounds⟩⟩
  · exact .inl (carries_ofJson_of_small fun i large => beyond ⟨i, large⟩)

/-- A carried value whose content is a number of double precision is that number. -/
theorem roundsTo_of_carries {x : Finite double} (h : Carries (.float x) v) : v.RoundsTo x := by
  cases h
  exact .inl rfl

/-- Two values have one content only if they are one value, or one number of double precision is nearest to both. -/
theorem ofJson_eq_iff : ofJson v = ofJson w ↔ v = w ∨ ∃ x, v.RoundsTo x ∧ w.RoundsTo x := by
  constructor
  · intro same
    rcases ofJson_cases v with carried | ⟨x, rounds⟩
    · rcases ofJson_cases w with carried' | ⟨y, rounds'⟩
      · exact .inl (carried.unique (same ▸ carried'))
      · rw [same, ofJson_of_roundsTo rounds'] at carried
        exact .inr ⟨y, roundsTo_of_carries carried, rounds'⟩
    · rcases ofJson_cases w with carried' | ⟨y, rounds'⟩
      · rw [← same, ofJson_of_roundsTo rounds] at carried'
        exact .inr ⟨x, rounds, roundsTo_of_carries carried'⟩
      · rw [ofJson_of_roundsTo rounds, ofJson_of_roundsTo rounds'] at same
        obtain rfl : x = y := AttributeContent.float.inj same
        exact .inr ⟨x, rounds, rounds'⟩
  · rintro (rfl | ⟨x, rounds, rounds'⟩)
    · rfl
    · rw [ofJson_of_roundsTo rounds, ofJson_of_roundsTo rounds']

end AttributeContent

/-- The values of attributes are carried, but for integers beyond those of 64 bits with sign.  Such an integer becomes
the nearest multiple of 2048, of two equally near ones the multiple of 4096, as a number of double precision; it is
still exact only if it was such a multiple.  Different values become the same only by way of that. -/
theorem AttributeValue.carries_ofJson (v w : Value) (confidence : Option (Binary single)) :
    let content : Value → AttributeContent := fun v => (AttributeValue.ofJson v confidence).content
    ((content v).Carries v ↔ ∀ i, ¬ v.IsBeyond i) ∧
    (∀ i, v.IsBeyond i → ∃ (x : Finite double) (k : Nat), content v = .float x ∧ x.negative = false ∧
      x.magnitude.value = 2048 * k ∧ |2048 * (k : ℤ) - i.value| ≤ 1024 ∧
      (|2048 * (k : ℤ) - i.value| = 1024 → Even k) ∧ (2048 * (k : ℤ) = i.value ↔ 2048 ∣ i.value)) ∧
    (content v = content w ↔ v = w ∨ ∃ x, v.RoundsTo x ∧ w.RoundsTo x) := by
  intro content
  refine ⟨⟨?_, AttributeContent.carries_ofJson_of_small⟩, ?_, AttributeContent.ofJson_eq_iff⟩
  · rintro carried i large
    obtain ⟨x, -, rounds, -⟩ := AttributeContent.exists_ofInt_beyond i large.2
    have float : content v = .float x := AttributeContent.ofJson_of_roundsTo (.inr ⟨i, large, rounds⟩)
    rw [float, large.1] at carried
    cases carried
  · intro i large
    obtain ⟨x, k, rounds, nearest⟩ := AttributeContent.exists_ofInt_beyond i large.2
    exact ⟨x, k, AttributeContent.ofJson_of_roundsTo (.inr ⟨i, large, rounds⟩), nearest⟩

/-- The least integer beyond those of 64 bits with sign, and the next one, become the same number. -/
example : AttributeContent.ofJson (.number (.integer ⟨0x8000000000000000, by decide, by decide⟩)) =
    .ofJson (.number (.integer ⟨0x8000000000000001, by decide, by decide⟩)) := rfl

end FrameStream
