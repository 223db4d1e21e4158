import FrameStream.Proofs.Json.Literals
import FrameStream.Proofs.Json.Strings

/-!
# Reading written documents

A document that a printer can have made has no cut and only plain pieces in its strings.  Written out it is read back
as it was (`readDoc_render`), whatever follows that cannot continue a number, and three units of fuel for every octet
are enough.  The documents that are built from texts, numbers, options, lists and records are of this kind.
-/

namespace FrameStream.Json

/-! ### Documents that can be written -/

mutual

/-- Nothing is cut off, and every string can stand between quotes. -/
def Doc.IsWhole : Doc → Prop
  | .null | .bool _ | .number _ => True
  | .string pieces => ∀ p ∈ pieces, p.IsPlain
  | .array items => items.IsWhole
  | .object members => members.IsWhole
  | .cut _ => False

def Items.IsWhole : Items → Prop
  | .closed => True
  | .item head tail => head.IsWhole ∧ tail.IsWhole
  | .cut _ => False

def Members.IsWhole : Members → Prop
  | .closed => True
  | .member key value tail => (∀ p ∈ key, p.IsPlain) ∧ value.IsWhole ∧ tail.IsWhole
  | .cut _ => False

end

/-! ### First octets -/

/-- The octets that the writing of a document can start with. -/
private def startsDoc (b : UInt8) : Bool :=
  b == 0x22 || b == 0x5B || b == 0x7B || b == 0x2D || isDigit b || b == 0x6E || b == 0x74 || b == 0x66

private theorem render_literal_cons (l : Literal) :
    ∃ b bs, l.render = b :: bs ∧ (b = 0x2D ∧ l.negative = true ∨ isDigit b ∧ l.negative = false) := by
  obtain ⟨c, cs, front⟩ := List.exists_cons_of_ne_nil
    (Nat.toDigits_ne_nil (n := l.digits / Nat.pow 10 l.places) (b := 10))
  have digit : c.isDigit :=
    Nat.isDigit_of_mem_toDigits (by decide) (by decide) (front ▸ List.mem_cons_self)
  unfold Literal.render Literal.characters
  rw [front]
  cases l.negative with
  | true => exact ⟨_, _, rfl, .inl ⟨rfl, rfl⟩⟩
  | false => exact ⟨_, _, rfl, .inr ⟨isDigit_toUInt8 digit, rfl⟩⟩

private theorem render_cons {d : Doc} (whole : d.IsWhole) :
    ∃ b bs, d.render = b :: bs ∧ startsDoc b := by
  cases d with
  | null => exact ⟨_, _, rfl, rfl⟩
  | bool b => cases b <;> exact ⟨_, _, rfl, rfl⟩
  | number l =>
    obtain ⟨b, bs, written, first⟩ := render_literal_cons l
    refine ⟨b, bs, written, ?_⟩
    rcases first with ⟨rfl, -⟩ | ⟨digit, -⟩
    · rfl
    · simp [startsDoc, digit]
  | string pieces => exact ⟨_, _, rfl, rfl⟩
  | array items => exact ⟨_, _, rfl, rfl⟩
  | object members => exact ⟨_, _, rfl, rfl⟩
  | cut f => exact absurd whole id

private theorem skipSpaces_of_startsDoc {b : UInt8} (h : startsDoc b) (bs : Bytes) :
    skipSpaces (b :: bs) = b :: bs := by
  have dark : ¬ isSpace b := by
    intro space
    simp only [isSpace, Bool.or_eq_true, beq_iff_eq, or_assoc] at space
    rcases space with rfl | rfl | rfl | rfl <;> exact absurd h (by decide)
  rw [skipSpaces, List.dropWhile_cons_of_neg dark]

private theorem ne_close_of_startsDoc {b : UInt8} (h : startsDoc b) : b ≠ 0x5D := by
  rintro rfl
  exact absurd h (by decide)

/-- Behind an item there is a comma or a bracket. -/
private theorem render_items_cons {items : Items} (whole : items.IsWhole) :
    ∃ b bs, items.render false = b :: bs ∧ (b = 0x2C ∨ b = 0x5D) := by
  cases items with
  | closed => exact ⟨_, _, rfl, .inr rfl⟩
  | item head tail => exact ⟨_, _, rfl, .inl rfl⟩
  | cut f => exact absurd whole id

private theorem render_members_cons {members : Members} (whole : members.IsWhole) :
    ∃ b bs, members.render false = b :: bs ∧ (b = 0x2C ∨ b = 0x7D) := by
  cases members with
  | closed => exact ⟨_, _, rfl, .inr rfl⟩
  | member key value tail => exact ⟨_, _, rfl, .inl rfl⟩
  | cut f => exact absurd whole id

private theorem endsNumber_render_items {items : Items} (whole : items.IsWhole) (rest : Bytes) :
    endsNumber (items.render false ++ rest) := by
  obtain ⟨b, bs, written, rfl | rfl⟩ := render_items_cons whole <;> rw [written] <;> rfl

private theorem endsNumber_render_members {members : Members} (whole : members.IsWhole) (rest : Bytes) :
    endsNumber (members.render false ++ rest) := by
  obtain ⟨b, bs, written, rfl | rfl⟩ := render_members_cons whole <;> rw [written] <;> rfl

/-! ### Reading back -/

/-- A number with its sign. -/
private theorem readDoc_literal (l : Literal) (fuel : Nat) {rest : Bytes} (stop : endsNumber rest) :
    readDoc (fuel + 1) (l.render ++ rest) = (.number l, .ok rest) := by
  obtain ⟨b, bs, written, first⟩ := render_literal_cons l
  have starts : startsDoc b := by
    rcases first with ⟨rfl, -⟩ | ⟨digit, -⟩
    · rfl
    · simp [startsDoc, digit]
  have read : readNumber l.negative ({ l with negative := false : Literal }.render ++ rest) = .ok (l, rest) :=
    readNumber_render l stop l.negative
  rcases first with ⟨rfl, negative⟩ | ⟨digit, positive⟩
  · have behind : { l with negative := false : Literal }.render = bs := by
      have := written
      simp only [Literal.render, Literal.characters, negative] at this
      exact (List.cons.inj this).2
    rw [behind, negative] at read
    rw [written, List.cons_append, readDoc, skipSpaces_of_startsDoc starts]
    simp [read, Progress.ofExcept]
  · have whole : { l with negative := false : Literal } = l := by
      rw [← positive]
    rw [whole, positive, written, List.cons_append] at read
    have other : b ≠ 0x22 ∧ b ≠ 0x5B ∧ b ≠ 0x7B ∧ b ≠ 0x2D := by
      refine ⟨?_, ?_, ?_, ?_⟩ <;> rintro rfl <;> exact absurd digit (by decide)
    rw [written, List.cons_append, readDoc, skipSpaces_of_startsDoc starts]
    simp [other, digit, read, Progress.ofExcept]

mutual

theorem readDoc_render {d : Doc} (whole : d.IsWhole) {fuel : Nat} (enough : 3 * d.render.length ≤ fuel)
    {rest : Bytes} (stop : endsNumber rest) : readDoc fuel (d.render ++ rest) = (d, .ok rest) := by
  obtain ⟨b, bs, written, starts⟩ := render_cons whole
  obtain ⟨fuel, rfl⟩ : ∃ n, fuel = n + 1 := ⟨fuel - 1, by simp [written] at enough; omega⟩
  match d with
  | .null => rfl
  | .bool true => rfl
  | .bool false => rfl
  | .number l => exact readDoc_literal l fuel stop
  | .string pieces =>
    have read := readString_renderString whole rest
    change readDoc (fuel + 1) (0x22 :: ((renderString pieces).tail ++ rest)) = _
    rw [readDoc, skipSpaces_of_startsDoc rfl]
    simp [read, Progress.ofExcept]
  | .array items =>
    simp only [Doc.render, List.length_cons] at enough
    have read : readItems fuel true (items.render true ++ rest) = (items, .ok rest) :=
      readItems_render whole true (by omega) rest
    rw [Doc.render, List.cons_append, readDoc, skipSpaces_of_startsDoc rfl]
    simp [read]
  | .object members =>
    simp only [Doc.render, List.length_cons] at enough
    have read : readMembers fuel true (members.render true ++ rest) = (members, .ok rest) :=
      readMembers_render whole true (by omega) rest
    rw [Doc.render, List.cons_append, readDoc, skipSpaces_of_startsDoc rfl]
    simp [read]
  | .cut _ => exact absurd whole id

theorem readItems_render {items : Items} (whole : items.IsWhole) {fuel : Nat} (start : Bool)
    (enough : 3 * (items.render start).length ≤ fuel) (rest : Bytes) :
    readItems fuel start (items.render start ++ rest) = (items, .ok rest) := by
  match items with
  | .closed =>
    obtain ⟨fuel, rfl⟩ : ∃ n, fuel = n + 1 := ⟨fuel - 1, by simp [Items.render] at enough; omega⟩
    rfl
  | .item head tail =>
    obtain ⟨b, bs, written, starts⟩ := render_cons whole.1
    obtain ⟨c, cs, behind, -⟩ := render_items_cons whole.2
    have one := congrArg List.length written
    have two := congrArg List.length behind
    simp only [Items.render, List.length_append, List.length_cons] at enough one two
    obtain ⟨fuel, rfl⟩ : ∃ n, fuel = n + 2 := ⟨fuel - 2, by omega⟩
    have first : readDoc fuel (head.render ++ (tail.render false ++ rest)) =
        (head, .ok (tail.render false ++ rest)) :=
      readDoc_render whole.1 (by omega) (endsNumber_render_items whole.2 rest)
    have others : readItems fuel false (tail.render false ++ rest) = (tail, .ok rest) :=
      readItems_render whole.2 false (by omega) rest
    have item : readItem (fuel + 1) (head.render ++ (tail.render false ++ rest)) = (.item head tail, .ok rest) := by
      rw [readItem, first]
      simp only [others]
    cases start with
    | true =>
      rw [written, List.cons_append] at item
      simp only [Items.render, if_true, List.nil_append, List.append_assoc]
      rw [written, List.cons_append, readItems, skipSpaces_of_startsDoc starts]
      simp [ne_close_of_startsDoc starts, item]
    | false =>
      simp only [Items.render, Bool.false_eq_true, if_false, List.append_assoc, List.cons_append]
      rw [readItems, show ∀ bs, skipSpaces (0x2C :: bs) = 0x2C :: bs from fun _ => rfl]
      simp [item]
  | .cut _ => exact absurd whole id

theorem readMembers_render {members : Members} (whole : members.IsWhole) {fuel : Nat} (start : Bool)
    (enough : 3 * (members.render start).length ≤ fuel) (rest : Bytes) :
    readMembers fuel start (members.render start ++ rest) = (members, .ok rest) := by
  match members with
  | .closed =>
    obtain ⟨fuel, rfl⟩ : ∃ n, fuel = n + 1 := ⟨fuel - 1, by simp [Members.render] at enough; omega⟩
    rfl
  | .member key value tail =>
    obtain ⟨b, bs, written, starts⟩ := render_cons whole.2.1
    obtain ⟨c, cs, behind, -⟩ := render_members_cons whole.2.2
    have one := congrArg List.length written
    have two := congrArg List.length behind
    simp only [Members.render, List.length_append, List.length_cons] at enough one two
    obtain ⟨fuel, rfl⟩ : ∃ n, fuel = n + 2 := ⟨fuel - 2, by omega⟩
    have name := readString_renderString whole.1 (0x3A :: (value.render ++ (tail.render false ++ rest)))
    have first : readDoc fuel (value.render ++ (tail.render false ++ rest)) =
        (value, .ok (tail.render false ++ rest)) :=
      readDoc_render whole.2.1 (by omega) (endsNumber_render_members whole.2.2 rest)
    have others : readMembers fuel false (tail.render false ++ rest) = (tail, .ok rest) :=
      readMembers_render whole.2.2 false (by omega) rest
    have quoted : renderString key = 0x22 :: (renderString key).tail := rfl
    have member : readMember (fuel + 1)
        (0x22 :: ((renderString key).tail ++ 0x3A :: (value.render ++ (tail.render false ++ rest)))) =
          (.member key value tail, .ok rest) := by
      rw [readMember, skipSpaces_of_startsDoc rfl]
      simp only [if_true, name]
      rw [show ∀ bs, skipSpaces (0x3A :: bs) = 0x3A :: bs from fun _ => rfl]
      simp only [if_true, first, others]
    cases start with
    | true =>
      simp only [Members.render, if_true, List.nil_append, List.append_assoc, List.cons_append]
      rw [quoted, List.cons_append, readMembers, skipSpaces_of_startsDoc rfl]
      simp [member]
    | false =>
      simp only [Members.render, Bool.false_eq_true, if_false, List.append_assoc, List.cons_append]
      rw [quoted, List.cons_append, readMembers, show ∀ bs, skipSpaces (0x2C :: bs) = 0x2C :: bs from fun _ => rfl]
      simp [member]
  | .cut _ => exact absurd whole id

end

/-- The text of a document holds that document and nothing else. -/
theorem read_render {d : Doc} (whole : d.IsWhole) : Doc.read d.render = (d, .ok []) := by
  have enough : 3 * d.render.length ≤ readingFuel d.render := by
    unfold readingFuel
    omega
  have read : readDoc (readingFuel d.render) (d.render ++ []) = (d, .ok []) := readDoc_render whole enough rfl
  rwa [List.append_nil] at read

/-- What a reader makes of the text of a document is what it makes of the document. -/
theorem readText_render (read : Doc → Except Fault α) {d : Doc} (whole : d.IsWhole) :
    readText read d.render = read d := by
  rw [readText, read_render whole]
  dsimp only
  cases read d <;> rfl

/-! ### Documents that are built -/

@[simp] theorem isWhole_text (s : String) : (Doc.text s).IsWhole := fun _ h => isPlain_of_mem_textPieces h

@[simp] theorem isWhole_bool (b : Bool) : (Doc.bool b).IsWhole := trivial

@[simp] theorem isWhole_ofNat (n : Nat) : (Doc.ofNat n).IsWhole := trivial

@[simp] theorem isWhole_ofInt (i : Int) : (Doc.ofInt i).IsWhole := trivial

@[simp] theorem isWhole_ofBinary (style : Positional) (x : Binary F) : (Doc.ofBinary style x).IsWhole := by
  cases x <;> trivial

@[simp] theorem isWhole_ofOption {write : α → Doc} (h : ∀ a, (write a).IsWhole) (a : Option α) :
    (Doc.ofOption write a).IsWhole := by
  cases a with
  | none => trivial
  | some a => exact h a

@[simp] theorem isWhole_ofList {write : α → Doc} (h : ∀ a, (write a).IsWhole) (as : List α) :
    (Doc.ofList write as).IsWhole := by
  change (as.foldr (fun a tail => Items.item (write a) tail) .closed).IsWhole
  induction as with
  | nil => trivial
  | cons a as ih => exact ⟨h a, ih⟩

theorem isWhole_record {members : List (String × Doc)} (h : ∀ m ∈ members, m.2.IsWhole) :
    (Doc.record members).IsWhole := by
  change (members.foldr (fun m tail => Members.member (textPieces m.1) m.2 tail) .closed).IsWhole
  induction members with
  | nil => trivial
  | cons m members ih =>
    rw [List.forall_mem_cons] at h
    exact ⟨fun _ hp => isPlain_of_mem_textPieces hp, h.1, ih h.2⟩

mutual

@[simp] theorem isWhole_doc (v : Value) : v.doc.IsWhole := by
  match v with
  | .null | .bool _ | .number _ => trivial
  | .string s => exact isWhole_text s
  | .array items => exact isWhole_itemDocs items
  | .object members => exact isWhole_memberDocs members

theorem isWhole_itemDocs (vs : List Value) : (itemDocs vs).IsWhole := by
  match vs with
  | [] => trivial
  | v :: vs => exact ⟨isWhole_doc v, isWhole_itemDocs vs⟩

theorem isWhole_memberDocs (members : List (String × Value)) : (memberDocs members).IsWhole := by
  match members with
  | [] => trivial
  | (key, v) :: rest => exact ⟨fun _ hp => isPlain_of_mem_textPieces hp, isWhole_doc v, isWhole_memberDocs rest⟩

end

end FrameStream.Json
