import Mathlib.Data.String.Basic
import FrameStream.Proofs.Json.Decimals
import FrameStream.Proofs.Json.Documents
import FrameStream.Proofs.Results

/-!
# Values and their documents

Whatever a document means has its members in the order of their keys (`isOrdered_of_value`).  Such a value is what
its own document means exactly if its numbers of double precision are portable and it is not nested too deep
(`value_doc`): a value can lose its way back by nothing else.
-/

namespace FrameStream.Json

/-! ### Order of members -/

mutual

/-- The members of every object are sorted by their keys, and no key occurs twice. -/
def Value.IsOrdered : Value → Prop
  | .array items => itemsOrdered items
  | .object members => membersOrdered members
  | _ => True

def itemsOrdered : List Value → Prop
  | [] => True
  | v :: vs => v.IsOrdered ∧ itemsOrdered vs

def membersOrdered : List (String × Value) → Prop
  | [] => True
  | (key, v) :: rest => (∀ m ∈ rest, key < m.1) ∧ v.IsOrdered ∧ membersOrdered rest

end

theorem mem_insertMember {key : String} {v : Value} {members : List (String × Value)} {m : String × Value}
    (h : m ∈ insertMember key v members) : m = (key, v) ∨ m ∈ members := by
  induction members with
  | nil => exact .inl (List.mem_singleton.1 h)
  | cons other rest ih =>
    simp only [insertMember] at h
    split at h
    · exact List.mem_cons.1 h
    · split at h
      · exact (List.mem_cons.1 h).imp_right (List.mem_cons_of_mem _)
      · rcases List.mem_cons.1 h with rfl | h
        · exact .inr List.mem_cons_self
        · exact (ih h).imp_right (List.mem_cons_of_mem _)

theorem membersOrdered_insertMember {key : String} {v : Value} {members : List (String × Value)}
    (value : v.IsOrdered) (ordered : membersOrdered members) : membersOrdered (insertMember key v members) := by
  induction members with
  | nil => exact ⟨fun _ h => absurd h List.not_mem_nil, value, trivial⟩
  | cons other rest ih =>
    obtain ⟨k, w⟩ := other
    obtain ⟨least, first, others⟩ := ordered
    simp only [insertMember]
    split
    · rename_i before
      refine ⟨fun m hm => ?_, value, least, first, others⟩
      rcases List.mem_cons.1 hm with rfl | hm
      · exact before
      · exact before.trans (least m hm)
    · rename_i before
      split
      · rename_i same
        exact ⟨fun m hm => same ▸ least m hm, value, others⟩
      · rename_i other
        have behind : k < key := (lt_trichotomy key k).resolve_left before |>.resolve_left other
        refine ⟨fun m hm => ?_, first, ih others⟩
        rcases mem_insertMember hm with rfl | hm
        · exact behind
        · exact least m hm

/-- A member behind all others goes to the end. -/
theorem insertMember_append {key : String} {v : Value} {before : List (String × Value)}
    (h : ∀ m ∈ before, m.1 < key) : insertMember key v before = before ++ [(key, v)] := by
  induction before with
  | nil => rfl
  | cons m before ih =>
    rw [List.forall_mem_cons] at h
    obtain ⟨k, w⟩ := m
    simp [insertMember, h.1.asymm, h.1.ne', ih h.2]

mutual

theorem isOrdered_of_value {room : Nat} {d : Doc} {v : Value} (h : d.value room = .ok v) : v.IsOrdered := by
  match d, room with
  | .null, _ | .bool _, _ =>
    rw [Doc.value] at h
    cases h
    trivial
  | .number l, _ =>
    rw [Doc.value] at h
    obtain ⟨n, -, rfl⟩ := map_eq_ok.1 h
    trivial
  | .string pieces, _ =>
    rw [Doc.value] at h
    obtain ⟨s, -, rfl⟩ := map_eq_ok.1 h
    trivial
  | .array items, room + 1 =>
    rw [Doc.value] at h
    obtain ⟨vs, read, rfl⟩ := map_eq_ok.1 h
    exact itemsOrdered_of_values read
  | .object members, room + 1 =>
    rw [Doc.value] at h
    obtain ⟨ms, read, rfl⟩ := map_eq_ok.1 h
    exact membersOrdered_of_values (show membersOrdered [] from trivial) read

theorem itemsOrdered_of_values {room : Nat} {items : Items} {vs : List Value} (h : items.values room = .ok vs) :
    itemsOrdered vs := by
  match items with
  | .closed =>
    rw [Items.values] at h
    cases h
    trivial
  | .item head tail =>
    rw [Items.values] at h
    obtain ⟨v, first, h⟩ := bind_eq_ok.1 h
    obtain ⟨rest, others, h⟩ := bind_eq_ok.1 h
    cases h
    exact ⟨isOrdered_of_value first, itemsOrdered_of_values others⟩

theorem membersOrdered_of_values {room : Nat} {members : Members} {before ms : List (String × Value)}
    (ordered : membersOrdered before) (h : members.values room before = .ok ms) : membersOrdered ms := by
  match members with
  | .closed =>
    rw [Members.values] at h
    cases h
    exact ordered
  | .member key value tail =>
    rw [Members.values] at h
    obtain ⟨name, -, h⟩ := bind_eq_ok.1 h
    obtain ⟨v, first, h⟩ := bind_eq_ok.1 h
    exact membersOrdered_of_values (membersOrdered_insertMember (isOrdered_of_value first) ordered) h

end

/-! ### Depth -/

mutual

/-- How many arrays and objects stand within each other. -/
def Value.depth : Value → Nat
  | .array items => itemsDepth items + 1
  | .object members => membersDepth members + 1
  | _ => 0

def itemsDepth : List Value → Nat
  | [] => 0
  | v :: vs => max v.depth (itemsDepth vs)

def membersDepth : List (String × Value) → Nat
  | [] => 0
  | (_, v) :: rest => max v.depth (membersDepth rest)

end

/-! ### Numbers -/

mutual

/-- The numbers of double precision in a value. -/
def Value.floats : Value → List (Finite double)
  | .number (.float x) => [x]
  | .array items => itemFloats items
  | .object members => memberFloats members
  | _ => []

def itemFloats : List Value → List (Finite double)
  | [] => []
  | v :: vs => v.floats ++ itemFloats vs

def memberFloats : List (String × Value) → List (Finite double)
  | [] => []
  | (_, v) :: rest => v.floats ++ memberFloats rest

end

theorem ofLiteral_literal_iff {n : Number} :
    Number.ofLiteral n.literal = .ok n ↔ ∀ x ∈ (Value.number n).floats, x.IsPortable := by
  cases n with
  | integer i => simp [Value.floats, Number.literal, Number.ofLiteral_ofInt]
  | float x => simp [Value.floats, Number.literal, Finite.IsPortable]

/-! ### Reading back -/

/-- The members that were read before stay in front of members whose keys are behind theirs. -/
private theorem prefix_of_values {members before ms : List (String × Value)} {room : Nat}
    (ordered : membersOrdered members) (behind : ∀ b ∈ before, ∀ m ∈ members, b.1 < m.1)
    (h : (memberDocs members).values room before = .ok ms) : before <+: ms := by
  induction members generalizing before with
  | nil =>
    rw [memberDocs, Members.values] at h
    cases h
    exact List.prefix_rfl
  | cons m rest ih =>
    obtain ⟨key, v⟩ := m
    obtain ⟨least, -, others⟩ := ordered
    rw [memberDocs, Members.values, pieceText_textPieces, ok_bind] at h
    obtain ⟨w, -, h⟩ := bind_eq_ok.1 h
    rw [insertMember_append fun b hb => behind b hb _ List.mem_cons_self] at h
    refine (List.prefix_append before [(key, w)]).trans (ih others ?_ h)
    intro b hb m hm
    rcases List.mem_append.1 hb with hb | hb
    · exact behind b hb m (List.mem_cons_of_mem _ hm)
    · rw [List.mem_singleton.1 hb]
      exact least m hm

mutual

/-- The document of a value means that value exactly if its numbers are portable and there is room for it. -/
theorem value_doc {v : Value} (ordered : v.IsOrdered) (room : Nat) :
    v.doc.value room = .ok v ↔ (∀ x ∈ v.floats, x.IsPortable) ∧ v.depth ≤ room := by
  match v, room with
  | .null, _ | .bool _, _ => simp [Value.doc, Doc.value, Value.depth, Value.floats]
  | .number n, _ =>
    simp only [Value.doc, Doc.value, map_eq_ok, Value.number.injEq, exists_eq_right, Value.depth, Nat.zero_le,
      and_true]
    exact ofLiteral_literal_iff
  | .string s, _ => simp [Value.doc, Doc.text, Doc.value, Value.depth, Value.floats, pieceText_textPieces]
  | .array items, 0 => simp [Value.doc, Doc.value, Value.depth]
  | .object members, 0 => simp [Value.doc, Doc.value, Value.depth]
  | .array items, room + 1 =>
    simp only [Value.doc, Doc.value, map_eq_ok, Value.array.injEq, exists_eq_right, Value.depth, Value.floats,
      Nat.add_le_add_iff_right]
    exact values_itemDocs ordered room
  | .object members, room + 1 =>
    simp only [Value.doc, Doc.value, map_eq_ok, Value.object.injEq, exists_eq_right, Value.depth, Value.floats,
      Nat.add_le_add_iff_right]
    exact values_memberDocs ordered room fun _ h => absurd h List.not_mem_nil

theorem values_itemDocs {vs : List Value} (ordered : itemsOrdered vs) (room : Nat) :
    (itemDocs vs).values room = .ok vs ↔ (∀ x ∈ itemFloats vs, x.IsPortable) ∧ itemsDepth vs ≤ room := by
  match vs with
  | [] => simp [itemDocs, Items.values, itemsDepth, itemFloats]
  | v :: vs =>
    have first := value_doc ordered.1 room
    have others := values_itemDocs ordered.2 room
    rw [itemFloats, List.forall_mem_append, itemsDepth, Nat.max_le, and_and_and_comm, ← first, ← others]
    simp [itemDocs, Items.values, bind_eq_ok]

theorem values_memberDocs {members before : List (String × Value)} (ordered : membersOrdered members) (room : Nat)
    (behind : ∀ b ∈ before, ∀ m ∈ members, b.1 < m.1) :
    (memberDocs members).values room before = .ok (before ++ members) ↔
      (∀ x ∈ memberFloats members, x.IsPortable) ∧ membersDepth members ≤ room := by
  match members with
  | [] => simp [memberDocs, Members.values, membersDepth, memberFloats]
  | (key, v) :: rest =>
    obtain ⟨least, value, others⟩ := ordered
    have further (w : Value) : ∀ b ∈ before ++ [(key, w)], ∀ m ∈ rest, b.1 < m.1 := by
      intro b hb m hm
      rcases List.mem_append.1 hb with hb | hb
      · exact behind b hb m (List.mem_cons_of_mem _ hm)
      · rw [List.mem_singleton.1 hb]
        exact least m hm
    have place (w : Value) : insertMember key w before = before ++ [(key, w)] :=
      insertMember_append fun b hb => behind b hb _ List.mem_cons_self
    have first := value_doc value room
    have tail := values_memberDocs others room (further v)
    rw [memberFloats, List.forall_mem_append, membersDepth, Nat.max_le, and_and_and_comm, ← first, ← tail, memberDocs,
      Members.values, pieceText_textPieces, ok_bind, bind_eq_ok]
    simp only [place, List.append_assoc, List.singleton_append]
    constructor
    · rintro ⟨w, read, behind_it⟩
      -- what was read for the value stands where the value does
      obtain ⟨after, whole⟩ := prefix_of_values others (further w) behind_it
      have same : w = v ∧ after = rest := by simpa using whole
      rw [same.1] at read behind_it
      exact ⟨read, behind_it⟩
    · rintro ⟨read, behind_it⟩
      exact ⟨v, read, behind_it⟩

end

end FrameStream.Json
