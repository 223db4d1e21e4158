import FrameStream.Json.Reader
import FrameStream.Proofs.Results

/-!
# More text at the end

What was read from the front of a text is read again when more text is added at its end, and the new text is left
over with what was left before.  Only a number needs something behind it, since its digits may go on: such readers
are `Steady`.  Strings, arrays and objects show their own end (`readString_append`, `readItems_append`,
`readMembers_append`).  A document may be a number, so that it too is read again only if something was left behind it
(`readDoc_append`).
-/

namespace FrameStream.Json

/-! ### Readers of octets -/

/-- Whatever the reader reads with a rest behind it, it reads with a longer rest; nothing comes from an empty text. -/
def Steady {α : Type} (read : Bytes → Except Fault (α × Bytes)) : Prop :=
  ∀ ⦃bs : Bytes⦄ ⦃a : α⦄ ⦃rest : Bytes⦄, read bs = .ok (a, rest) → rest ≠ [] →
    bs ≠ [] ∧ ∀ behind, read (bs ++ behind) = .ok (a, rest ++ behind)

theorem Steady.map {α β : Type} {read : Bytes → Except Fault (α × Bytes)} (steady : Steady read) (f : α → β) :
    Steady fun bs => read bs >>= fun a => .ok (f a.1, a.2) := by
  intro bs b rest h left
  obtain ⟨⟨a, after⟩, first, h⟩ := bind_eq_ok.1 h
  obtain ⟨rfl, rfl⟩ := Prod.mk.inj (Except.ok.inj h)
  obtain ⟨nonempty, again⟩ := steady first left
  refine ⟨nonempty, fun behind => ?_⟩
  dsimp only
  rw [again, ok_bind]

private theorem dropWhile_append_of_ne_nil {p : UInt8 → Bool} {bs : Bytes} (left : bs.dropWhile p ≠ [])
    (behind : Bytes) : (bs ++ behind).takeWhile p = bs.takeWhile p ∧
      (bs ++ behind).dropWhile p = bs.dropWhile p ++ behind := by
  induction bs with
  | nil => exact absurd rfl left
  | cons b bs ih =>
    by_cases taken : p b
    · rw [List.dropWhile_cons_of_pos taken] at left
      obtain ⟨front, back⟩ := ih left
      simp [taken, front, back]
    · simp [taken]

theorem skipSpaces_append {bs after : Bytes} {b : UInt8} (front : skipSpaces bs = b :: after) (behind : Bytes) :
    skipSpaces (bs ++ behind) = b :: (after ++ behind) := by
  have left : skipSpaces bs ≠ [] := by simp [front]
  rw [skipSpaces, (dropWhile_append_of_ne_nil left behind).2, ← skipSpaces, front, List.cons_append]

theorem expect_append {word bs rest : Bytes} (h : expect word bs = .ok rest) (behind : Bytes) :
    expect word (bs ++ behind) = .ok (rest ++ behind) := by
  induction word generalizing bs with
  | nil =>
    obtain rfl : bs = rest := Except.ok.inj h
    rfl
  | cons e es ih =>
    cases bs with
    | nil => cases h
    | cons b bs =>
      rw [expect] at h
      rw [List.cons_append, expect]
      split at h
      · rename_i same
        rw [if_pos same]
        exact ih h
      · cases h

/-! ### Numbers -/

theorem steady_readDigits : Steady readDigits := by
  intro bs digits rest h left
  cases bs with
  | nil => cases h
  | cons b bs =>
    refine ⟨List.cons_ne_nil b bs, fun behind => ?_⟩
    rw [readDigits] at h
    rw [List.cons_append, readDigits]
    split at h
    · rename_i digit
      obtain ⟨rfl, rfl⟩ := Prod.mk.inj (Except.ok.inj h)
      obtain ⟨front, back⟩ := dropWhile_append_of_ne_nil left behind
      rw [if_pos digit, ← List.cons_append, front, back]
    · cases h

theorem steady_readWhole : Steady readWhole := by
  intro bs n rest h left
  unfold readWhole at h
  obtain ⟨⟨digits, middle⟩, read, h⟩ := bind_eq_ok.1 h
  dsimp only at h
  split at h
  · cases h
  · rename_i single
    obtain ⟨rfl, rfl⟩ := Prod.mk.inj (Except.ok.inj h)
    obtain ⟨nonempty, again⟩ := steady_readDigits read left
    refine ⟨nonempty, fun behind => ?_⟩
    rw [readWhole, again, ok_bind]
    dsimp only
    split
    · rename_i second others same
      exact absurd rfl (single second others)
    · rfl

theorem steady_readFraction (whole : Nat) : Steady (readFraction whole) := by
  intro bs fraction rest h left
  unfold readFraction at h
  split at h
  · refine ⟨List.cons_ne_nil _ _, ?_⟩
    exact (steady_readDigits.map (fun digits => (extendNumeral whole digits, digits.length)) h left).2
  · rename_i plain
    obtain ⟨rfl, rfl⟩ := Prod.mk.inj (Except.ok.inj h)
    refine ⟨left, fun behind => ?_⟩
    obtain ⟨b, bs, rfl⟩ := List.exists_cons_of_ne_nil left
    unfold readFraction
    split
    · rename_i others same
      rw [List.cons_append] at same
      obtain ⟨rfl, -⟩ := List.cons.inj same
      exact absurd rfl (plain bs)
    · rfl

theorem steady_readPower : Steady readPower := by
  intro bs power rest h left
  have signed (negative : Bool) := steady_readDigits.map fun digits =>
    let e : Int := extendNumeral 0 digits
    some (if negative then -e else e)
  unfold readPower at h ⊢
  cases bs with
  | nil =>
    obtain ⟨-, rfl⟩ := Prod.mk.inj (Except.ok.inj h)
    exact absurd rfl left
  | cons b bs =>
    refine ⟨List.cons_ne_nil b bs, fun behind => ?_⟩
    dsimp only [List.cons_append] at h ⊢
    split at h
    · rename_i mark
      rw [if_pos mark]
      cases bs with
      | nil => cases h
      | cons sign digits =>
        by_cases plus : sign = 0x2B
        · subst plus
          exact (signed false h left).2 behind
        · by_cases minus : sign = 0x2D
          · subst minus
            exact (signed true h left).2 behind
          · simp only [List.cons_append, List.cons.injEq, plus, minus, false_and, imp_self, implies_true] at h ⊢
            exact (signed false h left).2 behind
    · rename_i plain
      rw [if_neg plain]
      obtain ⟨rfl, rfl⟩ := Prod.mk.inj (Except.ok.inj h)
      rfl

theorem steady_readNumber (negative : Bool) : Steady (readNumber negative) := by
  intro bs l rest h left
  unfold readNumber at h
  obtain ⟨⟨whole, afterWhole⟩, readWhole, h⟩ := bind_eq_ok.1 h
  obtain ⟨⟨⟨digits, places⟩, afterFraction⟩, readFraction, h⟩ := bind_eq_ok.1 h
  obtain ⟨⟨power, afterPower⟩, readPower, h⟩ := bind_eq_ok.1 h
  obtain ⟨rfl, rfl⟩ := Prod.mk.inj (Except.ok.inj h)
  -- From the back: what is left behind the power is left behind the fraction and the digits too.
  obtain ⟨moreFraction, power⟩ := steady_readPower readPower left
  obtain ⟨moreWhole, fraction⟩ := steady_readFraction whole readFraction moreFraction
  obtain ⟨nonempty, whole⟩ := steady_readWhole readWhole moreWhole
  refine ⟨nonempty, fun behind => ?_⟩
  simp only [readNumber, whole, fraction, power, ok_bind]

/-! ### Strings -/

theorem readPieces_append {bs : Bytes} {pieces : List Piece} {rest : Bytes} (h : readPieces bs = (pieces, .ok rest))
    (behind : Bytes) : readPieces (bs ++ behind) = (pieces, .ok (rest ++ behind)) := by
  induction bs using readPieces.induct generalizing pieces rest with
  | case1 => cases h
  | case2 bs =>
    rw [readPieces.eq_def] at h ⊢
    obtain ⟨rfl, same⟩ := Prod.mk.inj h
    obtain rfl : bs = rest := Except.ok.inj same
    rfl
  | case5 _ _ _ _ bs u unit others after read _ ih =>
    rw [readPieces.eq_def] at h ⊢
    obtain ⟨rfl, rfl⟩ : .unit u :: others = pieces ∧ after = .ok rest := by simpa [read, unit] using h
    simp [unit, ih read]
  | case8 c bs other u unit others after read _ ih =>
    rw [readPieces.eq_def] at h ⊢
    obtain ⟨rfl, rfl⟩ : .unit u :: others = pieces ∧ after = .ok rest := by simpa [read, unit, other] using h
    simp [unit, other, ih read]
  | case10 b bs quote backslash control others after read ih =>
    rw [readPieces.eq_def] at h ⊢
    obtain ⟨rfl, rfl⟩ : .octet b :: others = pieces ∧ after = .ok rest := by
      simpa [read, quote, backslash, control] using h
    simp [quote, backslash, control, ih read]
  | case3 | case4 | case6 | case7 | case9 =>
    rw [readPieces.eq_def] at h
    simp_all

theorem readString_append {bs : Bytes} {pieces : List Piece} {rest : Bytes} (h : readString bs = .ok (pieces, rest))
    (behind : Bytes) : readString (bs ++ behind) = .ok (pieces, rest ++ behind) := by
  unfold readString at h
  split at h
  · rename_i read
    obtain ⟨rfl, rfl⟩ := Prod.mk.inj (Except.ok.inj h)
    rw [readString, readPieces_append read]
  · cases h

/-! ### Documents -/

private theorem ofExcept_eq_ok {α : Type} {wrap : α → Doc} {read : Except Fault (α × Bytes)} {d : Doc} {rest : Bytes} :
    Progress.ofExcept wrap read = (d, .ok rest) ↔ ∃ a, read = .ok (a, rest) ∧ wrap a = d := by
  cases read with
  | error f => simp [Progress.ofExcept]
  | ok read =>
    obtain ⟨a, after⟩ := read
    simp only [Progress.ofExcept, Prod.mk.injEq, Except.ok.injEq]
    constructor
    · rintro ⟨same, rfl⟩
      exact ⟨a, ⟨rfl, rfl⟩, same⟩
    · rintro ⟨_, ⟨rfl, rfl⟩, same⟩
      exact ⟨same, rfl⟩

/-- A word shows its end. -/
private theorem ofExcept_expect_append {wrap : Unit → Doc} {word bs rest : Bytes} {d : Doc}
    (h : Progress.ofExcept wrap ((expect word bs).map ((), ·)) = (d, .ok rest)) (behind : Bytes) :
    Progress.ofExcept wrap ((expect word (bs ++ behind)).map ((), ·)) = (d, .ok (rest ++ behind)) := by
  obtain ⟨u, read, same⟩ := ofExcept_eq_ok.1 h
  obtain ⟨after, found, pair⟩ := map_eq_ok.1 read
  obtain ⟨-, rfl⟩ := Prod.mk.inj pair
  rw [expect_append found]
  exact ofExcept_eq_ok.2 ⟨u, rfl, same⟩

private theorem ne_nil_of_readItems {fuel : Nat} {start : Bool} {bs rest : Bytes} {items : Items}
    (h : readItems fuel start bs = (items, .ok rest)) : bs ≠ [] := by
  rintro rfl
  cases fuel <;> cases h

private theorem ne_nil_of_readMembers {fuel : Nat} {start : Bool} {bs rest : Bytes} {members : Members}
    (h : readMembers fuel start bs = (members, .ok rest)) : bs ≠ [] := by
  rintro rfl
  cases fuel <;> cases h

-- The longer text is read with fuel of its own; there only has to be as much.
mutual

theorem readDoc_append {fuel more : Nat} {bs rest : Bytes} {d : Doc} (h : readDoc fuel bs = (d, .ok rest))
    (left : rest ≠ []) (enough : fuel ≤ more) (behind : Bytes) :
    readDoc more (bs ++ behind) = (d, .ok (rest ++ behind)) := by
  cases fuel with
  | zero => cases h
  | succ fuel =>
    obtain ⟨more, rfl⟩ : ∃ n, more = n + 1 := ⟨more - 1, by omega⟩
    rw [readDoc] at h ⊢
    split at h
    · cases h
    rename_i b after front
    rw [skipSpaces_append front behind]
    dsimp only at h ⊢
    by_cases quote : b = 0x22
    · rw [if_pos quote] at h ⊢
      obtain ⟨pieces, read, rfl⟩ := ofExcept_eq_ok.1 h
      exact ofExcept_eq_ok.2 ⟨pieces, readString_append read behind, rfl⟩
    rw [if_neg quote] at h ⊢
    by_cases bracket : b = 0x5B
    · rw [if_pos bracket] at h ⊢
      rcases read : readItems fuel true after with ⟨items, result⟩
      rw [read] at h
      obtain ⟨rfl, rfl⟩ := Prod.mk.inj h
      rw [readItems_append read (by omega) behind]
    rw [if_neg bracket] at h ⊢
    by_cases brace : b = 0x7B
    · rw [if_pos brace] at h ⊢
      rcases read : readMembers fuel true after with ⟨members, result⟩
      rw [read] at h
      obtain ⟨rfl, rfl⟩ := Prod.mk.inj h
      rw [readMembers_append read (by omega) behind]
    rw [if_neg brace] at h ⊢
    by_cases minus : b = 0x2D
    · rw [if_pos minus] at h ⊢
      obtain ⟨l, read, rfl⟩ := ofExcept_eq_ok.1 h
      exact ofExcept_eq_ok.2 ⟨l, (steady_readNumber true read left).2 behind, rfl⟩
    rw [if_neg minus] at h ⊢
    by_cases digit : isDigit b
    · rw [if_pos digit] at h ⊢
      obtain ⟨l, read, rfl⟩ := ofExcept_eq_ok.1 h
      exact ofExcept_eq_ok.2 ⟨l, (steady_readNumber false read left).2 behind, rfl⟩
    rw [if_neg digit] at h ⊢
    by_cases null : b = 0x6E
    · rw [if_pos null] at h ⊢
      exact ofExcept_expect_append h behind
    rw [if_neg null] at h ⊢
    by_cases yes : b = 0x74
    · rw [if_pos yes] at h ⊢
      exact ofExcept_expect_append h behind
    rw [if_neg yes] at h ⊢
    by_cases no : b = 0x66
    · rw [if_pos no] at h ⊢
      exact ofExcept_expect_append h behind
    · rw [if_neg no] at h
      cases h
termination_by fuel

theorem readItems_append {fuel more : Nat} {start : Bool} {bs rest : Bytes} {items : Items}
    (h : readItems fuel start bs = (items, .ok rest)) (enough : fuel ≤ more) (behind : Bytes) :
    readItems more start (bs ++ behind) = (items, .ok (rest ++ behind)) := by
  cases fuel with
  | zero => cases h
  | succ fuel =>
    obtain ⟨more, rfl⟩ : ∃ n, more = n + 1 := ⟨more - 1, by omega⟩
    rw [readItems] at h ⊢
    split at h
    · cases h
    rename_i b after front
    rw [skipSpaces_append front behind]
    dsimp only at h ⊢
    by_cases bracket : b = 0x5D
    · rw [if_pos bracket] at h ⊢
      obtain ⟨rfl, same⟩ := Prod.mk.inj h
      rw [Except.ok.inj same]
    rw [if_neg bracket] at h ⊢
    by_cases first : start
    · rw [if_pos first] at h ⊢
      exact readItem_append h (by omega) behind
    rw [if_neg first] at h ⊢
    by_cases comma : b = 0x2C
    · rw [if_pos comma] at h ⊢
      exact readItem_append h (by omega) behind
    · rw [if_neg comma] at h
      cases h
termination_by fuel

theorem readItem_append {fuel more : Nat} {bs rest : Bytes} {items : Items}
    (h : readItem fuel bs = (items, .ok rest)) (enough : fuel ≤ more) (behind : Bytes) :
    readItem more (bs ++ behind) = (items, .ok (rest ++ behind)) := by
  cases fuel with
  | zero => cases h
  | succ fuel =>
    obtain ⟨more, rfl⟩ : ∃ n, more = n + 1 := ⟨more - 1, by omega⟩
    rw [readItem] at h ⊢
    split at h
    · cases h
    rename_i doc after first
    rcases others : readItems fuel false after with ⟨tail, result⟩
    rw [others] at h
    obtain ⟨rfl, rfl⟩ := Prod.mk.inj h
    rw [readDoc_append first (ne_nil_of_readItems others) (by omega) behind]
    dsimp only
    rw [readItems_append others (by omega) behind]
termination_by fuel

theorem readMembers_append {fuel more : Nat} {start : Bool} {bs rest : Bytes} {members : Members}
    (h : readMembers fuel start bs = (members, .ok rest)) (enough : fuel ≤ more) (behind : Bytes) :
    readMembers more start (bs ++ behind) = (members, .ok (rest ++ behind)) := by
  cases fuel with
  | zero => cases h
  | succ fuel =>
    obtain ⟨more, rfl⟩ : ∃ n, more = n + 1 := ⟨more - 1, by omega⟩
    rw [readMembers] at h ⊢
    split at h
    · cases h
    rename_i b after front
    rw [skipSpaces_append front behind]
    dsimp only at h ⊢
    by_cases brace : b = 0x7D
    · rw [if_pos brace] at h ⊢
      obtain ⟨rfl, same⟩ := Prod.mk.inj h
      rw [Except.ok.inj same]
    rw [if_neg brace] at h ⊢
    by_cases first : start
    · rw [if_pos first] at h ⊢
      exact readMember_append h (by omega) behind
    rw [if_neg first] at h ⊢
    by_cases comma : b = 0x2C
    · rw [if_pos comma] at h ⊢
      exact readMember_append h (by omega) behind
    · rw [if_neg comma] at h
      cases h
termination_by fuel

theorem readMember_append {fuel more : Nat} {bs rest : Bytes} {members : Members}
    (h : readMember fuel bs = (members, .ok rest)) (enough : fuel ≤ more) (behind : Bytes) :
    readMember more (bs ++ behind) = (members, .ok (rest ++ behind)) := by
  cases fuel with
  | zero => cases h
  | succ fuel =>
    obtain ⟨more, rfl⟩ : ∃ n, more = n + 1 := ⟨more - 1, by omega⟩
    rw [readMember] at h ⊢
    split at h
    · cases h
    rename_i b name front
    rw [skipSpaces_append front behind]
    dsimp only at h ⊢
    by_cases quote : b = 0x22
    · rw [if_pos quote] at h ⊢
      split at h
      · cases h
      rename_i key colon named
      rw [readString_append named behind]
      dsimp only
      split at h
      · cases h
      rename_i c value front
      rw [skipSpaces_append front behind]
      dsimp only
      by_cases mark : c = 0x3A
      · rw [if_pos mark] at h ⊢
        split at h
        · cases h
        rename_i doc after first
        rcases others : readMembers fuel false after with ⟨tail, result⟩
        rw [others] at h
        obtain ⟨rfl, rfl⟩ := Prod.mk.inj h
        rw [readDoc_append first (ne_nil_of_readMembers others) (by omega) behind]
        dsimp only
        rw [readMembers_append others (by omega) behind]
      · rw [if_neg mark] at h
        cases h
    · rw [if_neg quote] at h
      cases h
termination_by fuel

end

end FrameStream.Json
