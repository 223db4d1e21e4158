import FrameStream.Text.Blank

/-!
# Where a class of characters ends

A text falls apart behind a front of one class if what follows does not begin with that class (`takeWhile_span`,
`dropWhile_span`).  Blanks in front of a text and behind it are lost when it is trimmed (`trimBlanks_append`).
-/

namespace FrameStream

section Spans

variable {α : Type} {p : α → Bool} {front rest : List α}

theorem takeWhile_span (all : ∀ a ∈ front, p a) (stops : ∀ a ∈ rest.head?, ¬ p a) :
    (front ++ rest).takeWhile p = front := by
  rw [List.takeWhile_append_of_pos all]
  cases rest with
  | nil => exact List.append_nil front
  | cons a rest => rw [List.takeWhile_cons_of_neg (stops a rfl), List.append_nil]

theorem dropWhile_span (all : ∀ a ∈ front, p a) (stops : ∀ a ∈ rest.head?, ¬ p a) :
    (front ++ rest).dropWhile p = rest := by
  rw [List.dropWhile_append_of_pos all]
  cases rest with
  | nil => rfl
  | cons a rest => exact List.dropWhile_cons_of_neg (stops a rfl)

theorem all_takeWhile (p : α → Bool) (l : List α) : ∀ a ∈ l.takeWhile p, p a :=
  List.all_eq_true.1 List.all_takeWhile

end Spans

/-! ### Blanks around a text -/

variable {front cs rest : List Char}

theorem trimBlanks_sublist (cs : List Char) : (trimBlanks cs).Sublist cs := by
  have behind := (List.dropWhile_suffix (l := (cs.dropWhile isBlank).reverse) isBlank).sublist.reverse
  rw [List.reverse_reverse] at behind
  exact behind.trans (List.dropWhile_suffix isBlank).sublist

theorem trimBlanks_of_forall (dark : ∀ c ∈ cs, isBlank c = false) : trimBlanks cs = cs := by
  have kept {ds : List Char} (dark : ∀ c ∈ ds, isBlank c = false) : ds.dropWhile isBlank = ds :=
    dropWhile_span (List.forall_mem_nil _) fun c first => by simp [dark c (List.mem_of_mem_head? first)]
  rw [trimBlanks, kept dark, kept fun c hc => dark c (List.mem_reverse.1 hc), List.reverse_reverse]

theorem trimBlanks_append (before : ∀ c ∈ front, isBlank c) (behind : ∀ c ∈ rest, isBlank c) :
    trimBlanks (front ++ cs ++ rest) = trimBlanks cs := by
  have behind' : ∀ c ∈ rest.reverse, isBlank c := fun c hc => behind c (List.mem_reverse.1 hc)
  rw [trimBlanks, trimBlanks, List.append_assoc, List.dropWhile_append_of_pos before, List.dropWhile_append]
  split
  · -- nothing but blanks
    rename_i blank
    have none_left : (rest ++ []).dropWhile isBlank = [] := dropWhile_span behind (by simp)
    rw [List.append_nil] at none_left
    rw [none_left, List.isEmpty_iff.1 blank]
  · rw [List.reverse_append, List.dropWhile_append_of_pos behind']

end FrameStream
