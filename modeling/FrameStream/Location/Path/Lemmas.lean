import FrameStream.Location.Path

/-!
# Segments of paths

Cutting a path at its slashes and joining the segments again are inverse to each other
(`joinSlashes_splitSlashes`, `splitSlashes_joinSlashes`).
-/

namespace FrameStream

namespace Path

theorem splitSlashes_ne_nil (bs : Bytes) : splitSlashes bs ≠ [] := by
  cases bs with
  | nil => simp [splitSlashes]
  | cons b bs =>
    simp only [splitSlashes]
    split
    · simp
    · split <;> simp

theorem splitSlashes_cons_of_ne {b : UInt8} (h : b ≠ slash) (bs : Bytes) :
    ∃ segment rest, splitSlashes bs = segment :: rest ∧ splitSlashes (b :: bs) = (b :: segment) :: rest := by
  obtain ⟨segment, rest, e⟩ := List.exists_cons_of_ne_nil (splitSlashes_ne_nil bs)
  exact ⟨segment, rest, e, by simp [splitSlashes, h, e]⟩

theorem joinSlashes_cons_cons (segment next : Bytes) (rest : List Bytes) :
    joinSlashes (segment :: next :: rest) = segment ++ slash :: joinSlashes (next :: rest) := rfl

theorem joinSlashes_cons_octet (b : UInt8) (segment : Bytes) (rest : List Bytes) :
    joinSlashes ((b :: segment) :: rest) = b :: joinSlashes (segment :: rest) := by
  cases rest <;> rfl

theorem joinSlashes_splitSlashes (bs : Bytes) : joinSlashes (splitSlashes bs) = bs := by
  induction bs with
  | nil => rfl
  | cons b bs ih =>
    by_cases h : b = slash
    · obtain ⟨segment, rest, e⟩ := List.exists_cons_of_ne_nil (splitSlashes_ne_nil bs)
      rw [e] at ih
      simp [splitSlashes, h, e, joinSlashes_cons_cons, ih]
    · obtain ⟨segment, rest, e, step⟩ := splitSlashes_cons_of_ne h bs
      rw [step, joinSlashes_cons_octet, ← e, ih]

theorem slash_notMem_of_mem_splitSlashes {bs segment : Bytes} (h : segment ∈ splitSlashes bs) :
    slash ∉ segment := by
  induction bs generalizing segment with
  | nil => simp_all [splitSlashes]
  | cons b bs ih =>
    by_cases hb : b = slash
    · simp only [splitSlashes, hb, if_true, List.mem_cons] at h
      rcases h with rfl | h
      · simp
      · exact ih h
    · obtain ⟨first, rest, e, step⟩ := splitSlashes_cons_of_ne hb bs
      rw [step, List.mem_cons] at h
      rcases h with rfl | h
      · have := ih (e ▸ List.mem_cons_self)
        simp [Ne.symm hb, this]
      · exact ih (e ▸ List.mem_cons_of_mem _ h)

theorem splitSlashes_of_notMem {bs : Bytes} (h : slash ∉ bs) : splitSlashes bs = [bs] := by
  induction bs with
  | nil => rfl
  | cons b bs ih =>
    simp only [List.mem_cons, not_or] at h
    simp [splitSlashes, Ne.symm h.1, ih h.2]

theorem splitSlashes_append_slash {bs : Bytes} (h : slash ∉ bs) (rest : Bytes) :
    splitSlashes (bs ++ slash :: rest) = bs :: splitSlashes rest := by
  induction bs with
  | nil => simp [splitSlashes]
  | cons b bs ih =>
    simp only [List.mem_cons, not_or] at h
    simp [splitSlashes, Ne.symm h.1, ih h.2]

theorem splitSlashes_joinSlashes {segments : List Bytes} (nonempty : segments ≠ [])
    (h : ∀ segment ∈ segments, slash ∉ segment) : splitSlashes (joinSlashes segments) = segments := by
  induction segments with
  | nil => exact absurd rfl nonempty
  | cons segment rest ih =>
    have first := h segment List.mem_cons_self
    cases rest with
    | nil => exact splitSlashes_of_notMem first
    | cons next rest =>
      rw [joinSlashes_cons_cons, splitSlashes_append_slash first,
        ih (by simp) fun s hs => h s (List.mem_cons_of_mem _ hs)]

end Path

end FrameStream
