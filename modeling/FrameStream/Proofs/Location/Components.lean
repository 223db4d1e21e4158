import FrameStream.Location.Files
import FrameStream.Location.Path.Lemmas

/-!
# Components of paths

The components of a path are those of the segments in front (`Path.parents`), followed by those of the segments
behind (`components_of_segments`).  A path has a file name if one of its segments is a name and only idle ones are
behind it (`fileName?_eq_some_iff`).  Two paths with the same components that both end in a name lead to the same
file, whatever files there are (`Files.lookup_congr`); a slash behind the name would ask for a directory.
-/

namespace FrameStream

namespace Path

variable {p q : Path} {front rest idles : List Bytes} {name segment : Bytes}

/-! ### Segments in front -/

/-- The components of the segments in front of a slash. -/
def parents : List Bytes → List Component
  | [] => []
  | first :: rest =>
    (if first = [] then [.root] else if first = [dot] then [.here] else innerComponent first) ++
      rest.flatMap innerComponent

theorem isIdle_iff : isIdle segment ↔ segment = [] ∨ segment = [dot] := by
  simp [isIdle]

theorem innerComponent_of_isIdle (h : isIdle segment) : innerComponent segment = [] := if_pos h

theorem flatMap_of_idle (h : ∀ s ∈ idles, isIdle s) : idles.flatMap innerComponent = [] :=
  List.flatMap_eq_nil_iff.2 fun s hs => innerComponent_of_isIdle (h s hs)

theorem parents_append_of_idle (some_segment : front ≠ []) (h : ∀ s ∈ idles, isIdle s) :
    parents (front ++ idles) = parents front := by
  obtain ⟨first, front, rfl⟩ := List.exists_cons_of_ne_nil some_segment
  rw [List.cons_append, parents, parents, List.flatMap_append, flatMap_of_idle h, List.append_nil]

/-- The segments of a path fall apart into those in front of a slash and those behind it. -/
theorem components_of_segments (h : p.segments = front ++ rest) (some_segment : front ≠ []) (behind : rest ≠ []) :
    p.components = parents front ++ rest.flatMap innerComponent := by
  obtain ⟨first, front, rfl⟩ := List.exists_cons_of_ne_nil some_segment
  rw [List.cons_append] at h
  rw [components, h, parents]
  dsimp only
  rw [if_neg (List.append_ne_nil_of_right_ne_nil front behind), List.flatMap_append, List.append_assoc]

/-- The last segment that leads anywhere gives the last component. -/
theorem components_of_last (h : p.segments = front ++ name :: idles) (behind : ∀ s ∈ idles, isIdle s)
    (busy : ¬ isIdle name) : p.components = parents front ++ innerComponent name := by
  cases front with
  | nil =>
    rw [isIdle_iff, not_or] at busy
    rw [List.nil_append] at h
    rw [components, h]
    dsimp only
    rw [if_neg busy.1, if_neg busy.2, flatMap_of_idle behind, List.append_nil]
    rfl
  | cons first front =>
    rw [components_of_segments h (List.cons_ne_nil _ _) (List.cons_ne_nil _ _), List.flatMap_cons,
      flatMap_of_idle behind, List.append_nil]

theorem parents_segments (h : p.octets ≠ []) : parents p.segments = p.components := by
  obtain ⟨first, rest, parts⟩ := List.exists_cons_of_ne_nil (splitSlashes_ne_nil p.octets)
  have whole : p.segments = first :: rest := parts
  rw [components, whole, parents]
  dsimp only
  by_cases empty : first = []
  · have more : rest ≠ [] := by
      rintro rfl
      have joined := joinSlashes_splitSlashes p.octets
      rw [parts, empty] at joined
      exact h joined.symm
    rw [if_pos empty, if_pos empty, if_neg more]
  · rw [if_neg empty, if_neg empty]

theorem octets_ne_nil (ends : p.segments = front ++ [name]) (busy : ¬ isIdle name) : p.octets ≠ [] := by
  intro empty
  rw [segments, empty] at ends
  have last := congrArg List.getLast? ends
  rw [List.getLast?_concat] at last
  cases last
  exact busy rfl

/-! ### File names -/

theorem innerComponent_of_name (busy : ¬ isIdle name) (down : name ≠ [dot, dot]) :
    innerComponent name = [.name name] := by
  rw [innerComponent, if_neg busy, if_neg down]

theorem dropWhile_of_last (h : p.segments = front ++ name :: idles) (behind : ∀ s ∈ idles, isIdle s)
    (busy : ¬ isIdle name) : p.segments.reverse.dropWhile isIdle = name :: front.reverse := by
  rw [h, List.reverse_append, List.reverse_cons, List.append_assoc,
    List.dropWhile_append_of_pos fun s hs => behind s (List.mem_reverse.1 hs), List.singleton_append,
    List.dropWhile_cons_of_neg busy]

/-- Some segment is the last one that leads anywhere, or all are idle. -/
theorem segments_cases (p : Path) :
    (∃ front name idles, p.segments = front ++ name :: idles ∧ (∀ s ∈ idles, isIdle s) ∧ ¬ isIdle name) ∨
      ∀ s ∈ p.segments, isIdle s := by
  have apart := List.takeWhile_append_dropWhile (p := isIdle) (l := p.segments.reverse)
  have idle : ∀ s ∈ p.segments.reverse.takeWhile isIdle, isIdle s :=
    List.all_eq_true.1 List.all_takeWhile
  cases behind : p.segments.reverse.dropWhile isIdle with
  | nil =>
    right
    intro s hs
    rw [behind, List.append_nil] at apart
    rw [apart] at idle
    exact idle s (List.mem_reverse.2 hs)
  | cons name before =>
    left
    refine ⟨before.reverse, name, (p.segments.reverse.takeWhile isIdle).reverse, ?_,
      fun s hs => idle s (List.mem_reverse.1 hs), ?_⟩
    · rw [behind] at apart
      have whole := congrArg List.reverse apart
      rw [List.reverse_append, List.reverse_cons, List.reverse_reverse, List.append_assoc,
        List.singleton_append] at whole
      exact whole.symm
    · have busy := List.head?_dropWhile_not isIdle p.segments.reverse
      rw [behind] at busy
      simpa using busy

private theorem name_not_mem_of_idle (idle : ∀ s ∈ p.segments, isIdle s) : .name name ∉ p.components := by
  obtain ⟨first, rest, parts⟩ := List.exists_cons_of_ne_nil (splitSlashes_ne_nil p.octets)
  have whole : p.segments = first :: rest := parts
  rw [whole, List.forall_mem_cons] at idle
  rw [components, whole]
  dsimp only
  rw [flatMap_of_idle idle.2, List.append_nil]
  split
  · split <;> simp
  · split
    · simp
    · rw [innerComponent_of_isIdle idle.1]
      exact List.not_mem_nil

theorem fileName?_eq_some_iff :
    p.fileName? = some name ↔ ∃ front idles, p.segments = front ++ name :: idles ∧ (∀ s ∈ idles, isIdle s) ∧
      ¬ isIdle name ∧ name ≠ [dot, dot] := by
  constructor
  · intro h
    rcases segments_cases p with ⟨front, last, idles, parts, behind, busy⟩ | idle
    · rw [fileName?, components_of_last parts behind busy] at h
      by_cases up : last = [dot, dot]
      · rw [innerComponent, if_neg busy, if_pos up, List.getLast?_concat] at h
        cases h
      · rw [innerComponent_of_name busy up, List.getLast?_concat] at h
        cases h
        exact ⟨front, idles, parts, behind, busy, up⟩
    · unfold fileName? at h
      split at h
      · rename_i last
        exact absurd (List.mem_of_getLast? last) (name_not_mem_of_idle idle)
      · cases h
  · rintro ⟨front, idles, parts, behind, busy, down⟩
    rw [fileName?, components_of_last parts behind busy, innerComponent_of_name busy down, List.getLast?_concat]

end Path

/-! ### Where paths lead -/

/-- The segment that a component was read from; the root and a dot at the front are passed over. -/
def Component.segment? : Component → Option Bytes
  | .root | .here => none
  | .up => some [Path.dot, Path.dot]
  | .name octets => some octets

namespace Path

theorem filterMap_innerComponent (segments : List Bytes) :
    (segments.flatMap innerComponent).filterMap Component.segment? = segments.filter (!isIdle ·) := by
  induction segments with
  | nil => rfl
  | cons s segments ih =>
    rw [List.flatMap_cons, List.filterMap_append, ih]
    by_cases idle : isIdle s
    · rw [innerComponent_of_isIdle idle, List.filter_cons_of_neg (by simp [idle])]
      rfl
    · rw [List.filter_cons_of_pos (by simp [idle])]
      by_cases up : s = [dot, dot]
      · rw [innerComponent, if_neg idle, if_pos up, up]
        rfl
      · rw [innerComponent_of_name idle up]
        rfl

/-- The components tell all segments that lead anywhere. -/
theorem filterMap_components (p : Path) :
    p.components.filterMap Component.segment? = p.segments.filter (!isIdle ·) := by
  obtain ⟨first, rest, parts⟩ := List.exists_cons_of_ne_nil (splitSlashes_ne_nil p.octets)
  have whole : p.segments = first :: rest := parts
  have inner := filterMap_innerComponent (first :: rest)
  rw [List.flatMap_cons, List.filterMap_append] at inner
  rw [components, whole]
  dsimp only
  rw [List.filterMap_append, ← inner]
  congr 1
  split
  · rename_i empty
    rw [empty]
    split <;> rfl
  · split
    · rename_i here
      rw [here]
      rfl
    · rfl

/-- The components tell whether a path starts at the root. -/
theorem origin_segments (t : Files) (p : Path) :
    t.origin p.segments = if p.components.head? = some .root then [] else t.working := by
  obtain ⟨first, rest, parts⟩ := List.exists_cons_of_ne_nil (splitSlashes_ne_nil p.octets)
  have whole : p.segments = first :: rest := parts
  unfold components
  rw [whole]
  dsimp only
  by_cases empty : first = []
  · rw [empty]
    cases rest <;> rfl
  · have relative : t.origin (first :: rest) = t.working := by
      rw [Files.origin]
      intro _ _ same
      exact empty (List.cons.inj same).1
    rw [relative]
    by_cases here : first = [dot]
    · simp [here]
    · have busy : ¬ isIdle first := by simp [isIdle, empty, here]
      by_cases up : first = [dot, dot]
      · simp [up, innerComponent, isIdle]
      · simp [empty, here, innerComponent_of_name busy up]

theorem zero_mem_joinSlashes_iff (segments : List Bytes) : 0 ∈ joinSlashes segments ↔ ∃ s ∈ segments, 0 ∈ s := by
  induction segments with
  | nil => simp [joinSlashes]
  | cons segment rest ih =>
    cases rest with
    | nil => simp [joinSlashes]
    | cons next rest =>
      have other : (0 : UInt8) ≠ slash := by decide
      rw [joinSlashes_cons_cons, List.mem_append, List.mem_cons, ih]
      simp [other]

/-- The components tell whether there is a zero octet in the path. -/
theorem contains_zero (p : Path) :
    p.octets.contains 0 = (p.components.filterMap Component.segment?).any (·.contains 0) := by
  have joined := zero_mem_joinSlashes_iff p.segments
  rw [segments, joinSlashes_splitSlashes] at joined
  rw [filterMap_components, Bool.eq_iff_iff, List.contains_iff_mem, joined, List.any_filter, List.any_eq_true]
  refine exists_congr fun s => and_congr_right fun _ => ?_
  have plain : (0 : UInt8) ∈ s → ¬ isIdle s := by
    rw [isIdle_iff]
    rintro zero (rfl | rfl)
    · cases zero
    · revert zero
      decide
  rw [Bool.and_eq_true, List.contains_iff_mem, Bool.not_eq_true', Bool.eq_false_iff]
  exact ⟨fun zero => ⟨plain zero, zero⟩, And.right⟩

end Path

namespace Files

open FrameStream.Path

variable {t : Files} {p q : Path} {place front others : List Bytes} {last segment : Bytes}

theorem advance_of_isIdle (place : List Bytes) (h : isIdle segment) : advance place segment = place := if_pos h

/-- An idle segment is passed over if another one follows. -/
theorem follow_of_isIdle (h : isIdle segment) (more : others ≠ []) :
    t.follow place (segment :: others) = t.follow place others := by
  obtain ⟨next, others, rfl⟩ := List.exists_cons_of_ne_nil more
  by_cases directory : t.entry? place = some .directory
  · rw [follow, if_pos directory, advance_of_isIdle place h]
    exact if_pos (by rw [directory]; rfl)
  · rw [follow, if_neg directory, follow, if_neg directory]

theorem follow_filter (busy : ¬ isIdle last) :
    t.follow place (front ++ [last]) = t.follow place ((front ++ [last]).filter (!isIdle ·)) := by
  induction front generalizing place with
  | nil => rw [List.nil_append, List.filter_cons_of_pos (by simp [busy]), List.filter_nil]
  | cons segment front ih =>
    rw [List.cons_append]
    by_cases idle : isIdle segment
    · rw [follow_of_isIdle idle (List.append_ne_nil_of_right_ne_nil _ (List.cons_ne_nil _ _)), ih,
        List.filter_cons_of_neg (by simp [idle])]
    · rw [List.filter_cons_of_pos (by simp [idle]), follow, follow, ih]

theorem follow_of_last (ends : p.segments = front ++ [last]) (busy : ¬ isIdle last) :
    t.follow place p.segments = t.follow place (p.components.filterMap Component.segment?) := by
  rw [filterMap_components, ends, follow_filter busy]

/-- Two paths with the same components that both end in a name lead to the same place. -/
theorem lookup_congr (same : p.same q) (hp : ∃ front last, p.segments = front ++ [last] ∧ ¬ isIdle last)
    (hq : ∃ front last, q.segments = front ++ [last] ∧ ¬ isIdle last) : t.lookup p = t.lookup q := by
  obtain ⟨front, last, ends, busy⟩ := hp
  obtain ⟨front', last', ends', busy'⟩ := hq
  have components : p.components = q.components := by simpa [Path.same] using same
  rw [lookup, lookup, contains_zero p, contains_zero q, if_neg (octets_ne_nil ends busy),
    if_neg (octets_ne_nil ends' busy'), origin_segments t p, origin_segments t q, follow_of_last ends busy,
    follow_of_last ends' busy', components]

end Files

end FrameStream
