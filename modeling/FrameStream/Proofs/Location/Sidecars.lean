import FrameStream.Proofs.Location.Components

/-!
# Where sidecars stand

The sidecar of a media file has the components of the file but for the last, and behind them the stem of the file
with `.json` (`components_sidecar`).  So it is settled by the components of the path: paths that are the same have
the same sidecar, and it is the same file that is found there (`same_sidecar`, `lookup_sidecar`).  The segments of
the sidecar have nothing idle where they were cut, hence the sidecar of a sidecar is written just like it
(`sidecar_sidecar`).
-/

namespace FrameStream.Path

variable {p q : Path} {front idles : List Bytes} {name stem : Bytes}

/-! ### Stems -/

/-- The stem of a file name ends before its last dot.  A name whose only dot is at its front, or that has none, is
its own stem. -/
inductive IsStem (name : Bytes) : Bytes → Prop where
  | before (stem extension : Bytes) (some_octet : stem ≠ []) (last : dot ∉ extension)
      (whole : name = stem ++ dot :: extension) : IsStem name stem
  | whole (plain : dot ∉ name.tail) : IsStem name name

theorem stemOf_append (some_octet : stem ≠ []) {extension : Bytes} (last : dot ∉ extension) :
    stemOf (stem ++ dot :: extension) = stem := by
  have behind : (stem ++ dot :: extension).reverse.dropWhile (· != dot) = dot :: stem.reverse := by
    rw [List.reverse_append, List.reverse_cons, List.append_assoc, List.dropWhile_append_of_pos,
      List.singleton_append, List.dropWhile_cons_of_neg (by simp)]
    intro b hb
    rw [List.mem_reverse] at hb
    exact bne_iff_ne.2 fun same => last (same ▸ hb)
  obtain ⟨b, bs, before⟩ := List.exists_cons_of_ne_nil (List.reverse_ne_nil_iff.2 some_octet)
  rw [stemOf, behind, before]
  dsimp only
  rw [← before, List.reverse_reverse]

theorem stemOf_of_plain (plain : dot ∉ name.tail) : stemOf name = name := by
  cases name with
  | nil => rfl
  | cons b name =>
    have before : (b :: name).reverse.dropWhile (· != dot) = [b].dropWhile (· != dot) := by
      rw [List.reverse_cons, List.dropWhile_append_of_pos]
      intro c hc
      rw [List.mem_reverse] at hc
      exact bne_iff_ne.2 fun same => plain (same ▸ hc)
    rw [stemOf, before, List.dropWhile_cons]
    split
    · rename_i long
      split at long <;> cases long
    · rfl

theorem isStem_stemOf (name : Bytes) : IsStem name (stemOf name) := by
  by_cases plain : dot ∈ name.tail
  · obtain ⟨extension, front, split, last⟩ := List.eq_append_cons_of_mem (List.mem_reverse.2 plain)
    have tail : name.tail = front.reverse ++ dot :: extension.reverse := by
      rw [← List.reverse_reverse name.tail, split, List.reverse_append, List.reverse_cons, List.append_assoc,
        List.singleton_append]
    have behind : dot ∉ extension.reverse := fun h => last (List.mem_reverse.1 h)
    cases name with
    | nil => cases plain
    | cons b name =>
      have whole : b :: name = (b :: front.reverse) ++ dot :: extension.reverse := congrArg (b :: ·) tail
      rw [whole, stemOf_append (List.cons_ne_nil _ _) behind]
      exact .before _ _ (List.cons_ne_nil _ _) behind rfl
  · rw [stemOf_of_plain plain]
    exact .whole plain

theorem IsStem.ne_nil (h : IsStem name stem) (some_octet : name ≠ []) : stem ≠ [] := by
  cases h with
  | before _ _ stem_octet => exact stem_octet
  | whole => exact some_octet

theorem IsStem.subset (h : IsStem name stem) : stem ⊆ name := by
  cases h with
  | before _ extension _ _ whole =>
    rw [whole]
    exact List.subset_append_left _ _
  | whole => exact List.Subset.refl _

/-! ### Names of sidecars -/

/-- What every sidecar ends with. -/
def sidecarEnding : Bytes := Utf8.encode ".json"

theorem sidecarEnding_eq : sidecarEnding = dot :: Utf8.encode "json" := by decide

/-- The file name of a sidecar leads somewhere, and it leads down. -/
theorem busy_sidecar (stem : Bytes) : ¬ isIdle (stem ++ sidecarEnding) ∧ stem ++ sidecarEnding ≠ [dot, dot] := by
  have long : 5 ≤ (stem ++ sidecarEnding).length := by
    rw [List.length_append]
    exact Nat.le_add_left 5 _
  constructor
  · rw [isIdle_iff]
    rintro (same | same)
    · rw [same] at long
      exact absurd long (by decide)
    · rw [same] at long
      exact absurd long (by decide)
  · intro same
    rw [same] at long
    exact absurd long (by decide)

theorem slash_notMem_sidecar (h : slash ∉ stem) : slash ∉ stem ++ sidecarEnding := by
  rw [List.mem_append, not_or]
  exact ⟨h, by decide⟩

theorem stemOf_sidecar (some_octet : stem ≠ []) : stemOf (stem ++ sidecarEnding) = stem := by
  rw [sidecarEnding_eq]
  exact stemOf_append some_octet (by decide)

/-! ### Cutting a path -/

theorem dropIdle_append (segments : List Bytes) :
    ∃ idles, segments = idles ++ dropIdle segments ∧ (∀ s ∈ idles, isIdle s) ∧
      (segments ≠ [] → dropIdle segments ≠ []) := by
  fun_induction dropIdle segments with
  | case1 segment next rest idle ih =>
    obtain ⟨idles, whole, all, some_left⟩ := ih
    refine ⟨segment :: idles, ?_, List.forall_mem_cons.2 ⟨idle, all⟩, fun _ => some_left (List.cons_ne_nil _ _)⟩
    rw [List.cons_append, ← whole]
  | case2 => exact ⟨[], rfl, nofun, id⟩
  | case3 => exact ⟨[], rfl, nofun, id⟩

theorem dropIdle_dropIdle (segments : List Bytes) : dropIdle (dropIdle segments) = dropIdle segments := by
  fun_induction dropIdle segments with
  | case1 _ _ _ _ ih => exact ih
  | case2 segment next rest busy => rw [dropIdle, if_neg busy]
  | case3 segments short => rw [dropIdle]; exact short

/-- The segments in front without the idle ones at their end. -/
def cut (front : List Bytes) : List Bytes := (dropIdle front.reverse).reverse

theorem cut_cut (front : List Bytes) : cut (cut front) = cut front := by
  rw [cut, cut, List.reverse_reverse, dropIdle_dropIdle]

theorem cut_append (front : List Bytes) :
    ∃ idles, front = cut front ++ idles ∧ (∀ s ∈ idles, isIdle s) ∧ (front ≠ [] → cut front ≠ []) := by
  obtain ⟨idles, whole, all, some_left⟩ := dropIdle_append front.reverse
  refine ⟨idles.reverse, ?_, fun s hs => all s (List.mem_reverse.1 hs), ?_⟩
  · have turned := congrArg List.reverse whole
    rw [List.reverse_reverse, List.reverse_append] at turned
    exact turned
  · intro some_segment
    exact List.reverse_ne_nil_iff.2 (some_left (List.reverse_ne_nil_iff.2 some_segment))

theorem parents_cut (front : List Bytes) : parents (cut front) = parents front := by
  obtain ⟨idles, whole, all, some_left⟩ := cut_append front
  by_cases some_segment : front = []
  · rw [some_segment]
    rfl
  · have same := parents_append_of_idle (some_left some_segment) all
    rw [← whole] at same
    exact same.symm

theorem segments_of_joined {segments : List Bytes} (some_segment : segments ≠ [])
    (plain : ∀ s ∈ segments, slash ∉ s) : (Path.mk (joinSlashes segments)).segments = segments :=
  splitSlashes_joinSlashes some_segment plain

/-- Another file name is put behind the segments in front of the first one. -/
theorem withFileName_of_last (parts : p.segments = front ++ name :: idles) (behind : ∀ s ∈ idles, isIdle s)
    (busy : ¬ isIdle name) (down : name ≠ [dot, dot]) (other : Bytes) :
    p.withFileName other = ⟨joinSlashes (cut front ++ [other])⟩ := by
  have named : p.fileName? = some name := fileName?_eq_some_iff.2 ⟨front, idles, parts, behind, busy, down⟩
  rw [withFileName, named]
  dsimp only
  rw [dropWhile_of_last parts behind busy, List.tail_cons, List.reverse_cons]
  rfl

theorem splitSlashes_append (before behind : Bytes) :
    splitSlashes (before ++ slash :: behind) = splitSlashes before ++ splitSlashes behind := by
  induction before with
  | nil => simp [splitSlashes]
  | cons b before ih =>
    by_cases same : b = slash
    · rw [List.cons_append, splitSlashes, if_pos same, ih, splitSlashes, if_pos same, List.cons_append]
    · obtain ⟨segment, rest, parts, step⟩ := splitSlashes_cons_of_ne same before
      obtain ⟨segment', rest', parts', step'⟩ := splitSlashes_cons_of_ne same (before ++ slash :: behind)
      rw [ih, parts, List.cons_append] at parts'
      cases parts'
      rw [List.cons_append, step', step, List.cons_append]

/-! ### The sidecar -/

theorem sidecar_of_last (parts : p.segments = front ++ name :: idles) (behind : ∀ s ∈ idles, isIdle s)
    (busy : ¬ isIdle name) (down : name ≠ [dot, dot]) :
    p.sidecar = ⟨joinSlashes (cut front ++ [stemOf name ++ sidecarEnding])⟩ ∧
      p.sidecar.segments = cut front ++ [stemOf name ++ sidecarEnding] := by
  have named : p.fileName? = some name := fileName?_eq_some_iff.2 ⟨front, idles, parts, behind, busy, down⟩
  have written : p.sidecar = ⟨joinSlashes (cut front ++ [stemOf name ++ sidecarEnding])⟩ := by
    rw [sidecar, named]
    exact withFileName_of_last parts behind busy down _
  refine ⟨written, ?_⟩
  have plain : ∀ s ∈ p.segments, slash ∉ s := fun s hs => slash_notMem_of_mem_splitSlashes hs
  rw [parts, List.forall_mem_append, List.forall_mem_cons] at plain
  rw [written]
  refine segments_of_joined (List.append_ne_nil_of_right_ne_nil _ (List.cons_ne_nil _ _)) ?_
  rw [List.forall_mem_append, List.forall_mem_singleton]
  constructor
  · obtain ⟨idles, whole, -, -⟩ := cut_append front
    intro s hs
    exact plain.1 s (whole ▸ List.mem_append_left idles hs)
  · exact slash_notMem_sidecar fun h => plain.2.1 ((isStem_stemOf name).subset h)

/-- A path without a file name gets the ending behind a slash. -/
theorem segments_sidecar_of_unnamed (unnamed : p.fileName? = none) :
    ∃ front, p.sidecar.segments = front ++ [sidecarEnding] ∧ parents front = p.components := by
  have alone : splitSlashes sidecarEnding = [sidecarEnding] := splitSlashes_of_notMem (by decide)
  have written : p.sidecar = p.withFileName sidecarEnding := by
    rw [sidecar, unnamed]
    rfl
  rw [written, withFileName, unnamed]
  dsimp only
  cases last : p.octets.getLast? with
  | none =>
    have empty : p.octets = [] := List.getLast?_eq_none_iff.1 last
    refine ⟨[], alone, ?_⟩
    rw [components, segments, empty]
    rfl
  | some b =>
    obtain ⟨before, whole⟩ := List.getLast?_eq_some_iff.1 last
    dsimp only
    by_cases ends : b = slash
    · have parts : p.segments = splitSlashes before ++ [[]] := by
        rw [segments, whole, ends, splitSlashes_append]
        rfl
      refine ⟨splitSlashes before, ?_, ?_⟩
      · rw [if_pos ends, segments, whole, ends, List.append_assoc, List.singleton_append, splitSlashes_append, alone]
      · rw [components_of_segments parts (splitSlashes_ne_nil _) (List.cons_ne_nil _ _)]
        exact (List.append_nil _).symm
    · refine ⟨p.segments, ?_, parents_segments fun empty => by rw [empty] at last; cases last⟩
      rw [if_neg ends, segments, splitSlashes_append, alone]
      rfl

theorem components_sidecar_of_named (named : p.fileName? = some name) :
    p.sidecar.components = p.components.dropLast ++ [.name (stemOf name ++ sidecarEnding)] := by
  obtain ⟨front, idles, parts, behind, busy, down⟩ := fileName?_eq_some_iff.1 named
  obtain ⟨awake, below⟩ := busy_sidecar (stemOf name)
  rw [components_of_last (sidecar_of_last parts behind busy down).2 nofun awake, innerComponent_of_name awake below,
    components_of_last parts behind busy, innerComponent_of_name busy down, List.dropLast_concat, parents_cut]

theorem components_sidecar_of_unnamed (unnamed : p.fileName? = none) :
    p.sidecar.components = p.components ++ [.name sidecarEnding] := by
  obtain ⟨front, parts, same⟩ := segments_sidecar_of_unnamed unnamed
  have awake : ¬ isIdle sidecarEnding := (busy_sidecar []).1
  have below : sidecarEnding ≠ [dot, dot] := (busy_sidecar []).2
  rw [components_of_last parts nofun awake, innerComponent_of_name awake below, same]

theorem exists_last_sidecar (p : Path) : ∃ front last, p.sidecar.segments = front ++ [last] ∧ ¬ isIdle last := by
  cases named : p.fileName? with
  | none =>
    obtain ⟨front, parts, -⟩ := segments_sidecar_of_unnamed named
    exact ⟨front, _, parts, (busy_sidecar []).1⟩
  | some name =>
    obtain ⟨front, idles, parts, behind, busy, down⟩ := fileName?_eq_some_iff.1 named
    exact ⟨_, _, (sidecar_of_last parts behind busy down).2, (busy_sidecar _).1⟩

/-- Paths that are the same have the same sidecar. -/
theorem same_sidecar (same : p.same q) : p.sidecar.same q.sidecar := by
  have components : p.components = q.components := by simpa [Path.same] using same
  have names : p.fileName? = q.fileName? := by rw [fileName?, fileName?, components]
  rw [Path.same, beq_iff_eq]
  cases named : p.fileName? with
  | none =>
    rw [components_sidecar_of_unnamed named, components_sidecar_of_unnamed (names ▸ named), components]
  | some name =>
    rw [components_sidecar_of_named named, components_sidecar_of_named (names ▸ named), components]

theorem lookup_sidecar (same : p.same q) (files : Files) : files.lookup p.sidecar = files.lookup q.sidecar :=
  Files.lookup_congr (same_sidecar same) p.exists_last_sidecar q.exists_last_sidecar

/-- The sidecar of a sidecar is the sidecar, as it is written. -/
theorem sidecar_sidecar (named : p.fileName? = some name) : p.sidecar.sidecar = p.sidecar := by
  obtain ⟨front, idles, parts, behind, busy, down⟩ := fileName?_eq_some_iff.1 named
  obtain ⟨written, segments⟩ := sidecar_of_last parts behind busy down
  obtain ⟨awake, below⟩ := busy_sidecar (stemOf name)
  have some_octet : name ≠ [] := fun empty => busy (isIdle_iff.2 (.inl empty))
  rw [(sidecar_of_last segments nofun awake below).1, cut_cut, written,
    stemOf_sidecar ((isStem_stemOf name).ne_nil some_octet)]

/-- A sidecar stands beside its file: it has the components of the file but for the name, and its name is the stem
of that name with `.json`; without a name it has all components of the path.  Locations that are the same have the
same sidecar, and there the same file is found.  The sidecar of a named file is its own sidecar. -/
theorem beside_sidecar (p : Path) :
    (∀ name, p.fileName? = some name → ∃ stem, IsStem name stem ∧
      p.sidecar.components = p.components.dropLast ++ [.name (stem ++ Utf8.encode ".json")]) ∧
    (p.fileName? = none → p.sidecar.components = p.components ++ [.name (Utf8.encode ".json")]) ∧
    (∀ location, sameLocation location (some p) → ∃ q, location = some q ∧ q.sidecar.same p.sidecar ∧
      ∀ files : Files, files.lookup q.sidecar = files.lookup p.sidecar) ∧
    (p.fileName?.isSome → p.sidecar.sidecar = p.sidecar) := by
  refine ⟨?_, components_sidecar_of_unnamed, ?_, ?_⟩
  · intro name named
    exact ⟨stemOf name, isStem_stemOf name, components_sidecar_of_named named⟩
  · intro location same
    cases location with
    | none => cases same
    | some q => exact ⟨q, rfl, same_sidecar same, lookup_sidecar same⟩
  · intro named
    obtain ⟨name, named⟩ := Option.isSome_iff_exists.1 named
    exact sidecar_sidecar named

/-- One location in two spellings, and one without a file name. -/
theorem beside_otherSpelling :
    (sameLocation (some (ofText "a//b/./clip.tar.mp4/.")) (some (ofText "a/b/clip.tar.mp4")) ∧
      (ofText "a//b/./clip.tar.mp4/.").sidecar.same (ofText "a/b/clip.tar.mp4").sidecar) ∧
    ((ofText "a/b/clip.tar.mp4").fileName?.isSome ∧
      (ofText "a/b/clip.tar.mp4").sidecar.sidecar = (ofText "a/b/clip.tar.mp4").sidecar) ∧
    (ofText "a/..").fileName? = none ∧
      (ofText "a/..").sidecar.components = (ofText "a/..").components ++ [.name (Utf8.encode ".json")] := by
  have same : sameLocation (some (ofText "a//b/./clip.tar.mp4/.")) (some (ofText "a/b/clip.tar.mp4")) := by
    decide +kernel
  have named : (ofText "a/b/clip.tar.mp4").fileName?.isSome := by decide +kernel
  have unnamed : (ofText "a/..").fileName? = none := by decide +kernel
  obtain ⟨q, found, alike, -⟩ := (beside_sidecar (ofText "a/b/clip.tar.mp4")).2.2.1 _ same
  rw [← Option.some.inj found] at alike
  exact ⟨⟨same, alike⟩, ⟨named, (beside_sidecar _).2.2.2 named⟩, unnamed, (beside_sidecar _).2.1 unnamed⟩

end FrameStream.Path
