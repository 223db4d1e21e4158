import FrameStream.Location.Files

/-!
# A created file is read back

Whatever is written, no directory goes away and no place becomes empty, so every path that could be followed still
leads where it led (`follow_write`).  A path at which a file was created thus leads to what was written last under
the names that it was created with (`read_write_of_create`).
-/

namespace FrameStream.Files

variable {t : Files} {names place next : List Bytes} {data : Bytes}

/-! ### What a write leaves -/

/-- A directory of the table, or one that leads to the working directory. -/
def IsDirectory (t : Files) (names : List Bytes) : Prop := names <+: t.working ∨ t.directories.contains names

theorem directory_of_isDirectory (h : t.IsDirectory names) : t.entry? names = some .directory := if_pos h

theorem found_of_not_isDirectory (h : ¬ t.IsDirectory names) :
    t.entry? names = Entry.file <$> t.files.lookup names := if_neg h

theorem isDirectory_of_directory (h : t.entry? names = some .directory) : t.IsDirectory names := by
  apply Classical.byContradiction
  intro other
  rw [found_of_not_isDirectory other] at h
  cases found : t.files.lookup names with
  | none =>
    rw [found] at h
    cases h
  | some data =>
    rw [found] at h
    cases h

theorem directories_write (t : Files) (names : List Bytes) (data : Bytes) :
    ∃ more, (∀ d ∈ more, d.length < names.length ∨ names = []) ∧
      (t.write names data).directories = t.directories ++ more := by
  refine ⟨_, ?_, rfl⟩
  intro d hd
  obtain ⟨n, hn, rfl⟩ := List.mem_map.1 (List.mem_filter.1 hd).1
  rw [List.mem_range, List.length_dropLast] at hn
  left
  rw [List.length_take, List.length_dropLast]
  omega

theorem isDirectory_write (names : List Bytes) (data : Bytes) {there : List Bytes} (h : t.IsDirectory there) :
    (t.write names data).IsDirectory there := by
  obtain ⟨more, -, directories⟩ := directories_write t names data
  rcases h with leading | found
  · exact .inl leading
  · right
    rw [directories]
    simp only [List.contains_iff_mem, List.mem_append] at found ⊢
    exact .inl found

private theorem lookup_filter_ne {there : List Bytes} (other : there ≠ names) (files : List (List Bytes × Bytes)) :
    (files.filter (·.1 != names)).lookup there = files.lookup there := by
  induction files with
  | nil => rfl
  | cons f files ih =>
    obtain ⟨name, content⟩ := f
    by_cases same : name = names
    · have apart : (there == name) = false := by
        rw [same, beq_eq_false_iff_ne]
        exact other
      rw [List.filter_cons_of_neg (by simp [same]), List.lookup_cons, apart]
      exact ih
    · rw [List.filter_cons_of_pos (by simp [same]), List.lookup_cons, List.lookup_cons, ih]

theorem directory_write (names : List Bytes) (data : Bytes) (h : t.entry? place = some .directory) :
    entry? (t.write names data) place = some .directory :=
  directory_of_isDirectory (isDirectory_write names data (isDirectory_of_directory h))

theorem isSome_write (names : List Bytes) (data : Bytes) (h : (t.entry? place).isSome) :
    ( entry? (t.write names data) place).isSome := by
  by_cases directory : (t.write names data).IsDirectory place
  · rw [directory_of_isDirectory directory]
    rfl
  · have before : ¬ t.IsDirectory place := fun h => directory (isDirectory_write names data h)
    rw [found_of_not_isDirectory before] at h
    rw [found_of_not_isDirectory directory]
    change (Entry.file <$> ((names, data) :: t.files.filter (·.1 != names)).lookup place).isSome
    by_cases same : place = names
    · rw [same, List.lookup_cons_self]
      rfl
    · have apart : (place == names) = false := by
        rw [beq_eq_false_iff_ne]
        exact same
      rw [List.lookup_cons, apart, lookup_filter_ne same]
      exact h

/-- The file is what was written, unless its names are those of a directory. -/
theorem file_write (plain : ¬ t.IsDirectory names) (data : Bytes) :
    entry? (t.write names data) names = some (.file data) := by
  obtain ⟨more, short, directories⟩ := directories_write t names data
  have still : ¬ (t.write names data).IsDirectory names := by
    rintro (leading | found)
    · exact plain (.inl leading)
    · rw [directories] at found
      simp only [List.contains_iff_mem, List.mem_append] at found
      rcases found with before | new
      · exact plain (.inr (by simpa [List.contains_iff_mem] using before))
      · rcases short names new with shorter | top
        · exact absurd shorter (Nat.lt_irrefl _)
        · -- the root is a directory whatever there is
          rw [top] at plain
          exact plain (.inl List.nil_prefix)
  rw [found_of_not_isDirectory still]
  change Entry.file <$> ((names, data) :: t.files.filter (·.1 != names)).lookup names = _
  rw [List.lookup_cons_self]
  rfl

/-! ### Paths -/

theorem origin_congr {t' : Files} (same : t.working = t'.working) (segments : List Bytes) :
    t.origin segments = t'.origin segments := by
  unfold origin
  rw [same]

/-- A path is followed over its first segment from a directory to a place that exists. -/
theorem follow_cons_eq_ok_iff {segment : Bytes} {rest last : List Bytes} :
    t.follow place (segment :: rest) = .ok last ↔
      t.entry? place = some .directory ∧ (t.entry? (advance place segment)).isSome ∧
        t.follow (advance place segment) rest = .ok last := by
  rw [follow]
  by_cases directory : t.entry? place = some .directory
  · rw [if_pos directory]
    by_cases there : (t.entry? (advance place segment)).isSome
    · simp [directory, there]
    · simp [there]
  · simp [directory]

theorem follow_write (names : List Bytes) (data : Bytes) {segments : List Bytes}
    (h : t.follow place segments = .ok next) : (t.write names data).follow place segments = .ok next := by
  induction segments generalizing place with
  | nil => exact h
  | cons segment rest ih =>
    obtain ⟨directory, there, onwards⟩ := follow_cons_eq_ok_iff.1 h
    exact follow_cons_eq_ok_iff.2
      ⟨directory_write names data directory, isSome_write names data there, ih onwards⟩

theorem follow_append {front rest last : List Bytes} (h : t.follow place front = .ok next)
    (onwards : t.follow next rest = .ok last) : t.follow place (front ++ rest) = .ok last := by
  induction front generalizing place with
  | nil =>
    cases h
    exact onwards
  | cons segment front ih =>
    obtain ⟨directory, there, onwards⟩ := follow_cons_eq_ok_iff.1 h
    exact follow_cons_eq_ok_iff.2 ⟨directory, there, ih onwards⟩

/-- How a file was created. -/
theorem create_cases {p : Path} {created : Files} (h : t.create p = .ok (names, created)) :
    ∃ front last place, p.octets.contains 0 = false ∧ p.octets ≠ [] ∧ p.segments = front ++ [last] ∧
      t.follow (t.origin p.segments) front = .ok place ∧ t.entry? place = some .directory ∧
      advance place last = names ∧ ¬ t.IsDirectory names ∧ created = t.write names [] := by
  unfold create at h
  split at h
  · cases h
  · rename_i plain
    split at h
    · cases h
    · rename_i some
      simp only [bind, Except.bind] at h
      split at h
      · cases h
      · rename_i place followed
        split at h
        · cases h
        rename_i directory
        split at h
        · cases h
        · rename_i sound
          simp only [Bool.or_eq_true, not_or] at sound
          obtain ⟨⟨whole, busy⟩, -⟩ := sound
          have whole : dropTrailing p.segments = p.segments := by simpa using whole
          rw [whole] at followed busy h
          split at h
          · cases h
          · rename_i other
            cases h
            have ends : p.segments ≠ [] := by
              intro empty
              rw [empty] at busy
              exact busy rfl
            have last : p.segments.getLastD [] = p.segments.getLast ends := by
              rw [List.getLastD_eq_getLast?, List.getLast?_eq_some_getLast ends, Option.getD_some]
            refine ⟨p.segments.dropLast, p.segments.getLastD [], place, by simpa using plain, some, ?_, followed,
              by simpa using directory, rfl, fun there => other (directory_of_isDirectory there), rfl⟩
            rw [last, List.dropLast_concat_getLast ends]

theorem read_write_of_create {p : Path} {created : Files} (h : t.create p = .ok (names, created)) (data : Bytes) :
    (created.write names data).read p = .ok data := by
  obtain ⟨front, last, place, plain, some, segments, followed, directory, step, other, rfl⟩ := create_cases h
  have still : ¬ (t.write names []).IsDirectory names := by
    intro now
    have found := file_write other []
    rw [directory_of_isDirectory now] at found
    cases found
  have there := file_write still data
  have leads : ((t.write names []).write names data).follow (t.origin p.segments) p.segments = .ok names := by
    have before := follow_write names data (follow_write names [] followed)
    have from_directory := directory_write names data (directory_write names [] directory)
    have exists_file : ( entry? ((t.write names []).write names data) names).isSome := by
      rw [there]
      rfl
    have onwards : ((t.write names []).write names data).follow place [last] = .ok names :=
      follow_cons_eq_ok_iff.2 ⟨from_directory, by rw [step]; exact exists_file, by rw [step]; rfl⟩
    rw [segments] at before ⊢
    exact follow_append before onwards
  have found : ((t.write names []).write names data).lookup p = .ok (.file data) := by
    have start : ((t.write names []).write names data).origin p.segments = t.origin p.segments :=
      origin_congr rfl p.segments
    rw [lookup, plain, if_neg Bool.false_ne_true, if_neg some, start, leads]
    simp only [bind, Except.bind]
    rw [there]
  rw [read, found]
  rfl

end FrameStream.Files
