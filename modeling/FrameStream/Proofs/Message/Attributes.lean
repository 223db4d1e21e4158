import FrameStream.Message.Frame.Lemmas

/-!
# Attributes as an ordered map

The attributes of a frame are a map from keys, that is, from scope and name, which remembers the order in which the
keys came.  Setting an attribute either replaces the first one of its key or comes at the end
(`putAttribute_cases`); so a list of attributes that are set one after another leaves the keys where they are, adds
the new ones behind them, and each key gives what was set for it last (`map_of_setAttribute`).  A frame that was read
may have a key twice: only the first attribute of such a key is looked at, by both operations.
-/

namespace FrameStream

namespace Attribute

/-- What an attribute is found by. -/
def key (a : Attribute) : String × String := (a.scope, a.name)

theorem hasKey_iff_key {a : Attribute} {scope name : String} : a.hasKey scope name ↔ a.key = (scope, name) := by
  rw [hasKey_iff, key, Prod.mk.injEq]

end Attribute

namespace Frame

/-- The keys of the attributes, in order. -/
def keys (f : Frame) : List (String × String) := f.attributes.map Attribute.key

/-- The attributes are set one after another. -/
def setAttributes (f : Frame) (as : List Attribute) : Frame := as.foldl (fun f a => (f.setAttribute a).2) f

variable (f : Frame) (a : Attribute)

/-! ### Looking up -/

/-- The key that was set gives the attribute, and every other key what it gave before. -/
theorem attribute?_setAttribute (scope name : String) :
    (f.setAttribute a).2.attribute? scope name =
      if a.key = (scope, name) then some a else f.attribute? scope name := by
  split
  · rename_i same
    obtain ⟨rfl, rfl⟩ := Prod.mk.inj same
    exact f.attribute?_setAttribute_self a
  · rename_i other
    exact f.attribute?_setAttribute_of_ne fun h => other (Attribute.hasKey_iff_key.1 h)

/-! ### Where an attribute comes to stand -/

/-- A new key comes at the end; otherwise the first attribute of the key is replaced where it stands. -/
theorem putAttribute_cases (as : List Attribute) :
    (a.key ∉ as.map Attribute.key ∧ putAttribute a as = as ++ [a]) ∨
      ∃ front old rest, as = front ++ old :: rest ∧ a.key ∉ front.map Attribute.key ∧ old.key = a.key ∧
        putAttribute a as = front ++ a :: rest := by
  induction as with
  | nil => exact .inl ⟨List.not_mem_nil, rfl⟩
  | cons b as ih =>
    by_cases same : b.hasKey a.scope a.name
    · right
      refine ⟨[], b, as, rfl, List.not_mem_nil, Attribute.hasKey_iff_key.1 same, ?_⟩
      rw [putAttribute, if_pos same, List.nil_append]
    · have other : a.key ≠ b.key := fun h => same (Attribute.hasKey_iff_key.2 h.symm)
      have step : putAttribute a (b :: as) = b :: putAttribute a as := by rw [putAttribute, if_neg same]
      rcases ih with ⟨new, put⟩ | ⟨front, old, rest, rfl, new, there, put⟩
      · left
        rw [step, put, List.map_cons, List.mem_cons, not_or]
        exact ⟨⟨other, new⟩, rfl⟩
      · right
        refine ⟨b :: front, old, rest, rfl, ?_, there, ?_⟩
        · rw [List.map_cons, List.mem_cons, not_or]
          exact ⟨other, new⟩
        · rw [step, put]
          rfl

/-- The keys stay in order; a new one comes behind them. -/
theorem keys_setAttribute :
    (f.setAttribute a).2.keys = if a.key ∈ f.keys then f.keys else f.keys ++ [a.key] := by
  have stored : (f.setAttribute a).2.keys = (putAttribute a f.attributes).map Attribute.key := rfl
  rcases putAttribute_cases a f.attributes with ⟨new, put⟩ | ⟨front, old, rest, all, -, same, put⟩
  · have absent : a.key ∉ f.keys := new
    rw [if_neg absent, stored, put, List.map_append]
    rfl
  · have there : a.key ∈ f.keys := by
      rw [keys, all, ← same]
      exact List.mem_map_of_mem (List.mem_append_right _ List.mem_cons_self)
    rw [if_pos there, stored, put, keys, all, List.map_append, List.map_append, List.map_cons, List.map_cons, same]

/-- The attribute that is replaced is the one that its key gave. -/
theorem attributes_setAttribute :
    (f.attribute? a.scope a.name = none ∧ (f.setAttribute a).2.attributes = f.attributes ++ [a]) ∨
      ∃ front old rest, f.attributes = front ++ old :: rest ∧ f.attribute? a.scope a.name = some old ∧
        (f.setAttribute a).2.attributes = front ++ a :: rest := by
  have missing {as : List Attribute} (new : a.key ∉ as.map Attribute.key) :
      as.find? (·.hasKey a.scope a.name) = none := by
    rw [List.find?_eq_none]
    intro b there same
    have among : b.key ∈ as.map Attribute.key := List.mem_map_of_mem there
    rw [Attribute.hasKey_iff_key.1 same] at among
    exact new among
  rcases putAttribute_cases a f.attributes with ⟨new, put⟩ | ⟨front, old, rest, all, new, same, put⟩
  · exact .inl ⟨missing new, put⟩
  · refine .inr ⟨front, old, rest, all, ?_, put⟩
    rw [attribute?, all, List.find?_append, missing new, Option.none_or]
    exact List.find?_cons_of_pos (Attribute.hasKey_iff_key.2 same)

theorem length_setAttribute :
    (f.setAttribute a).2.attributes.length =
      f.attributes.length + if (f.attribute? a.scope a.name).isSome then 0 else 1 := by
  rcases f.attributes_setAttribute a with ⟨new, put⟩ | ⟨front, old, rest, all, found, put⟩
  · rw [put, new, List.length_append]
    rfl
  · rw [put, found, all, List.length_append, List.length_append]
    rfl

/-! ### One after another -/

theorem nodup_keys_setAttribute : (f.setAttribute a).2.keys.Nodup ↔ f.keys.Nodup := by
  rw [keys_setAttribute]
  split
  · rfl
  · rename_i new
    rw [(List.perm_append_singleton _ _).nodup_iff, List.nodup_cons]
    exact and_iff_right new

theorem keys_prefix_setAttribute : f.keys <+: (f.setAttribute a).2.keys := by
  rw [keys_setAttribute]
  split
  · exact List.prefix_rfl
  · exact List.prefix_append _ _

theorem nodup_keys_setAttributes (as : List Attribute) : (f.setAttributes as).keys.Nodup ↔ f.keys.Nodup := by
  induction as generalizing f with
  | nil => rfl
  | cons a as ih => exact (ih (f.setAttribute a).2).trans (f.nodup_keys_setAttribute a)

theorem keys_prefix_setAttributes (as : List Attribute) : f.keys <+: (f.setAttributes as).keys := by
  induction as generalizing f with
  | nil => exact List.prefix_rfl
  | cons a as ih => exact (f.keys_prefix_setAttribute a).trans (ih (f.setAttribute a).2)

/-- Each key gives what was set for it last, or else what it gave before. -/
theorem attribute?_setAttributes (as : List Attribute) (scope name : String) :
    (f.setAttributes as).attribute? scope name =
      (as.reverse.find? (·.hasKey scope name)).or (f.attribute? scope name) := by
  induction as generalizing f with
  | nil => rfl
  | cons a as ih =>
    have first : (f.setAttribute a).2.attribute? scope name =
        ([a].find? (·.hasKey scope name)).or (f.attribute? scope name) := by
      rw [attribute?_setAttribute, List.find?_singleton]
      by_cases same : a.hasKey scope name
      · rw [if_pos same, if_pos (Attribute.hasKey_iff_key.1 same), Option.some_or]
      · rw [if_neg same, if_neg fun h => same (Attribute.hasKey_iff_key.2 h), Option.none_or]
    change ((f.setAttribute a).2.setAttributes as).attribute? scope name = _
    rw [ih, first, ← Option.or_assoc, List.reverse_cons, List.find?_append]

/-- The attributes are a map that keeps the order of its keys.  What is replaced is what the key gave before; then
the key gives the attribute, every other key what it gave before, and nothing else of the frame has changed.  However
many are set, no key comes twice that was not there twice before. -/
theorem map_of_setAttribute (as : List Attribute) :
    ((f.setAttribute a).1 = f.attribute? a.scope a.name ∧
      (∀ scope name, (f.setAttribute a).2.attribute? scope name =
        if a.key = (scope, name) then some a else f.attribute? scope name) ∧
      (f.setAttribute a).2.keys = (if a.key ∈ f.keys then f.keys else f.keys ++ [a.key]) ∧
      (f.setAttribute a).2.attributes.length =
        f.attributes.length + (if (f.attribute? a.scope a.name).isSome then 0 else 1) ∧
      ((f.attribute? a.scope a.name = none ∧ (f.setAttribute a).2 = { f with attributes := f.attributes ++ [a] }) ∨
        ∃ front old rest, f.attributes = front ++ old :: rest ∧ f.attribute? a.scope a.name = some old ∧
          (f.setAttribute a).2 = { f with attributes := front ++ a :: rest })) ∧
    ((f.setAttributes as).keys.Nodup ↔ f.keys.Nodup) ∧
    f.keys <+: (f.setAttributes as).keys ∧
    ∀ scope name, (f.setAttributes as).attribute? scope name =
      (as.reverse.find? (·.hasKey scope name)).or (f.attribute? scope name) := by
  have unchanged : (f.setAttribute a).2 = { f with attributes := (f.setAttribute a).2.attributes } := rfl
  refine ⟨⟨rfl, f.attribute?_setAttribute a, f.keys_setAttribute a, f.length_setAttribute a, ?_⟩, ?_⟩
  · rcases f.attributes_setAttribute a with ⟨new, put⟩ | ⟨front, old, rest, all, found, put⟩
    · exact .inl ⟨new, by rw [unchanged, put]⟩
    · exact .inr ⟨front, old, rest, all, found, by rw [unchanged, put]⟩
  · exact ⟨f.nodup_keys_setAttributes as, f.keys_prefix_setAttributes as, f.attribute?_setAttributes as⟩

end Frame

end FrameStream
