import FrameStream.Message.Frame

/-!
# Attributes of a frame

Setting an attribute puts it under its scope and name and leaves every other one where it is.
-/

namespace FrameStream

theorem Attribute.hasKey_iff {a : Attribute} {scope name : String} :
    a.hasKey scope name ↔ a.scope = scope ∧ a.name = name := by
  simp [Attribute.hasKey]

theorem Attribute.hasKey_self (a : Attribute) : a.hasKey a.scope a.name := by
  simp [Attribute.hasKey]

namespace Frame

theorem find?_putAttribute_self (a : Attribute) (as : List Attribute) :
    (putAttribute a as).find? (·.hasKey a.scope a.name) = some a := by
  induction as with
  | nil => simp [putAttribute, a.hasKey_self]
  | cons b rest ih =>
    by_cases h : b.hasKey a.scope a.name
    · simp [putAttribute, h, a.hasKey_self]
    · simp [putAttribute, h, ih]

theorem find?_putAttribute_of_ne {a : Attribute} {scope name : String} (h : ¬ a.hasKey scope name)
    (as : List Attribute) :
    (putAttribute a as).find? (·.hasKey scope name) = as.find? (·.hasKey scope name) := by
  induction as with
  | nil => simp [putAttribute, h]
  | cons b rest ih =>
    by_cases same : b.hasKey a.scope a.name
    · have other : ¬ b.hasKey scope name := by
        rw [Attribute.hasKey_iff] at same h ⊢
        rw [same.1, same.2]
        exact h
      simp [putAttribute, same, h, other]
    · by_cases there : b.hasKey scope name
      · simp [putAttribute, same, there]
      · simp [putAttribute, same, there, ih]

/-- The attribute that was set is there. -/
theorem attribute?_setAttribute_self (f : Frame) (a : Attribute) :
    (f.setAttribute a).2.attribute? a.scope a.name = some a :=
  find?_putAttribute_self a f.attributes

/-- Every other attribute stays. -/
theorem attribute?_setAttribute_of_ne (f : Frame) {a : Attribute} {scope name : String}
    (h : ¬ a.hasKey scope name) :
    (f.setAttribute a).2.attribute? scope name = f.attribute? scope name :=
  find?_putAttribute_of_ne h f.attributes

end Frame

end FrameStream
