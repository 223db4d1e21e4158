import FrameStream.Proofs.Message.RoundTrip

/-!
# Messages that come back from their payloads

Whether a message comes back is a matter of its numbers of single precision and of the contents of its attributes
alone (`decode_encode_iff`).  A number comes back if its text does (`Binary.isPortable_iff_readText`,
`Finite.isPortable_iff_readText`), and within a message there is room for values that are nested 117 deep, wherever they
stand; so a message with finite numbers whose texts come back, and with such values, comes back as it was
(`decode_encode_of_finite`).
-/

namespace FrameStream

open Json (Doc)

/-- A number is portable exactly if the text written for it is read as the number. -/
theorem Binary.isPortable_iff_readText {x : Binary single} :
    x.IsPortable ↔ Json.readText Doc.asSingle (singleDoc x).render = .ok x := by
  have whole : (singleDoc x).IsWhole := Json.isWhole_ofBinary _ x
  rw [Json.readText_render _ whole]
  exact Json.asSingle_ofBinary.symm

/-- A number of double precision is portable exactly if the text written for it is read as the number. -/
theorem Finite.isPortable_iff_readText {x : Finite double} :
    x.IsPortable ↔ Json.readText (Doc.asScalar Json.Value.asDouble)
      (Doc.ofBinary doublePositional (.finite x)).render = .ok x := by
  rw [Json.readText_render _ (Json.isWhole_ofBinary _ _)]
  exact Json.asDouble_ofBinary.symm

/-- Being finite is not enough: the text of this number, `9.011026873348461`, is read as the number below it. -/
example : Json.readText (Doc.asScalar Json.Value.asDouble)
    (Doc.ofBinary doublePositional (.finite (F := double) ⟨false, 5072757158629707, -49, by decide⟩)).render =
      .ok ⟨false, 5072757158629706, -49, by decide⟩ := by decide +kernel

theorem AttributeContent.IsPortable.mono {c : AttributeContent} {room more : Nat} (h : c.IsPortable room)
    (le : room ≤ more) : c.IsPortable more := by
  obtain ⟨ordered, floats, fits⟩ := h
  exact ⟨ordered, floats, fits.trans le⟩

/-! ### Frames -/

namespace Frame

/-- All numbers of single precision. -/
def numbers (f : Frame) : List (Binary single) :=
  f.objects.flatMap FrameObject.numbers ++ f.attributes.flatMap Attribute.numbers

/-- The contents of all attributes, those of the objects and those of the frame itself. -/
def contents (f : Frame) : List AttributeContent :=
  f.objects.flatMap FrameObject.contents ++ f.attributes.flatMap Attribute.contents

theorem isPortable_of_contents {f : Frame} (numbers : ∀ x ∈ f.numbers, x.IsPortable)
    (contents : ∀ c ∈ f.contents, c.IsPortable 117) : f.IsPortable := by
  simp only [Frame.numbers, Frame.contents, List.forall_mem_append] at numbers contents
  refine ⟨fun o ho => ?_, ?_⟩
  · rw [FrameObject.isPortable_iff_contents]
    exact ⟨fun x hx => numbers.1 x (List.mem_flatMap.2 ⟨o, ho, hx⟩),
      fun c hc => contents.1 c (List.mem_flatMap.2 ⟨o, ho, hc⟩)⟩
  · rw [Attribute.forall_isPortable_iff]
    exact ⟨numbers.2, fun c hc => (contents.2 c hc).mono (by decide)⟩

end Frame

/-! ### Messages -/

namespace Message

def numbers : Message → List (Binary single)
  | frame f => f.numbers
  | _ => []

def contents : Message → List AttributeContent
  | frame f => f.contents
  | _ => []

/-- The text of a message is read as that message. -/
def IsPortable : Message → Prop
  | frame f => f.IsPortable
  | _ => True

theorem decode_encode_iff {m : Message} : decode m.encode = .ok m ↔ m.IsPortable := by
  cases m with
  | frame f => exact decode_encode_frame
  | endOfStream sourceId => exact iff_of_true (decode_encode_endOfStream sourceId) trivial
  | shutdown token => exact iff_of_true (decode_encode_shutdown token) trivial

theorem isPortable_of_contents {m : Message} (numbers : ∀ x ∈ m.numbers, x.IsPortable)
    (contents : ∀ c ∈ m.contents, c.IsPortable 117) : m.IsPortable := by
  cases m with
  | frame f => exact f.isPortable_of_contents numbers contents
  | endOfStream sourceId => trivial
  | shutdown token => trivial

/-- A message comes back from its payload if its numbers of single precision are finite, the text that is written for
each of its numbers, of either precision, is read as that number, and its free values, which have the members of
objects in order, are nested at most 117 deep. -/
theorem decode_encode_of_finite {m : Message} (finite : ∀ x ∈ m.numbers, ∃ y, x = .finite y)
    (readable : ∀ y, .finite y ∈ m.numbers →
      Json.readText Doc.asSingle (singleDoc (.finite y)).render = .ok (.finite y))
    (double_readable : ∀ c ∈ m.contents, ∀ x ∈ c.floats,
      Json.readText (Doc.asScalar Json.Value.asDouble) (Doc.ofBinary doublePositional (.finite x)).render = .ok x)
    (ordered : ∀ c ∈ m.contents, c.IsOrdered) (shallow : ∀ c ∈ m.contents, c.depth ≤ 117) :
    decode m.encode = .ok m := by
  refine decode_encode_iff.2 (isPortable_of_contents ?_ ?_)
  · intro x hx
    obtain ⟨y, rfl⟩ := finite x hx
    exact Binary.isPortable_iff_readText.2 (readable y hx)
  · intro c hc
    exact ⟨ordered c hc, fun x hx => Finite.isPortable_iff_readText.2 (double_readable c hc x hx), shallow c hc⟩

/-- The number of single precision nearest to a tenth. -/
def tenth : Finite single := ⟨false, 13421773, -27, by decide⟩

/-- A frame with texts that have to be escaped, bounds of integers, numbers of both precisions, and a value of several
levels. -/
def crowdedFrame : Frame where
  sourceId := "\"cam\\1\"\x00\n😀"
  framerate := "30/1"
  width := 0xFFFFFFFFFFFFFFFF
  height := 0
  codec := none
  content := .embedded [0, 255]
  keyframe := some false
  pts := 0xFFFFFFFFFFFFFFFF
  dts := some 0
  duration := none
  timeBase := (-0x80000000, 0x7FFFFFFF)
  transformations := [.initialSize 1 2, .initialSize 3 4]
  objects := [{
    id := -0x8000000000000000
    model := ""
    label := "é"
    box := ⟨.finite tenth, .finite tenth, .finite tenth, .finite tenth, none⟩
    confidence := some (.finite tenth)
    attributes := [{
      scope := "s", name := "n"
      values := [⟨.json (.object [("a", .array [.null]), ("b", .object [])]), none⟩,
        ⟨.integer 7, some (.finite tenth)⟩, ⟨.float .half, none⟩] }]
    parent := none }]
  attributes := [{ scope := "default", name := "location", values := [.ofText "/a"], hint := some "h" }]

theorem decode_crowdedFrame : decode (frame crowdedFrame).encode = .ok (.frame crowdedFrame) := by
  have single : ∀ x ∈ (frame crowdedFrame).numbers, x = .finite tenth := by decide +kernel
  have readable : Json.readText Doc.asSingle (singleDoc (.finite tenth)).render = .ok (.finite tenth) := by
    decide +kernel
  have contents : (frame crowdedFrame).contents =
      [.json (.object [("a", .array [.null]), ("b", .object [])]), .integer 7, .float .half, .text "/a"] := rfl
  apply decode_encode_of_finite
  · exact fun x hx => ⟨tenth, single x hx⟩
  · intro y hy
    rw [single _ hy]
    exact readable
  · have only : ∀ c ∈ (frame crowdedFrame).contents, ∀ x ∈ c.floats, x = .half := by decide +kernel
    intro c hc x hx
    rw [only c hc x hx]
    exact Finite.isPortable_iff_readText.1 Finite.isPortable_half
  · have sorted : ∀ m ∈ [("b", Json.Value.object [])], "a" < m.1 := by decide +kernel
    have value : (Json.Value.object [("a", .array [.null]), ("b", .object [])]).IsOrdered :=
      ⟨sorted, ⟨trivial, trivial⟩, nofun, trivial, trivial⟩
    rw [contents]
    simpa [AttributeContent.IsOrdered] using value
  · decide +kernel

end Message

end FrameStream
