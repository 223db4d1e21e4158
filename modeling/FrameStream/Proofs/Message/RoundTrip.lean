import FrameStream.Message.Wire
import FrameStream.Proofs.Json.Fields

/-!
# Messages read back

A payload is read back as the message it was made from exactly if that message is *portable*
(`decode_encode_frame`): every number of single precision in it is finite and comes back from its literal by way of
double precision, every number of double precision comes back from its literal, and the free values in its attributes
are not nested deeper than is left for them within the message.  Everything else (texts, integers, contents, times)
always comes back.
-/

namespace FrameStream

open Json (Doc required)

/-! ### Numbers -/

/-- Nothing at all is read as no number. -/
private theorem asSingle_null (x : Binary single) : Doc.null.asSingle ≠ .ok x := nofun

private theorem asOption_asSingle {x : Option (Binary single)} :
    (Doc.ofOption (.ofBinary singlePositional) x).asOption Doc.asSingle = .ok x ↔ ∀ y ∈ x, y.IsPortable :=
  (Json.asOption_ofOption asSingle_null).trans (forall₂_congr fun _ _ => Json.asSingle_ofBinary)

private theorem asOption_asText (s : Option String) :
    (Doc.ofOption .text s).asOption Doc.asText = .ok s :=
  (Json.asOption_ofOption nofun).2 fun t _ => Json.asText_text t

/-! ### Attributes -/

namespace AttributeContent

/-- The free value is ordered. -/
def IsOrdered : AttributeContent → Prop
  | .json v => v.IsOrdered
  | _ => True

/-- The numbers of double precision. -/
def floats : AttributeContent → List (Finite double)
  | .float x => [x]
  | .json v => v.floats
  | _ => []

/-- How deep the free value is nested. -/
def depth : AttributeContent → Nat
  | .json v => v.depth
  | _ => 0

/-- A free value is ordered, as every value that was read is, and may nest `room` arrays and objects. -/
def IsPortable (room : Nat) (c : AttributeContent) : Prop :=
  c.IsOrdered ∧ (∀ x ∈ c.floats, x.IsPortable) ∧ c.depth ≤ room

theorem isPortable_iff {room : Nat} {c : AttributeContent} (ordered : c.IsOrdered) :
    c.IsPortable room ↔ (∀ x ∈ c.floats, x.IsPortable) ∧ c.depth ≤ room := and_iff_right ordered

end AttributeContent

def AttributeValue.IsPortable (room : Nat) (v : AttributeValue) : Prop :=
  v.content.IsPortable room ∧ ∀ x ∈ v.confidence, x.IsPortable

def Attribute.IsPortable (room : Nat) (a : Attribute) : Prop := ∀ v ∈ a.values, v.IsPortable room

private theorem value_doc_eq_ok {room : Nat} {v : Json.Value} :
    v.doc.value room = .ok v ↔ v.IsOrdered ∧ (∀ x ∈ v.floats, x.IsPortable) ∧ v.depth ≤ room := by
  constructor
  · intro h
    have ordered := Json.isOrdered_of_value h
    exact ⟨ordered, (Json.value_doc ordered room).1 h⟩
  · rintro ⟨ordered, fits⟩
    exact (Json.value_doc ordered room).2 fits

theorem AttributeContent.ofDoc_doc {room : Nat} {c : AttributeContent} :
    AttributeContent.ofDoc room c.doc = .ok c ↔ c.IsPortable room := by
  cases c with
  | json v =>
    rw [doc, ofDoc, Json.asChoice_record]
    simp only [ok_bind, map_eq_ok, AttributeContent.json.injEq, exists_eq_right]
    exact value_doc_eq_ok
  | float x => simp [doc, ofDoc, IsPortable, IsOrdered, floats, depth, map_eq_ok]
  | text s => simp [doc, ofDoc, IsPortable, IsOrdered, floats, depth]
  | integer i => simp [doc, ofDoc, IsPortable, IsOrdered, floats, depth]
  | truth b => simp [doc, ofDoc, IsPortable, IsOrdered, floats, depth]

theorem AttributeValue.ofDoc_doc {room : Nat} {v : AttributeValue} :
    AttributeValue.ofDoc room v.doc = .ok v ↔ v.IsPortable room := by
  rw [AttributeValue.ofDoc, AttributeValue.doc, Json.asRecord_record]
  · simp only [List.reverse_cons, List.reverse_nil, List.nil_append, List.cons_append, required, Json.optional,
      Json.defaulted, List.lookup_cons, String.reduceBEq, ok_bind, bind_eq_ok, Except.ok.injEq]
    constructor
    · rintro ⟨c, content, x, confidence, rfl⟩
      exact ⟨AttributeContent.ofDoc_doc.1 content, asOption_asSingle.1 confidence⟩
    · rintro ⟨content, confidence⟩
      exact ⟨_, AttributeContent.ofDoc_doc.2 content, _, asOption_asSingle.2 confidence, rfl⟩
  · rfl
  · decide

theorem Attribute.ofDoc_doc {room : Nat} {a : Attribute} :
    Attribute.ofDoc room a.doc = .ok a ↔ a.IsPortable room := by
  rw [Attribute.ofDoc, Attribute.doc, Json.asRecord_record]
  · simp only [List.reverse_cons, List.reverse_nil, List.nil_append, List.cons_append, required, Json.optional,
      Json.defaulted, List.lookup_cons, String.reduceBEq, ok_bind, bind_eq_ok, Except.ok.injEq,
      Json.asText_text, asOption_asText, Json.asScalar_bool]
    constructor
    · rintro ⟨vs, values, same⟩
      cases a
      cases same
      exact fun v hv => AttributeValue.ofDoc_doc.1 (Json.asList_ofList.1 values v hv)
    · intro h
      exact ⟨_, Json.asList_ofList.2 fun v hv => AttributeValue.ofDoc_doc.2 (h v hv), rfl⟩
  · rfl
  · decide

/-! ### Objects -/

def RotatedBox.IsPortable (b : RotatedBox) : Prop :=
  b.centreX.IsPortable ∧ b.centreY.IsPortable ∧ b.width.IsPortable ∧ b.height.IsPortable ∧
    ∀ x ∈ b.angle, x.IsPortable

theorem RotatedBox.ofDoc_doc {b : RotatedBox} : RotatedBox.ofDoc b.doc = .ok b ↔ b.IsPortable := by
  rw [RotatedBox.ofDoc, RotatedBox.doc, Json.asRecord_record]
  · simp only [List.reverse_cons, List.reverse_nil, List.nil_append, List.cons_append, required, Json.optional,
      Json.defaulted, List.lookup_cons, String.reduceBEq, ok_bind, bind_eq_ok, Except.ok.injEq]
    constructor
    · rintro ⟨_, x, _, y, _, width, _, height, _, angle, rfl⟩
      exact ⟨Json.asSingle_ofBinary.1 x, Json.asSingle_ofBinary.1 y, Json.asSingle_ofBinary.1 width,
        Json.asSingle_ofBinary.1 height, asOption_asSingle.1 angle⟩
    · rintro ⟨x, y, width, height, angle⟩
      exact ⟨_, Json.asSingle_ofBinary.2 x, _, Json.asSingle_ofBinary.2 y, _, Json.asSingle_ofBinary.2 width,
        _, Json.asSingle_ofBinary.2 height, _, asOption_asSingle.2 angle, rfl⟩
  · rfl
  · decide

/-- The free values in the attributes may nest `room` arrays and objects. -/
def FrameObject.IsPortable (room : Nat) (o : FrameObject) : Prop :=
  o.box.IsPortable ∧ (∀ x ∈ o.confidence, x.IsPortable) ∧ ∀ a ∈ o.attributes, a.IsPortable room

theorem FrameObject.ofDoc_doc {room : Nat} {o : FrameObject} :
    FrameObject.ofDoc room o.doc = .ok o ↔ o.IsPortable room := by
  have parent : (Doc.ofOption (fun i : Int64 => .ofInt i.toInt) o.parent).asOption
      (Doc.asScalar Json.Value.asInt64) = .ok o.parent :=
    (Json.asOption_ofOption nofun).2 fun i _ => Json.asInt64_ofInt i
  rw [FrameObject.ofDoc, FrameObject.doc, Json.asRecord_record]
  · simp only [List.reverse_cons, List.reverse_nil, List.nil_append, List.cons_append, required, Json.optional,
      Json.defaulted, List.lookup_cons, String.reduceBEq, ok_bind, bind_eq_ok, Except.ok.injEq,
      Json.asInt64_ofInt, Json.asText_text, parent]
    constructor
    · rintro ⟨_, box, _, confidence, _, attributes, same⟩
      cases o
      cases same
      exact ⟨RotatedBox.ofDoc_doc.1 box, asOption_asSingle.1 confidence,
        fun a ha => Attribute.ofDoc_doc.1 (Json.asList_ofList.1 attributes a ha)⟩
    · rintro ⟨box, confidence, attributes⟩
      exact ⟨_, RotatedBox.ofDoc_doc.2 box, _, asOption_asSingle.2 confidence, _,
        Json.asList_ofList.2 fun a ha => Attribute.ofDoc_doc.2 (attributes a ha), rfl⟩
  · rfl
  · decide

/-! ### What is at stake -/

namespace Attribute

/-- The numbers of single precision. -/
def numbers (a : Attribute) : List (Binary single) := a.values.flatMap fun v => v.confidence.toList

def contents (a : Attribute) : List AttributeContent := a.values.map AttributeValue.content

/-- Attributes are portable exactly if their numbers and contents are. -/
theorem forall_isPortable_iff {room : Nat} {as : List Attribute} :
    (∀ a ∈ as, a.IsPortable room) ↔
      (∀ x ∈ as.flatMap numbers, x.IsPortable) ∧ ∀ c ∈ as.flatMap contents, c.IsPortable room := by
  simp only [numbers, contents, List.mem_flatMap, List.mem_map, Option.mem_toList]
  constructor
  · intro h
    refine ⟨?_, ?_⟩
    · rintro x ⟨a, ha, v, hv, hx⟩
      exact (h a ha v hv).2 x hx
    · rintro c ⟨a, ha, v, hv, rfl⟩
      exact (h a ha v hv).1
  · rintro ⟨numbers, contents⟩ a ha v hv
    exact ⟨contents _ ⟨a, ha, v, hv, rfl⟩, fun x hx => numbers x ⟨a, ha, v, hv, hx⟩⟩

end Attribute

namespace FrameObject

/-- All numbers of single precision. -/
def numbers (o : FrameObject) : List (Binary single) :=
  [o.box.centreX, o.box.centreY, o.box.width, o.box.height] ++ o.box.angle.toList ++ o.confidence.toList ++
    o.attributes.flatMap fun a => a.values.flatMap fun v => v.confidence.toList

/-- The contents of all attributes. -/
def contents (o : FrameObject) : List AttributeContent :=
  o.attributes.flatMap fun a => a.values.map AttributeValue.content

/-- An object is portable exactly if its numbers and contents are. -/
theorem isPortable_iff_contents {room : Nat} {o : FrameObject} :
    o.IsPortable room ↔ (∀ x ∈ o.numbers, x.IsPortable) ∧ ∀ c ∈ o.contents, c.IsPortable room := by
  have attributes : (∀ a ∈ o.attributes, a.IsPortable room) ↔ _ := Attribute.forall_isPortable_iff
  simp only [numbers, List.mem_append, List.mem_cons, List.not_mem_nil, or_false, Option.mem_toList]
  constructor
  · rintro ⟨⟨x, y, width, height, angle⟩, confidence, own⟩
    obtain ⟨numbers, contents⟩ := attributes.1 own
    refine ⟨?_, contents⟩
    rintro z ((((rfl | rfl | rfl | rfl) | hz) | hz) | hz)
    · exact x
    · exact y
    · exact width
    · exact height
    · exact angle z hz
    · exact confidence z hz
    · exact numbers z hz
  · rintro ⟨numbers, contents⟩
    have box (x : Binary single) (h : x = o.box.centreX ∨ x = o.box.centreY ∨ x = o.box.width ∨ x = o.box.height) :
        x.IsPortable := numbers x (.inl (.inl (.inl h)))
    refine ⟨⟨box _ (.inl rfl), box _ (.inr (.inl rfl)), box _ (.inr (.inr (.inl rfl))),
      box _ (.inr (.inr (.inr rfl))), ?_⟩, ?_, ?_⟩
    · exact fun z hz => numbers z (.inl (.inl (.inr hz)))
    · exact fun z hz => numbers z (.inl (.inr hz))
    · exact attributes.2 ⟨fun z hz => numbers z (.inr hz), contents⟩

/-- An object is portable exactly if its numbers are, those of double precision in its contents included, and its
values have room. -/
theorem isPortable_iff {room : Nat} {o : FrameObject} (ordered : ∀ c ∈ o.contents, c.IsOrdered) :
    o.IsPortable room ↔ (∀ x ∈ o.numbers, x.IsPortable) ∧
      ∀ c ∈ o.contents, (∀ x ∈ c.floats, x.IsPortable) ∧ c.depth ≤ room := by
  rw [isPortable_iff_contents]
  exact and_congr_right' (forall₂_congr fun c hc => AttributeContent.isPortable_iff (ordered c hc))

end FrameObject

/-! ### Frames -/

/-- Eight arrays and objects stand around a value in an attribute of an object, and two more around the frame; in an
attribute of the frame itself it is two less. -/
def Frame.IsPortable (f : Frame) : Prop :=
  (∀ o ∈ f.objects, o.IsPortable 117) ∧ ∀ a ∈ f.attributes, a.IsPortable 119

private theorem FrameContent.ofDoc_doc (c : FrameContent) : FrameContent.ofDoc c.doc = .ok c := by
  cases c with
  | embedded data =>
    have octets : (Doc.ofList (fun b : UInt8 => .ofNat b.toNat) data).asList (Doc.asScalar Json.Value.asUInt8) =
        .ok data := Json.asList_ofList.2 fun b _ => Json.asUInt8_ofNat b
    simp [FrameContent.doc, FrameContent.ofDoc, octets]
  | external method location =>
    rw [FrameContent.doc, FrameContent.ofDoc, Json.asChoice_record, ok_bind]
    dsimp only
    rw [Json.asRecord_record]
    · simp [required, Json.optional, Json.defaulted, List.lookup_cons, asOption_asText]
    · rfl
    · decide

private theorem Transformation.ofDoc_doc (t : Transformation) : Transformation.ofDoc t.doc = .ok t := by
  cases t with
  | initialSize width height =>
    rw [Transformation.doc, Transformation.ofDoc, Json.asChoice_record, ok_bind]
    dsimp only
    rw [Json.asRecord_record]
    · simp [required, List.lookup_cons]
    · rfl
    · decide

theorem Frame.ofDoc_doc {f : Frame} : Frame.ofDoc 125 f.doc = .ok f ↔ f.IsPortable := by
  have codec := asOption_asText f.codec
  have keyframe : (Doc.ofOption .bool f.keyframe).asOption (Doc.asScalar Json.Value.asBool) = .ok f.keyframe :=
    (Json.asOption_ofOption nofun).2 fun b _ => Json.asScalar_bool b
  have time (t : Option UInt64) : (Doc.ofOption (fun t : UInt64 => .ofNat t.toNat) t).asOption
      (Doc.asScalar Json.Value.asUInt64) = .ok t :=
    (Json.asOption_ofOption nofun).2 fun n _ => Json.asUInt64_ofNat n
  have timeBase : pairOfDoc (Doc.asScalar Json.Value.asInt32)
      (.ofList (fun i : Int32 => .ofInt i.toInt) [f.timeBase.1, f.timeBase.2]) = .ok f.timeBase := by
    rw [pairOfDoc, Json.asList_ofList.2 fun i _ => Json.asInt32_ofInt i]
    rfl
  have transformations : (Doc.ofList Transformation.doc f.transformations).asList Transformation.ofDoc =
      .ok f.transformations := Json.asList_ofList.2 fun t _ => Transformation.ofDoc_doc t
  rw [Frame.ofDoc, Frame.doc, Json.asRecord_record]
  · simp only [List.reverse_cons, List.reverse_nil, List.nil_append, List.cons_append, required, Json.optional,
      Json.defaulted, List.lookup_cons, String.reduceBEq, ok_bind, bind_eq_ok, Except.ok.injEq,
      Nat.reduceSub, Json.asText_text, Json.asUInt64_ofNat, codec, keyframe, time, timeBase, transformations,
      FrameContent.ofDoc_doc]
    constructor
    · rintro ⟨_, objects, _, attributes, same⟩
      cases f
      cases same
      exact ⟨fun o ho => FrameObject.ofDoc_doc.1 (Json.asList_ofList.1 objects o ho),
        fun a ha => Attribute.ofDoc_doc.1 (Json.asList_ofList.1 attributes a ha)⟩
    · rintro ⟨objects, attributes⟩
      exact ⟨_, Json.asList_ofList.2 fun o ho => FrameObject.ofDoc_doc.2 (objects o ho), _,
        Json.asList_ofList.2 fun a ha => Attribute.ofDoc_doc.2 (attributes a ha), rfl⟩
  · rfl
  · decide

/-! ### Payloads -/

private theorem isWhole_attribute (a : Attribute) : a.doc.IsWhole := by
  have value (v : AttributeValue) : v.doc.IsWhole := by
    have content : v.content.doc.IsWhole := by
      cases v.content <;> exact Json.isWhole_record (by simp)
    exact Json.isWhole_record (by simp [content])
  exact Json.isWhole_record (by simp [value])

private theorem isWhole_object (o : FrameObject) : o.doc.IsWhole := by
  have number (x : Binary single) : (singleDoc x).IsWhole := Json.isWhole_ofBinary _ x
  have box : o.box.doc.IsWhole := Json.isWhole_record (by simp [number])
  exact Json.isWhole_record (by simp [number, box, isWhole_attribute])

private theorem isWhole_frame (f : Frame) : f.doc.IsWhole := by
  have content : f.content.doc.IsWhole := by
    cases f.content with
    | embedded data => exact Json.isWhole_record (by simp)
    | external method location =>
      have inner : (Doc.record [("method", .text method), ("location", .ofOption .text location)]).IsWhole :=
        Json.isWhole_record (by simp)
      exact Json.isWhole_record (by simpa using inner)
  have transformation (t : Transformation) : t.doc.IsWhole := by
    cases t with
    | initialSize width height =>
      have inner : (Doc.record [("width", .ofNat width.toNat), ("height", .ofNat height.toNat)]).IsWhole :=
        Json.isWhole_record (by simp)
      exact Json.isWhole_record (by simpa using inner)
  exact Json.isWhole_record (by simp [content, transformation, isWhole_object, isWhole_attribute])

namespace Message

private theorem isWhole_doc (m : Message) : m.doc.IsWhole := by
  cases m with
  | frame f => exact Json.isWhole_record (by simpa using isWhole_frame f)
  | endOfStream sourceId =>
    have inner : (Doc.record [("source_id", .text sourceId)]).IsWhole := Json.isWhole_record (by simp)
    exact Json.isWhole_record (by simpa using inner)
  | shutdown token =>
    have inner : (Doc.record [("auth_token", .text token)]).IsWhole := Json.isWhole_record (by simp)
    exact Json.isWhole_record (by simpa using inner)

/-- What is read from a payload is what is read from the document of its message. -/
theorem decode_encode (m : Message) :
    decode m.encode = (ofDoc (Json.depthLimit - 1) m.doc).mapError DecodeFailure.malformed := by
  have read : Json.readText ofPayload m.encode =
      ofDoc (Json.depthLimit - 1) m.doc >>= fun message => .ok (protocolVersion, message) := by
    rw [encode, Json.readText_render _ (Json.isWhole_record (by simpa using isWhole_doc m)), ofPayload,
      Json.asRecord_record]
    · rw [ok_bind]
      simp [required, List.lookup_cons]
    · rfl
    · decide
  rw [decode, read]
  cases ofDoc (Json.depthLimit - 1) m.doc with
  | ok message => exact if_pos rfl
  | error f => rfl

/-- The document of a frame is read as a frame. -/
private theorem ofDoc_frame (room : Nat) (f : Frame) :
    ofDoc room (frame f).doc = frame <$> Frame.ofDoc (room - 1) f.doc := by
  rw [doc, ofDoc, kind, Json.asChoice_record, ok_bind]
  rfl

/-- A record with one text in it. -/
private theorem required_record (name s : String) (wrap : String → Message) :
    ((Doc.record [(name, .text s)]).asRecord [name] >>= fun fields => wrap <$> required name Doc.asText fields) =
      .ok (wrap s) := by
  rw [Json.asRecord_record]
  · rw [ok_bind, List.reverse_singleton, required, List.lookup_cons_self]
    simp
  · rfl
  · exact List.nodup_singleton name

@[simp] theorem decode_encode_endOfStream (sourceId : String) :
    decode (endOfStream sourceId).encode = .ok (.endOfStream sourceId) := by
  have read : ofDoc (Json.depthLimit - 1) (endOfStream sourceId).doc = .ok (.endOfStream sourceId) := by
    rw [doc, ofDoc, kind, Json.asChoice_record, ok_bind]
    exact required_record "source_id" sourceId endOfStream
  rw [decode_encode, read]
  rfl

@[simp] theorem decode_encode_shutdown (token : String) :
    decode (shutdown token).encode = .ok (.shutdown token) := by
  have read : ofDoc (Json.depthLimit - 1) (shutdown token).doc = .ok (.shutdown token) := by
    rw [doc, ofDoc, kind, Json.asChoice_record, ok_bind]
    exact required_record "auth_token" token shutdown
  rw [decode_encode, read]
  rfl

/-- The payload of a frame is read as a frame, if it is read at all. -/
theorem decode_encode_frame_kind {f : Frame} {m : Message} (h : decode (frame f).encode = .ok m) :
    ∃ g, m = .frame g := by
  rw [decode_encode, ofDoc_frame] at h
  cases read : Frame.ofDoc (Json.depthLimit - 1 - 1) f.doc with
  | error fault =>
    rw [read] at h
    cases h
  | ok g =>
    rw [read] at h
    exact ⟨g, (Except.ok.inj h).symm⟩

/-- The payload of a frame is read as that frame exactly if the frame is portable. -/
theorem decode_encode_frame {f : Frame} : decode (frame f).encode = .ok (.frame f) ↔ f.IsPortable := by
  rw [decode_encode, ofDoc_frame, ← Frame.ofDoc_doc]
  cases read : Frame.ofDoc (Json.depthLimit - 1 - 1) f.doc with
  | error fault =>
    have same : Frame.ofDoc 125 f.doc = .error fault := read
    rw [same]
    exact ⟨nofun, nofun⟩
  | ok g =>
    have same : Frame.ofDoc 125 f.doc = .ok g := read
    rw [same]
    constructor
    · intro h
      rw [Message.frame.inj (Except.ok.inj h)]
    · intro h
      rw [Except.ok.inj h]
      rfl

end Message

end FrameStream
