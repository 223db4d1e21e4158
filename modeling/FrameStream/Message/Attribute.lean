import FrameStream.Json.Typed

/-!
# Attributes

Frames and objects carry attributes: a name within a scope, and values with an optional confidence.  A value
taken from free-form data keeps its type where it is a text, a truth value or a number, and stays a JSON value
otherwise.
-/

namespace FrameStream

open Json (Doc required optional)

inductive AttributeContent where
  | text (s : String)
  | integer (i : Int64)
  | float (x : Finite double)
  | truth (b : Bool)
  | json (v : Json.Value)

structure AttributeValue where
  content : AttributeContent
  confidence : Option (Binary single)

structure Attribute where
  scope : String
  name : String
  values : List AttributeValue
  hint : Option String := none
  persistent : Bool := false

/-- The scope of the attributes that are set here. -/
def defaultScope : String := "default"

def AttributeValue.ofText (s : String) : AttributeValue := ⟨.text s, none⟩

/-- The content for free-form data.  A number that is no integer of 64 bits with sign becomes one of double
precision. -/
def AttributeContent.ofJson : Json.Value → AttributeContent
  | .string s => .text s
  | .bool b => .truth b
  | .number (.float x) => .float x
  | .number (.integer i) =>
    if i.value < 0x8000000000000000 then .integer (Int64.ofInt i.value)
    else match Binary.ofInt double i.value with
      | .finite x => .float x
      | .infinite _ => .json (.number (.integer i))
  | v => .json v

def AttributeValue.ofJson (v : Json.Value) (confidence : Option (Binary single)) : AttributeValue :=
  ⟨.ofJson v, confidence⟩

/-! ### Wire form -/

def AttributeContent.doc : AttributeContent → Doc
  | text s => .record [("String", .text s)]
  | integer i => .record [("Integer", .ofInt i.toInt)]
  | float x => .record [("Float", .ofBinary doublePositional (.finite x))]
  | truth b => .record [("Boolean", .bool b)]
  | json v => .record [("Json", v.doc)]

/-- A free value inside may nest `room` arrays and objects. -/
def AttributeContent.ofDoc (room : Nat) (d : Doc) : Except Fault AttributeContent := do
  let (form, content) ← d.asChoice
  match form with
  | "String" => text <$> content.asText
  | "Integer" => integer <$> content.asScalar Json.Value.asInt64
  | "Float" => float <$> content.asScalar Json.Value.asDouble
  | "Boolean" => truth <$> content.asScalar Json.Value.asBool
  | "Json" => json <$> content.value room
  | _ => .error .unexpected

def AttributeValue.doc (v : AttributeValue) : Doc :=
  .record [("value", v.content.doc), ("confidence", .ofOption (.ofBinary singlePositional) v.confidence)]

def AttributeValue.ofDoc (room : Nat) (d : Doc) : Except Fault AttributeValue := do
  let fields ← d.asRecord ["value", "confidence"]
  let content ← required "value" (AttributeContent.ofDoc room) fields
  let confidence ← optional "confidence" Doc.asSingle fields
  .ok { content, confidence }

def Attribute.doc (a : Attribute) : Doc :=
  .record [
    ("namespace", .text a.scope),
    ("name", .text a.name),
    ("values", .ofList AttributeValue.doc a.values),
    ("hint", .ofOption .text a.hint),
    ("is_persistent", .bool a.persistent)]

def Attribute.ofDoc (room : Nat) (d : Doc) : Except Fault Attribute := do
  let fields ← d.asRecord ["namespace", "name", "values", "hint", "is_persistent"]
  let scope ← required "namespace" Doc.asText fields
  let name ← required "name" Doc.asText fields
  let values ← required "values" (Doc.asList (AttributeValue.ofDoc room)) fields
  let hint ← optional "hint" Doc.asText fields
  let persistent ← required "is_persistent" (Doc.asScalar Json.Value.asBool) fields
  .ok { scope, name, values, hint, persistent }

end FrameStream
