import FrameStream.Json.Meaning

/-!
# Writing JSON documents

Documents are written without spaces.  A unit of a string has a short form where there is one and four
hexadecimal digits otherwise.  Reading what was written gives the document back, whatever text follows it that
cannot continue a number.
-/

namespace FrameStream.Json

/-! ### Strings -/

/-- Four hexadecimal digits. -/
def hexUnit (u : UInt16) : Bytes :=
  let digit (n : Nat) : UInt8 := (Nat.digitChar (n % 16)).toUInt8
  [digit (u.toNat / 0x1000), digit (u.toNat / 0x100), digit (u.toNat / 0x10), digit u.toNat]

def Piece.render : Piece → Bytes
  | .octet b => [b]
  | .unit u =>
    if u = 0x22 then [0x5C, 0x22]
    else if u = 0x5C then [0x5C, 0x5C]
    else if u = 0x08 then [0x5C, 0x62]
    else if u = 0x0C then [0x5C, 0x66]
    else if u = 0x0A then [0x5C, 0x6E]
    else if u = 0x0D then [0x5C, 0x72]
    else if u = 0x09 then [0x5C, 0x74]
    else 0x5C :: 0x75 :: hexUnit u

def renderString (pieces : List Piece) : Bytes := 0x22 :: (pieces.flatMap Piece.render ++ [0x22])

/-! ### Documents -/

mutual

/-- The document in writing; nothing is written for a cut. -/
def Doc.render : Doc → Bytes
  | .null => [0x6E, 0x75, 0x6C, 0x6C]
  | .bool true => [0x74, 0x72, 0x75, 0x65]
  | .bool false => [0x66, 0x61, 0x6C, 0x73, 0x65]
  | .number l => l.render
  | .string pieces => renderString pieces
  | .array items => 0x5B :: items.render true
  | .object members => 0x7B :: members.render true
  | .cut _ => []

/-- The items, the first of an array without a comma before it, and the bracket. -/
def Items.render (first : Bool) : Items → Bytes
  | .closed => [0x5D]
  | .item head tail => (if first then [] else [0x2C]) ++ (head.render ++ tail.render false)
  | .cut _ => []

/-- The members, the first of an object without a comma before it, and the brace. -/
def Members.render (first : Bool) : Members → Bytes
  | .closed => [0x7D]
  | .member key value tail =>
    (if first then [] else [0x2C]) ++ (renderString key ++ 0x3A :: (value.render ++ tail.render false))
  | .cut _ => []

end

def Value.render (v : Value) : Bytes := v.doc.render

/-! ### Building documents -/

def Doc.ofNat (n : Nat) : Doc := .number (.ofInt n)

def Doc.ofInt (i : Int) : Doc := .number (.ofInt i)

/-- A floating-point number; there is no literal for an infinite one. -/
def Doc.ofBinary (style : Positional) : Binary F → Doc
  | .finite x => .number (.ofFinite style x)
  | .infinite _ => .null

/-- A value that may be missing, which is then written as `null`. -/
def Doc.ofOption (write : α → Doc) : Option α → Doc
  | none => .null
  | some a => write a

def Doc.ofList (write : α → Doc) (as : List α) : Doc :=
  .array (as.foldr (fun a tail => .item (write a) tail) .closed)

/-- An object with the given members in order. -/
def Doc.record (members : List (String × Doc)) : Doc :=
  .object (members.foldr (fun (key, doc) tail => .member (textPieces key) doc tail) .closed)

end FrameStream.Json
