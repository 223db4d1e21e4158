import FrameStream.Json.Reader

/-!
# The value of a document

`Doc.value` gives a document its meaning, from left to right, and stops at the first fault: a number beyond double
precision, a string that is no text, an array or object nested too deep, or the cut.  `Doc.scalar` does so where no
array or object is expected, which is then a fault by itself.  `Value.doc` writes a value as a document; the
document of a value means that value.
-/

namespace FrameStream.Json

/-! ### Strings -/

/-- The octets of a string whose surrogates come in pairs. -/
def pieceOctets : List Piece → Option Bytes
  | [] => some []
  | .octet b :: ps => (b :: ·) <$> pieceOctets ps
  | .unit u :: ps =>
    if isLowSurrogate u then none
    else if isHighSurrogate u then
      match ps with
      | .unit v :: ps =>
        if isLowSurrogate v then
          let n := (u.toNat - 0xD800) * 0x400 + (v.toNat - 0xDC00) + 0x10000
          (String.utf8EncodeChar (Char.ofNat n) ++ ·) <$> pieceOctets ps
        else none
      | _ => none
    else (String.utf8EncodeChar (Char.ofNat u.toNat) ++ ·) <$> pieceOctets ps

/-- The text of a string. -/
def pieceText (pieces : List Piece) : Except Fault String :=
  match (pieceOctets pieces).bind Utf8.decode? with
  | some s => .ok s
  | none => .error .malformed

/-- The pieces of a text: only quotes, backslashes and controls are written with a backslash. -/
def textPieces (s : String) : List Piece :=
  s.toList.flatMap fun c =>
    if c = '"' ∨ c = '\\' ∨ c.toNat < 0x20 then [.unit (UInt16.ofNat c.toNat)]
    else (String.utf8EncodeChar c).map .octet

/-! ### Numbers -/

def WideInt.ofInt? (i : Int) : Option WideInt :=
  if h : -0x8000000000000000 ≤ i ∧ i < 0x10000000000000000 then some ⟨i, h.1, h.2⟩ else none

/-- A number has to be finite. -/
def finiteNumber : Binary double → Except Fault (Finite double)
  | .finite x => .ok x
  | .infinite _ => .error .malformed

/-- The nearest number to `10 ^ k`, of which there is none beyond `k = 308`. -/
def powerOfTen (k : Nat) : Except Fault (Finite double) := finiteNumber (Decimal.round double false ⟨1, k⟩)

/-- The number divided by `10 ^ 308` so many times, or until nothing is left of it. -/
def shrink : (times : Nat) → Finite double → Except Fault (Finite double)
  | 0, x => .ok x
  | times + 1, x =>
    if x.mantissa = 0 then .ok x
    else do
      let p ← powerOfTen 308
      let y ← finiteNumber (x.dividedBy p)
      shrink times y

/-- A decimal in double precision, as it comes of calculating there: the digits are rounded, and then multiplied or
divided by powers of ten that are rounded themselves.  So this need not be the nearest number to the decimal. -/
def approximate (d : Decimal) : Except Fault (Finite double) := do
  let x ← finiteNumber (.ofRatio double false ⟨d.digits, 1⟩)
  if d.digits = 0 then .ok x
  else if 0 ≤ d.exponent then
    let p ← powerOfTen d.exponent.toNat
    finiteNumber (x.times p)
  else
    let k := (-d.exponent).toNat
    let times := (k - 1) / 308
    let x ← shrink times x
    let p ← powerOfTen (k - 308 * times)
    finiteNumber (x.dividedBy p)

/-- A whole literal in the range of 64 bits is an integer, except for minus zero; every other literal becomes a number
of double precision, and has to be finite. -/
def Number.ofLiteral (l : Literal) : Except Fault Number :=
  let i : Int := if l.negative then -l.digits else l.digits
  let integer := if l.isWhole && !(l.negative && l.digits == 0) then WideInt.ofInt? i else none
  match integer with
  | some i => .ok (.integer i)
  | none => (fun x => .float (x.signed l.negative)) <$> approximate l.kept

def Number.literal : Number → Literal
  | .integer i => .ofInt i.value
  | .float x => .ofFinite doublePositional x

/-! ### Whole documents -/

mutual

/-- The value of a document that may nest `room` arrays and objects. -/
def Doc.value : (room : Nat) → Doc → Except Fault Value
  | _, .null => .ok .null
  | _, .bool b => .ok (.bool b)
  | _, .number l => .number <$> Number.ofLiteral l
  | _, .string pieces => .string <$> pieceText pieces
  | 0, .array _ => .error .malformed
  | 0, .object _ => .error .malformed
  | room + 1, .array items => .array <$> items.values room
  | room + 1, .object members => .object <$> members.values room []
  | _, .cut f => .error f

def Items.values : (room : Nat) → Items → Except Fault (List Value)
  | _, .closed => .ok []
  | room, .item head tail => do
    let value ← head.value room
    let values ← tail.values room
    .ok (value :: values)
  | _, .cut f => .error f

/-- The members, added one by one to those `before`. -/
def Members.values : (room : Nat) → Members → (before : List (String × Value)) →
    Except Fault (List (String × Value))
  | _, .closed, before => .ok before
  | room, .member key value tail, before => do
    let key ← pieceText key
    let value ← value.value room
    tail.values room (insertMember key value before)
  | _, .cut f, _ => .error f

end

/-- The value of a document where a number, a text, a truth value or nothing is expected. -/
def Doc.scalar : Doc → Except Fault Value
  | .array _ => .error .unexpected
  | .object _ => .error .unexpected
  | d => d.value 0

/-! ### Documents of values -/

def Doc.text (s : String) : Doc := .string (textPieces s)

mutual

def Value.doc : Value → Doc
  | .null => .null
  | .bool b => .bool b
  | .number n => .number n.literal
  | .string s => .text s
  | .array items => .array (itemDocs items)
  | .object members => .object (memberDocs members)

def itemDocs : List Value → Items
  | [] => .closed
  | v :: vs => .item v.doc (itemDocs vs)

def memberDocs : List (String × Value) → Members
  | [] => .closed
  | (key, v) :: rest => .member (textPieces key) v.doc (memberDocs rest)

end

/-- Whether a text has only spaces left; anything else behind a document is malformed. -/
def endOfText (bs : Bytes) : Except Fault Unit :=
  match skipSpaces bs with
  | [] => .ok ()
  | _ => .error .malformed

/-- What a text means that holds one document, with `read` for the meaning of the document. -/
def readText (read : Doc → Except Fault α) (bs : Bytes) : Except Fault α := do
  let (doc, after) := Doc.read bs
  let a ← read doc
  let rest ← after
  endOfText rest
  .ok a

/-- The value that a text holds. -/
def Value.ofText (bs : Bytes) : Except Fault Value := readText (Doc.value depthLimit) bs

end FrameStream.Json
