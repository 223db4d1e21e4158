import FrameStream.Json.Basic
import FrameStream.Number.Numeral

/-!
# Reading JSON documents

`Doc.read` reads one document from the front of a text, as far as it goes: where the text breaks off or goes wrong
the document is cut, with the fault found there, and nothing after that place is looked at.  Only the grammar is
checked here; what a string or a number stands for is decided when the document is given a meaning.
-/

namespace FrameStream.Json

/-! ### Octets of the grammar -/

def isSpace (b : UInt8) : Bool := b == 0x20 || b == 0x09 || b == 0x0A || b == 0x0D

def isDigit (b : UInt8) : Bool := 0x30 ≤ b && b ≤ 0x39

def skipSpaces (bs : Bytes) : Bytes := bs.dropWhile isSpace

/-- The rest of the text behind an expected word. -/
def expect : (word : Bytes) → Bytes → Except Fault Bytes
  | [], bs => .ok bs
  | _ :: _, [] => .error .truncated
  | e :: es, b :: bs => if b = e then expect es bs else .error .malformed

/-! ### Numbers -/

/-- The numeral `start` with digits behind it. -/
def extendNumeral (start : Nat) (digits : Bytes) : Nat :=
  start * Nat.pow 10 digits.length + readNumeral (digits.map fun b => b.toNat - 0x30)

/-- One or more digits. -/
def readDigits (bs : Bytes) : Except Fault (Bytes × Bytes) :=
  match bs with
  | [] => .error .truncated
  | b :: _ => if isDigit b then .ok (bs.takeWhile isDigit, bs.dropWhile isDigit) else .error .malformed

/-- The digits before the point; a zero stands alone. -/
def readWhole (bs : Bytes) : Except Fault (Nat × Bytes) := do
  let (digits, rest) ← readDigits bs
  match digits with
  | 0x30 :: _ :: _ => .error .malformed
  | _ => .ok (extendNumeral 0 digits, rest)

/-- The digits behind the point, if there is one: all digits so far, and how many of them are behind the point. -/
def readFraction (whole : Nat) (bs : Bytes) : Except Fault ((Nat × Nat) × Bytes) :=
  match bs with
  | 0x2E :: bs => do
    let (digits, rest) ← readDigits bs
    .ok ((extendNumeral whole digits, digits.length), rest)
  | _ => .ok ((whole, 0), bs)

/-- The power of ten, if there is one. -/
def readPower (bs : Bytes) : Except Fault (Option Int × Bytes) :=
  match bs with
  | b :: bs' =>
    if b = 0x65 ∨ b = 0x45 then
      let (negative, bs'') := match bs' with
        | 0x2B :: r => (false, r)
        | 0x2D :: r => (true, r)
        | r => (false, r)
      do
        let (digits, rest) ← readDigits bs''
        let e : Int := extendNumeral 0 digits
        .ok (some (if negative then -e else e), rest)
    else .ok (none, bs)
  | [] => .ok (none, bs)

/-- A number behind its sign. -/
def readNumber (negative : Bool) (bs : Bytes) : Except Fault (Literal × Bytes) := do
  let (whole, bs) ← readWhole bs
  let ((digits, places), bs) ← readFraction whole bs
  let (power, bs) ← readPower bs
  .ok ({ negative, digits, places, power }, bs)

/-! ### Strings -/

/-- The value of a hexadecimal digit. -/
def hexDigit? (b : UInt8) : Option Nat :=
  if isDigit b then some (b.toNat - 0x30)
  else if 0x61 ≤ b ∧ b ≤ 0x66 then some (b.toNat - 0x61 + 10)
  else if 0x41 ≤ b ∧ b ≤ 0x46 then some (b.toNat - 0x41 + 10)
  else none

/-- The unit that four hexadecimal digits write. -/
def hexUnit? (a b c d : UInt8) : Option UInt16 := do
  let a ← hexDigit? a
  let b ← hexDigit? b
  let c ← hexDigit? c
  let d ← hexDigit? d
  some (UInt16.ofNat (((a * 16 + b) * 16 + c) * 16 + d))

/-- The unit that a letter or sign behind a backslash stands for. -/
def shortUnit? (b : UInt8) : Option UInt16 :=
  if b = 0x22 then some 0x22
  else if b = 0x5C then some 0x5C
  else if b = 0x2F then some 0x2F
  else if b = 0x62 then some 0x08
  else if b = 0x66 then some 0x0C
  else if b = 0x6E then some 0x0A
  else if b = 0x72 then some 0x0D
  else if b = 0x74 then some 0x09
  else none

def isHighSurrogate (u : UInt16) : Bool := 0xD800 ≤ u && u ≤ 0xDBFF

def isLowSurrogate (u : UInt16) : Bool := 0xDC00 ≤ u && u ≤ 0xDFFF

/-- No surrogate lacks its partner.  A high surrogate at the end lacks it unless the rest of the string is
`pending`. -/
def surrogatesPaired (pending : Bool) : List Piece → Bool
  | [] => true
  | .octet _ :: ps => surrogatesPaired pending ps
  | .unit u :: ps =>
    if isLowSurrogate u then false
    else if isHighSurrogate u then
      match ps with
      | [] => pending
      | .unit v :: ps => isLowSurrogate v && surrogatesPaired pending ps
      | .octet _ :: _ => false
    else surrogatesPaired pending ps

/-- The pieces of a string behind its opening quote, and the text behind the closing one. -/
def readPieces : Bytes → List Piece × Except Fault Bytes
  | [] => ([], .error .truncated)
  | b :: bs =>
    if b = 0x22 then ([], .ok bs)
    else if b = 0x5C then
      match bs with
      | [] => ([], .error .truncated)
      | c :: cs =>
        if c = 0x75 then
          match cs with
          | h₁ :: h₂ :: h₃ :: h₄ :: rest =>
            match hexUnit? h₁ h₂ h₃ h₄ with
            | none => ([], .error .malformed)
            | some u =>
              let (pieces, after) := readPieces rest
              (.unit u :: pieces, after)
          | _ => ([], .error .truncated)
        else
          match shortUnit? c with
          | none => ([], .error .malformed)
          | some u =>
            let (pieces, after) := readPieces cs
            (.unit u :: pieces, after)
    else if b < 0x20 then ([], .error .malformed)
    else
      let (pieces, after) := readPieces bs
      (.octet b :: pieces, after)

/-- A string behind its opening quote.  In a string that breaks off, a surrogate known to lack its partner is the
earlier fault. -/
def readString (bs : Bytes) : Except Fault (List Piece × Bytes) :=
  match readPieces bs with
  | (pieces, .ok rest) => .ok (pieces, rest)
  | (pieces, .error f) => .error (if surrogatesPaired true pieces then f else .malformed)

/-! ### Documents -/

/-- What was read, and the text behind it or the fault that stopped the reading. -/
abbrev Progress (α : Type) := α × Except Fault Bytes

def Progress.ofExcept (wrap : α → Doc) : Except Fault (α × Bytes) → Progress Doc
  | .ok (a, rest) => (wrap a, .ok rest)
  | .error f => (.cut f, .error f)

mutual

/-- One document.  Each step of the reading takes an octet or fuel, so that fuel beyond the length of the text is
never used up. -/
def readDoc : (fuel : Nat) → Bytes → Progress Doc
  | 0, _ => (.cut .truncated, .error .truncated)
  | fuel + 1, bs =>
    match skipSpaces bs with
    | [] => (.cut .truncated, .error .truncated)
    | b :: rest =>
      if b = 0x22 then Progress.ofExcept Doc.string (readString rest)
      else if b = 0x5B then
        let (items, after) := readItems fuel true rest
        (.array items, after)
      else if b = 0x7B then
        let (members, after) := readMembers fuel true rest
        (.object members, after)
      else if b = 0x2D then Progress.ofExcept Doc.number (readNumber true rest)
      else if isDigit b then Progress.ofExcept Doc.number (readNumber false (b :: rest))
      else if b = 0x6E then
        Progress.ofExcept (fun _ => .null) ((expect [0x75, 0x6C, 0x6C] rest).map ((), ·))
      else if b = 0x74 then
        Progress.ofExcept (fun _ => .bool true) ((expect [0x72, 0x75, 0x65] rest).map ((), ·))
      else if b = 0x66 then
        Progress.ofExcept (fun _ => .bool false) ((expect [0x61, 0x6C, 0x73, 0x65] rest).map ((), ·))
      else (.cut .malformed, .error .malformed)

/-- The items of an array from behind its bracket (`start`) or behind an item. -/
def readItems : (fuel : Nat) → (start : Bool) → Bytes → Progress Items
  | 0, _, _ => (.cut .truncated, .error .truncated)
  | fuel + 1, start, bs =>
    match skipSpaces bs with
    | [] => (.cut .truncated, .error .truncated)
    | b :: rest =>
      if b = 0x5D then (.closed, .ok rest)
      else if start then readItem fuel (b :: rest)
      else if b = 0x2C then readItem fuel rest
      else (.cut .malformed, .error .malformed)

/-- An item and those behind it. -/
def readItem : (fuel : Nat) → Bytes → Progress Items
  | 0, _ => (.cut .truncated, .error .truncated)
  | fuel + 1, bs =>
    match readDoc fuel bs with
    | (doc, .error f) => (.item doc (.cut f), .error f)
    | (doc, .ok rest) =>
      let (tail, after) := readItems fuel false rest
      (.item doc tail, after)

/-- The members of an object from behind its brace (`start`) or behind a member. -/
def readMembers : (fuel : Nat) → (start : Bool) → Bytes → Progress Members
  | 0, _, _ => (.cut .truncated, .error .truncated)
  | fuel + 1, start, bs =>
    match skipSpaces bs with
    | [] => (.cut .truncated, .error .truncated)
    | b :: rest =>
      if b = 0x7D then (.closed, .ok rest)
      else if start then readMember fuel (b :: rest)
      else if b = 0x2C then readMember fuel rest
      else (.cut .malformed, .error .malformed)

/-- A member and those behind it. -/
def readMember : (fuel : Nat) → Bytes → Progress Members
  | 0, _ => (.cut .truncated, .error .truncated)
  | fuel + 1, bs =>
    match skipSpaces bs with
    | [] => (.cut .truncated, .error .truncated)
    | b :: rest =>
      if b = 0x22 then
        match readString rest with
        | .error f => (.cut f, .error f)
        | .ok (key, rest) =>
          match skipSpaces rest with
          | [] => (.member key (.cut .truncated) (.cut .truncated), .error .truncated)
          | c :: rest =>
            if c = 0x3A then
              match readDoc fuel rest with
              | (doc, .error f) => (.member key doc (.cut f), .error f)
              | (doc, .ok rest) =>
                let (tail, after) := readMembers fuel false rest
                (.member key doc tail, after)
            else (.member key (.cut .malformed) (.cut .malformed), .error .malformed)
      else (.cut .malformed, .error .malformed)

end

/-- Fuel enough for any document at the front of a text. -/
def readingFuel (bs : Bytes) : Nat := 3 * bs.length + 3

/-- The document at the front of a text, and the text behind it. -/
def Doc.read (bs : Bytes) : Progress Doc := readDoc (readingFuel bs) bs

end FrameStream.Json
