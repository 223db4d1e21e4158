/-!
# Octets and UTF-8

Texts travel as octets.  `Utf8.encode` writes a text, and `Utf8.scan` goes over octets one at a time and splits
them into characters and *stretches* that are none: a stretch is as long as it can be while some character
still begins with it.  Octets without a stretch are a text (`Utf8.decode?`); everywhere else a stretch is shown
as one replacement character (`Utf8.decodeLossy`).
-/

namespace FrameStream

/-- A sequence of octets. -/
abbrev Bytes := List UInt8

namespace Utf8

/-- The octets of a text. -/
def encode (s : String) : Bytes := s.toList.flatMap String.utf8EncodeChar

/-! ### One octet at a time -/

/-- What octets consist of: characters, and stretches of octets that are no character. -/
inductive Part where
  | character (c : Char)
  | stretch (octets : Bytes)

/-- A character that has begun with `octets`: `missing` more are due, `value` collects the bits read so far, and
the next octet lies between `low` and `high`. -/
structure Begun where
  octets : Bytes
  missing : Nat
  value : Nat
  low : UInt8
  high : UInt8

/-- What the first octet of a character of several octets promises.  The bounds on the second octet keep out
overlong forms, surrogates and values above U+10FFFF. -/
def begin? (b : UInt8) : Option Begun :=
  if 0xC2 ≤ b ∧ b ≤ 0xDF then some ⟨[b], 1, b.toNat - 0xC0, 0x80, 0xBF⟩
  else if b = 0xE0 then some ⟨[b], 2, 0x0, 0xA0, 0xBF⟩
  else if b = 0xED then some ⟨[b], 2, 0xD, 0x80, 0x9F⟩
  else if 0xE1 ≤ b ∧ b ≤ 0xEF then some ⟨[b], 2, b.toNat - 0xE0, 0x80, 0xBF⟩
  else if b = 0xF0 then some ⟨[b], 3, 0x0, 0x90, 0xBF⟩
  else if b = 0xF4 then some ⟨[b], 3, 0x4, 0x80, 0x8F⟩
  else if 0xF1 ≤ b ∧ b ≤ 0xF3 then some ⟨[b], 3, b.toNat - 0xF0, 0x80, 0xBF⟩
  else none

/-- An octet between two characters: what it completes, and what it begins. -/
def first (b : UInt8) : List Part × Option Begun :=
  if b < 0x80 then ([.character (Char.ofNat b.toNat)], none)
  else match begin? b with
    | some p => ([], some p)
    | none => ([.stretch [b]], none)

/-- One octet.  An octet that does not continue the character begun ends a stretch and is looked at afresh. -/
def step : Option Begun → UInt8 → List Part × Option Begun
  | none, b => first b
  | some p, b =>
    if p.low ≤ b ∧ b ≤ p.high then
      let value := p.value * 64 + (b.toNat - 0x80)
      if p.missing ≤ 1 then ([.character (Char.ofNat value)], none)
      else ([], some ⟨p.octets ++ [b], p.missing - 1, value, 0x80, 0xBF⟩)
    else
      let (parts, next) := first b
      (.stretch p.octets :: parts, next)

/-- The parts of the octets that follow a character begun, if any. -/
def scan : Option Begun → Bytes → List Part
  | none, [] => []
  | some p, [] => [.stretch p.octets]
  | p, b :: bs =>
    let (parts, next) := step p b
    parts ++ scan next bs

/-! ### Whole texts -/

def Part.character? : Part → Option Char
  | character c => some c
  | stretch _ => none

/-- The text that the octets encode, if they are well formed. -/
def decode? (bs : Bytes) : Option String :=
  let parts := (scan none bs).map Part.character?
  if parts.all Option.isSome then some (String.ofList (parts.filterMap id)) else none

/-- The text of the octets, with U+FFFD for each stretch. -/
def decodeLossy (bs : Bytes) : String :=
  String.ofList ((scan none bs).map fun part => part.character?.getD '\uFFFD')

end Utf8

end FrameStream
