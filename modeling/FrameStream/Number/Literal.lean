import FrameStream.Number.Shortest
import FrameStream.Text.Utf8

/-!
# Number literals

A literal is a number as it is written: a sign, digits with or without a point, and perhaps a power of ten.
`Literal.render` writes it; `Literal.ofFinite` chooses the literal for a floating-point number, positional between
two orders of magnitude and with a power of ten outside them.  `Literal.kept` is what is left of a literal for a reader
that has 64 bits for the digits.
-/

namespace FrameStream

/-- A number as it is written: of its `digits`, read as one numeral, the last `places` stand behind the point. -/
structure Literal where
  negative : Bool
  digits : Nat
  places : Nat := 0
  power : Option Int := none
  deriving DecidableEq

/-- A literal without point and power stands for an integer. -/
def Literal.isWhole (l : Literal) : Bool := l.places == 0 && l.power.isNone

/-- The absolute value of the literal. -/
def Literal.decimal (l : Literal) : Decimal := ⟨l.digits, l.power.getD 0 - l.places⟩

/-! ### Written form -/

def octets (cs : List Char) : Bytes := cs.map Char.toUInt8

/-- Exactly `width` decimal digits, the last of the numeral `n`. -/
def fixedDigits (width n : Nat) : List Char :=
  match width with
  | 0 => []
  | width + 1 => fixedDigits width (n / 10) ++ [Nat.digitChar (n % 10)]

/-- The literal in characters; a power of ten always has a sign. -/
def Literal.characters (l : Literal) : List Char :=
  (if l.negative then ['-'] else []) ++
    Nat.toDigits 10 (l.digits / Nat.pow 10 l.places) ++
    (if l.places = 0 then [] else '.' :: fixedDigits l.places (l.digits % Nat.pow 10 l.places)) ++
    match l.power with
    | none => []
    | some e => 'e' :: (if e < 0 then '-' else '+') :: Nat.toDigits 10 e.natAbs

def Literal.render (l : Literal) : Bytes := octets l.characters

/-! ### Digits in 64 bits -/

/-- The numeral `n` with digits behind it, up to the first that 64 bits do not hold, and the digits from there. -/
def keepDigits : (n : Nat) → List Char → Nat × List Char
  | n, [] => (n, [])
  | n, c :: cs =>
    let longer := 10 * n + (c.toNat - '0'.toNat)
    if longer < 0x10000000000000000 then keepDigits longer cs else (n, c :: cs)

/-- The literal with the digits that 64 bits hold.  Each digit lost in front of the point counts as a zero; those lost
behind it do not count. -/
def Literal.kept (l : Literal) : Decimal :=
  let (whole, lost) := keepDigits 0 (Nat.toDigits 10 (l.digits / Nat.pow 10 l.places))
  let (digits, ignored) := keepDigits whole (fixedDigits l.places (l.digits % Nat.pow 10 l.places))
  ⟨digits, l.power.getD 0 + lost.length - (l.places - ignored.length : Nat)⟩

/-! ### Literals for numbers -/

def Literal.ofInt (i : Int) : Literal := { negative := decide (i < 0), digits := i.natAbs }

/-- The orders of magnitude, by the power of ten of the first digit, that are written without a power. -/
structure Positional where
  lowest : Int
  highest : Int

/-- Numbers of double precision are positional from `0.00001` to below `10 ^ 16`. -/
def doublePositional : Positional := ⟨-5, 15⟩

/-- Numbers of single precision are positional from `0.000001` to below `10 ^ 13`. -/
def singlePositional : Positional := ⟨-6, 12⟩

/-- The literal of the shortest decimal.  A positional literal has a point and a digit behind it; one with a power
of ten has one digit before the point, and a point only if more digits follow. -/
def Literal.ofFinite (style : Positional) (x : Finite F) : Literal :=
  let d := x.shortest
  let more := (Nat.toDigits 10 d.digits).length - 1
  let order := d.exponent + more
  if d.digits = 0 then { negative := x.negative, digits := 0, places := 1 }
  else if style.lowest ≤ order ∧ order ≤ style.highest then
    if 0 ≤ d.exponent then
      { negative := x.negative, digits := d.digits * Nat.pow 10 (d.exponent.toNat + 1), places := 1 }
    else { negative := x.negative, digits := d.digits, places := (-d.exponent).toNat }
  else { negative := x.negative, digits := d.digits, places := more, power := some order }

end FrameStream
