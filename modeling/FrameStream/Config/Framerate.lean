import FrameStream.Number.Binary
import FrameStream.Number.Numeral
import FrameStream.Text.Blank

/-!
# Framerates

A framerate is a fraction of two integers, an integer, or a decimal number; blanks around any of them do not
count.  A fraction must not have zero below the line, and a decimal must be finite in double precision.  The power
of ten of a decimal is read only as far as it stays small (`Framerate.powerOfDigits`).
-/

namespace FrameStream

namespace Framerate

/-- A sign, if there is one, and what follows it. -/
def splitSign : List Char → Bool × List Char
  | '-' :: cs => (true, cs)
  | '+' :: cs => (false, cs)
  | cs => (false, cs)

/-- An integer of 64 bits. -/
def integer? (cs : List Char) : Option Int :=
  let (negative, digits) := splitSign cs
  if digits = [] ∨ !digits.all Char.isDigit then none
  else
    let n : Int := readDigitChars digits
    let i := if negative then -n else n
    if -0x8000000000000000 ≤ i ∧ i < 0x8000000000000000 then some i else none

/-- The power that digits stand for.  Once it has come to `0x10000`, far beyond the orders of magnitude of double
precision, the digits that follow are passed over. -/
def powerOfDigits (digits : List Char) : Nat :=
  digits.foldl (fun n c => if n < 0x10000 then 10 * n + (c.toNat - '0'.toNat) else n) 0

/-- The power of ten behind a decimal; nothing stands for the power zero. -/
def power? : List Char → Option Int
  | [] => some 0
  | c :: cs =>
    if c = 'e' ∨ c = 'E' then
      let (negative, digits) := splitSign cs
      if digits = [] ∨ !digits.all Char.isDigit then none
      else
        let n : Int := powerOfDigits digits
        some (if negative then -n else n)
    else none

/-- The digits behind a point, and what follows them. -/
def splitPlaces : List Char → List Char × List Char
  | '.' :: cs => (cs.takeWhile Char.isDigit, cs.dropWhile Char.isDigit)
  | cs => ([], cs)

/-- A decimal number: digits with a point anywhere or nowhere, and perhaps a power of ten. -/
def decimal? (cs : List Char) : Option (Bool × Decimal) :=
  let (negative, cs) := splitSign cs
  let whole := cs.takeWhile Char.isDigit
  let (places, rest) := splitPlaces (cs.dropWhile Char.isDigit)
  if whole ++ places = [] then none
  else (power? rest).map fun e =>
    (negative, ⟨readDigitChars (whole ++ places), e - places.length⟩)

/-- A decimal number that double precision can hold. -/
def isFiniteDecimal (cs : List Char) : Bool :=
  match decimal? cs with
  | none => false
  | some (negative, d) =>
    match d.round double negative with
    | .finite _ => true
    | .infinite _ => false

/-- The two sides of the first slash. -/
def splitSlash : List Char → Option (List Char × List Char)
  | [] => none
  | '/' :: cs => some ([], cs)
  | c :: cs => (splitSlash cs).map fun (num, den) => (c :: num, den)

end Framerate

open Framerate in
/-- Whether a text is a framerate. -/
def isFramerate (text : String) : Bool :=
  let cs := trimBlanks text.toList
  match splitSlash cs with
  | some (num, den) =>
    (integer? (trimBlanks num)).isSome &&
      match integer? (trimBlanks den) with
      | some d => d != 0
      | none => false
  | none => (integer? cs).isSome || isFiniteDecimal cs

end FrameStream
