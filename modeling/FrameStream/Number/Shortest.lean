import FrameStream.Number.Binary

/-!
# Shortest decimals

`Finite.shortest` gives a decimal with as few digits as possible among those that round back to the number; of
two such decimals it takes the nearer one, and of two equally near ones the one with the even last digit.  On each
grid of decimals only the two neighbours of the number are looked at: if any decimal of the grid rounds to it, one
of its neighbours does.
-/

namespace FrameStream

namespace Finite

variable {F : FloatFormat}

/-- The decimal rounds to the number. -/
def isRoundingOf (x : Finite F) (d : Decimal) : Bool := d.round F x.negative == .finite x

/-- The decimal of at most `n` digits nearest to a number that is not zero, if it or its neighbour on the other
side rounds to the number. -/
def withDigits? (x : Finite F) (n : Nat) : Option Decimal :=
  let place := x.magnitude.log10 - ((n : Int) - 1)
  let scaled := x.magnitude.scale 10 place
  let low := scaled.num / scaled.den
  let twice := 2 * (scaled.num % scaled.den)
  let below : Decimal := ⟨low, place⟩
  let above : Decimal := if low + 1 = Nat.pow 10 n then ⟨Nat.pow 10 (n - 1), place + 1⟩ else ⟨low + 1, place⟩
  match x.isRoundingOf below, x.isRoundingOf above with
  | true, true =>
    if twice < scaled.den ∨ (twice = scaled.den ∧ low % 2 = 0) then some below else some above
  | true, false => some below
  | false, true => some above
  | false, false => none

/-- All digits of the number. -/
def exactDecimal (x : Finite F) : Decimal :=
  if 0 ≤ x.exponent then ⟨x.mantissa * Nat.pow 2 x.exponent.toNat, 0⟩
  else ⟨x.mantissa * Nat.pow 5 (-x.exponent).toNat, x.exponent⟩

/-- The shortest decimal that rounds to the number.  Seventeen digits are enough for the formats in use; the exact
decimal stands in where they were not. -/
def shortest (x : Finite F) : Decimal :=
  if x.mantissa = 0 then ⟨0, 0⟩
  else ((List.range 17).findSome? fun n => x.withDigits? (n + 1)).getD x.exactDecimal

end Finite

end FrameStream
