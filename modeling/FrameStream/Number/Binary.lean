/-!
# Binary floating-point numbers

A format has a precision and a range of exponents; its finite numbers are `± mantissa · 2 ^ exponent`, each in one
canonical form, and beyond them lies infinity.  A non-negative ratio is rounded to the nearest number of a format,
a tie going to the even mantissa; so are products, quotients, and decimals, as the ratios they stand for.
-/

namespace FrameStream

/-- The mantissas of a format have `precision` bits, its exponents run from `minExponent` to `maxExponent`. -/
structure FloatFormat where
  precision : Nat
  minExponent : Int
  maxExponent : Int

def double : FloatFormat := ⟨53, -1074, 971⟩

def single : FloatFormat := ⟨24, -149, 104⟩

/-- The one form of a number: the mantissa has all its bits, unless the exponent is the least. -/
def FloatFormat.Canonical (F : FloatFormat) (mantissa : Nat) (exponent : Int) : Prop :=
  mantissa < Nat.pow 2 F.precision ∧ F.minExponent ≤ exponent ∧ exponent ≤ F.maxExponent ∧
    (Nat.pow 2 (F.precision - 1) ≤ mantissa ∨ exponent = F.minExponent)

instance (F : FloatFormat) (m : Nat) (e : Int) : Decidable (F.Canonical m e) :=
  inferInstanceAs (Decidable (_ ∧ _ ∧ _ ∧ (_ ∨ _)))

/-- A finite number of the format; zero has two signs. -/
structure Finite (F : FloatFormat) where
  negative : Bool
  mantissa : Nat
  exponent : Int
  canonical : F.Canonical mantissa exponent
  deriving DecidableEq

/-- A number of the format. -/
inductive Binary (F : FloatFormat) where
  | finite (x : Finite F)
  | infinite (negative : Bool)
  deriving DecidableEq

/-! ### Ratios -/

/-- The non-negative number `num / den`. -/
structure Ratio where
  num : Nat
  den : Nat

namespace Ratio

/-- The ratio divided by `base ^ e`. -/
def scale (r : Ratio) (base : Nat) (e : Int) : Ratio :=
  if 0 ≤ e then ⟨r.num, r.den * base.pow e.toNat⟩ else ⟨r.num * base.pow (-e).toNat, r.den⟩

/-- The nearest integer; a half goes to the even neighbour. -/
def nearest (r : Ratio) : Nat :=
  let low := r.num / r.den
  let twice := 2 * (r.num % r.den)
  if twice < r.den then low
  else if r.den < twice then low + 1
  else low + low % 2

/-- The greatest `e` with `2 ^ e` at most the ratio, for a ratio that is not zero. -/
def log2 (r : Ratio) : Int :=
  let e : Int := (r.num.log2 : Int) - r.den.log2
  let scaled := r.scale 2 e
  if scaled.den ≤ scaled.num then e else e - 1

/-- The greatest `e` with `10 ^ e` at most the ratio, for a ratio that is not zero. -/
def log10 (r : Ratio) : Int :=
  if r.den ≤ r.num then (Nat.toDigits 10 (r.num / r.den)).length - 1
  else -(Nat.toDigits 10 ((r.den - 1) / r.num)).length

end Ratio

/-! ### Rounding -/

/-- The number of the format nearest to a ratio, with the given sign; a tie goes to the even mantissa, and what is
beyond the greatest exponent becomes infinite. -/
def Binary.ofRatio (F : FloatFormat) (negative : Bool) (r : Ratio) : Binary F :=
  let exponent :=
    if r.num = 0 then F.minExponent else max (r.log2 - ((F.precision : Int) - 1)) F.minExponent
  let mantissa := (r.scale 2 exponent).nearest
  let (mantissa, exponent) :=
    if mantissa = Nat.pow 2 F.precision then (Nat.pow 2 (F.precision - 1), exponent + 1)
    else (mantissa, exponent)
  if h : F.Canonical mantissa exponent then .finite ⟨negative, mantissa, exponent, h⟩
  else .infinite negative

/-- The number of the format nearest to an integer. -/
def Binary.ofInt (F : FloatFormat) (i : Int) : Binary F := ofRatio F (decide (i < 0)) ⟨i.natAbs, 1⟩

namespace Finite

variable {F : FloatFormat}

/-- The absolute value. -/
def magnitude (x : Finite F) : Ratio := (⟨x.mantissa, 1⟩ : Ratio).scale 2 (-x.exponent)

/-- The nearest number of another format. -/
def convert (G : FloatFormat) (x : Finite F) : Binary G := Binary.ofRatio G x.negative x.magnitude

/-- The number with the given sign. -/
def signed (negative : Bool) (x : Finite F) : Finite F := { x with negative }

/-- The nearest number to the product. -/
def times (x y : Finite F) : Binary F :=
  Binary.ofRatio F (x.negative != y.negative)
    ⟨x.magnitude.num * y.magnitude.num, x.magnitude.den * y.magnitude.den⟩

/-- The nearest number to the quotient by a number that is not zero. -/
def dividedBy (x y : Finite F) : Binary F :=
  Binary.ofRatio F (x.negative != y.negative)
    ⟨x.magnitude.num * y.magnitude.den, x.magnitude.den * y.magnitude.num⟩

end Finite

/-! ### Decimals -/

/-- The non-negative number `digits · 10 ^ exponent`. -/
structure Decimal where
  digits : Nat
  exponent : Int
  deriving DecidableEq

/-- The number of the format nearest to a decimal, with the given sign.  A decimal so large or so small that its
order of magnitude decides is not multiplied out: a power of ten lies between those of eight and sixteen. -/
def Decimal.round (F : FloatFormat) (negative : Bool) (d : Decimal) : Binary F :=
  let bits : Int := d.digits.log2
  if d.digits = 0 then .ofRatio F negative ⟨0, 1⟩
  else if 0 ≤ d.exponent ∧ F.precision + F.maxExponent ≤ bits + 3 * d.exponent then .infinite negative
  else if d.exponent < 0 ∧ bits + 1 + 3 * d.exponent < F.minExponent then .ofRatio F negative ⟨0, 1⟩
  else .ofRatio F negative ((⟨d.digits, 1⟩ : Ratio).scale 10 (-d.exponent))

end FrameStream
