/-!
# Finite binary64 numbers

The finite numbers of the 64-bit binary floating-point format, as signs, mantissas and exponents.
All arithmetic is exact arithmetic on natural numbers followed by one rounding to the nearest
number of the format, a tie going to the even mantissa.

## Main definitions

* `Binary64` — a finite number of the format.
* `Binary64.ofRatio?` — the number nearest to a quotient.
* `Binary64.ofDecimal?` — the number nearest to a decimal.
* `Binary64.mul?`, `Binary64.div?` — rounded product and quotient.

## Implementation notes

A result that exceeds the largest finite number is `none`: the callers treat it as an error.
-/

set_option autoImplicit false

namespace ClientGen

/-- A finite binary64 number: `mantissa * 2 ^ exponent`, with a sign of its own so that zero has
two forms. The mantissa is below `2 ^ 53`, and it is at least `2 ^ 52` unless the exponent is the
least one. -/
structure Binary64 where
  /-- Whether the number carries a minus sign. -/
  negative : Bool
  /-- The mantissa. -/
  mantissa : Nat
  /-- The power of two the mantissa is multiplied by. -/
  exponent : Int
  deriving DecidableEq, Repr, Inhabited

namespace Binary64

/-- The exponent of the numbers next to zero. -/
def minExponent : Int := -1074

/-- The exponent of the largest finite numbers. -/
def maxExponent : Int := 971

/-- Zero with the given sign. -/
def zero (negative : Bool) : Binary64 := ⟨negative, 0, minExponent⟩

/-- Whether the number is one of the zeros. -/
def isZero (x : Binary64) : Bool := x.mantissa = 0

/-- Equality of values, which identifies the two zeros. -/
def sameValue (x y : Binary64) : Bool := (x.isZero && y.isZero) || x = y

/-! ## Rounding -/

/-- The natural number nearest to a quotient, a tie going to the even one. -/
def roundQuotient (num den : Nat) : Nat :=
  let whole := num / den
  let twice := 2 * (num % den)
  if twice < den || (twice = den && whole % 2 = 0) then whole else whole + 1

/-- The exponent of the greatest power of two that is at most `num / den`, both positive. -/
def floorLog2 (num den : Nat) : Int :=
  let guess : Int := (num.log2 : Int) - den.log2
  let reached :=
    if 0 ≤ guess then decide (den * Nat.pow 2 guess.toNat ≤ num)
    else decide (den ≤ num * Nat.pow 2 (-guess).toNat)
  if reached then guess else guess - 1

/-- The number nearest to `num / den` with the given sign, unless it is too large. -/
def ofRatio? (negative : Bool) (num den : Nat) : Option Binary64 :=
  if num = 0 then some (zero negative)
  else
    let exponent := max (floorLog2 num den - 52) minExponent
    let mantissa :=
      if 0 ≤ exponent then roundQuotient num (den * Nat.pow 2 exponent.toNat)
      else roundQuotient (num * Nat.pow 2 (-exponent).toNat) den
    let (mantissa, exponent) :=
      if mantissa = Nat.pow 2 53 then (Nat.pow 2 52, exponent + 1) else (mantissa, exponent)
    if exponent ≤ maxExponent then some ⟨negative, mantissa, exponent⟩ else none

/-- The number nearest to a natural number below `2 ^ 1000`. -/
def ofNat (negative : Bool) (n : Nat) : Binary64 :=
  (ofRatio? negative n 1).getD (zero negative)

/-- The number nearest to `digits * 10 ^ scale`, unless it is too large. -/
def ofDecimal? (negative : Bool) (digits : Nat) (scale : Int) : Option Binary64 :=
  let magnitude : Int := (digits.log2 : Int) * 30103 / 100000 + scale
  if digits = 0 then some (zero negative)
  else if 310 < magnitude then none
  else if magnitude < -330 then some (zero negative)
  else if 0 ≤ scale then ofRatio? negative (digits * Nat.pow 10 scale.toNat) 1
  else ofRatio? negative digits (Nat.pow 10 (-scale).toNat)

/-! ## Arithmetic -/

/-- The numerator and denominator of the magnitude of a number. -/
def toRatio (x : Binary64) : Nat × Nat :=
  if 0 ≤ x.exponent then (x.mantissa * Nat.pow 2 x.exponent.toNat, 1)
  else (x.mantissa, Nat.pow 2 (-x.exponent).toNat)

/-- The rounded product, unless it is too large. -/
def mul? (x y : Binary64) : Option Binary64 :=
  let (a, b) := x.toRatio
  let (c, d) := y.toRatio
  ofRatio? (x.negative != y.negative) (a * c) (b * d)

/-- The rounded quotient by a number that is not zero, unless it is too large. -/
def div? (x y : Binary64) : Option Binary64 :=
  let (a, b) := x.toRatio
  let (c, d) := y.toRatio
  ofRatio? (x.negative != y.negative) (a * d) (b * c)

end Binary64

end ClientGen
