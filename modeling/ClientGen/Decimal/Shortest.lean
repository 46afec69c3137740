import ClientGen.Decimal.Binary64

/-!
# The shortest decimal of a binary64 number

The decimal with the fewest digits among those that round to a given number, and of these the one
nearest to it.

## Main definitions

* `Binary64.shortest` — the digits of that decimal and the power of ten they are multiplied by.
* `Binary64.toText` — the number as documents write it: positional notation while the leading
  digit stands for `10 ^ -5` to `10 ^ 15`, scientific notation otherwise.

## Implementation notes

The numbers that round to `mantissa * 2 ^ exponent` form an interval, which includes its ends iff
the mantissa is even. For one, two, … digits the two neighbours of the number on that decimal
grid are tested; if any point of a grid lies in the interval, so does one of these neighbours.
Seventeen digits always suffice.
-/

set_option autoImplicit false

namespace ClientGen.Binary64

/-- The decimals that round to a number, as fractions over one denominator. -/
structure Interval where
  /-- The number itself. -/
  value : Nat
  /-- The lower end. -/
  low : Nat
  /-- The upper end. -/
  high : Nat
  /-- The common denominator. -/
  den : Nat
  /-- Whether the ends belong to the interval. -/
  closed : Bool

/-- The interval of the positive decimals that round to the magnitude of a number. Below a power
of two the spacing of the format is halved. -/
def interval (x : Binary64) : Interval :=
  let narrow := x.mantissa = Nat.pow 2 52 ∧ minExponent < x.exponent
  let value := 4 * x.mantissa
  let low := if narrow then value - 1 else value - 2
  let high := value + 2
  let shift := x.exponent - 2
  let closed := x.mantissa % 2 = 0
  if 0 ≤ shift then
    let factor := Nat.pow 2 shift.toNat
    ⟨value * factor, low * factor, high * factor, 1, closed⟩
  else ⟨value, low, high, Nat.pow 2 (-shift).toNat, closed⟩

namespace Interval

/-- Whether `digits * 10 ^ scale` lies in the interval. -/
def contains (i : Interval) (digits : Nat) (scale : Int) : Bool :=
  let num := if 0 ≤ scale then digits * Nat.pow 10 scale.toNat * i.den else digits * i.den
  let unit := if 0 ≤ scale then 1 else Nat.pow 10 (-scale).toNat
  if i.closed then i.low * unit ≤ num && num ≤ i.high * unit
  else i.low * unit < num && num < i.high * unit

/-- The value divided by `10 ^ scale`, as numerator and denominator. -/
def scaled (i : Interval) (scale : Int) : Nat × Nat :=
  if 0 ≤ scale then (i.value, i.den * Nat.pow 10 scale.toNat)
  else (i.value * Nat.pow 10 (-scale).toNat, i.den)

/-- The point of the grid `10 ^ scale` that lies in the interval and is nearest to the value; a
tie goes to the even point. -/
def nearest? (i : Interval) (scale : Int) : Option Nat :=
  let (num, den) := i.scaled scale
  let below := num / den
  match i.contains below scale && below ≠ 0, i.contains (below + 1) scale with
  | true, true => some (roundQuotient num den)
  | true, false => some below
  | false, true => some (below + 1)
  | false, false => none

end Interval

/-- The greatest power of ten that is at most the value of an interval, found by counting down
from `guess`. -/
def floorLog10 (i : Interval) : Nat → Int → Int
  | 0, guess => guess
  | steps + 1, guess =>
    let (num, den) := i.scaled guess
    if den ≤ num then guess else floorLog10 i steps (guess - 1)

/-- The first grid, from coarse to fine, with a point in the interval. -/
def firstGrid (i : Interval) : Nat → Int → Nat × Int
  | 0, scale => ((i.nearest? scale).getD 0, scale)
  | steps + 1, scale =>
    match i.nearest? scale with
    | some digits => (digits, scale)
    | none => firstGrid i steps (scale - 1)

/-- The digits without the zeros that end them, and the power of ten that makes up for them. -/
def dropZeros : Nat → Nat × Int → Nat × Int
  | 0, result => result
  | steps + 1, (digits, scale) =>
    if digits % 10 = 0 ∧ digits ≠ 0 then dropZeros steps (digits / 10, scale + 1)
    else (digits, scale)

/-- The digits of the shortest decimal that rounds to a number other than zero, and the power of
ten they are multiplied by. -/
def shortest (x : Binary64) : Nat × Int :=
  let i := x.interval
  let guess := (floorLog2 i.value i.den) * 30103 / 100000 + 1
  dropZeros 17 (firstGrid i 17 (floorLog10 i 3 guess))

/-! ## Notation -/

/-- The digits of a natural number. -/
def digitsOf (n : Nat) : List Char := Nat.toDigits 10 n

/-- Digits with a decimal point, or a point and a zero, so that `point` of them stand before the
point. -/
def positional (digits : List Char) (point : Int) : List Char :=
  if point ≤ 0 then
    '0' :: '.' :: (List.replicate (-point).toNat '0' ++ digits)
  else if digits.length ≤ point.toNat then
    digits ++ List.replicate (point.toNat - digits.length) '0' ++ ['.', '0']
  else digits.take point.toNat ++ '.' :: digits.drop point.toNat

/-- Digits with the first one before the point, and the power of ten they are multiplied by. -/
def scientific (digits : List Char) (power : Int) : List Char :=
  let fraction := if digits.length ≤ 1 then [] else '.' :: digits.drop 1
  let sign := if power < 0 then '-' else '+'
  digits.take 1 ++ fraction ++ 'e' :: sign :: digitsOf power.natAbs

/-- The number as documents write it. -/
def toText (x : Binary64) : String :=
  let sign := if x.negative then ['-'] else []
  let body :=
    if x.isZero then ['0', '.', '0']
    else
      let (digits, scale) := x.shortest
      let digits := digitsOf digits
      let point := scale + digits.length
      if -5 < point ∧ point ≤ 16 then positional digits point
      else scientific digits (point - 1)
  String.ofList (sign ++ body)

end ClientGen.Binary64
