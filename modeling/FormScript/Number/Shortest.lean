/-
The shortest decimal of a positive binary64 number: of all decimals that
round to it, those with the fewest digits, and of these the nearest one.

A decimal rounds to `m * 2 ^ q` when it lies in the interval between the
midpoints to the two neighbours, ends included when `m` is even. For one
digit, two digits and so on, the two decimals of that many digits on either
side of the number are tried; the first count with a hit wins. All of it is
exact arithmetic on whole numbers.
-/
import FormScript.Number.Binary64

namespace FormScript

/-- The positive decimal `digits * 10 ^ exponent`. -/
structure Decimal where
  digits : Nat
  exponent : Int
deriving DecidableEq

namespace Decimal

/-- The number of decimal digits of a whole number, at least one. -/
def width (n : Nat) : Nat := (Nat.toDigits 10 n).length

/-- A positive rational interval around a number, the three with one common
denominator. -/
structure Interval where
  low : Nat
  middle : Nat
  high : Nat
  den : Nat
  /-- Whether the two ends belong to the interval. -/
  closed : Bool

/-- The interval of the reals that round to `significand * 2 ^ exponent`. The
gap below a power of two is half the gap above it. -/
def Interval.around (significand : Nat) (exponent : Int) : Interval :=
  let powerOfTwo := significand = Nat.pow 2 Binary64.fractionBits ∧ Binary64.minExponent < exponent
  let low := if powerOfTwo then 4 * significand - 1 else 4 * significand - 2
  let scale := Nat.pow 2 (exponent - 2).toNat
  { low := low * scale
    middle := 4 * significand * scale
    high := (4 * significand + 2) * scale
    den := Nat.pow 2 (2 - exponent).toNat
    closed := significand % 2 = 0 }

/-- The position of the decimal point: the `k` with `10 ^ (k - 1) ≤ middle < 10 ^ k`. -/
def Interval.point (i : Interval) : Int :=
  let k : Int := (width i.middle : Int) - (width i.den : Int)
  if i.den * Nat.pow 10 k.toNat ≤ i.middle * Nat.pow 10 (-k).toNat then k + 1 else k

/-- Whether `c / unit` lies in an interval, all its numbers being scaled
by `scale`. -/
def Interval.holds (i : Interval) (c unit scale : Nat) : Bool :=
  let x := c * unit * i.den
  if i.closed then i.low * scale ≤ x && x ≤ i.high * scale
  else i.low * scale < x && x < i.high * scale

/-- The decimal of `count` digits nearest to the middle among those in the
interval, if there is one; of two equally near ones the even one. -/
def Interval.best? (i : Interval) (count : Nat) : Option Decimal :=
  let exponent := i.point - count
  let unit := Nat.pow 10 exponent.toNat
  let scale := Nat.pow 10 (-exponent).toNat
  let below := i.middle * scale / (unit * i.den)
  let rest := i.middle * scale % (unit * i.den)
  let above := below + 1
  match i.holds below unit scale, i.holds above unit scale with
  | true, true =>
    if 2 * rest < unit * i.den ∨ (2 * rest = unit * i.den ∧ below % 2 = 0) then
      some ⟨below, exponent⟩
    else some ⟨above, exponent⟩
  | true, false => some ⟨below, exponent⟩
  | false, true => some ⟨above, exponent⟩
  | false, false => none

/-- The most digits a binary64 number ever needs. -/
def maxDigits : Nat := 17

/-- The first decimal found while trying `count` digits, then one more, at
most `left` times. -/
def Interval.search (i : Interval) : (left count : Nat) → Decimal
  | 0, count => ⟨i.middle / i.den, count⟩
  | left + 1, count => (i.best? count).getD (i.search left (count + 1))

/-- The same decimal without trailing zeros. -/
def trim (d : Decimal) : Decimal :=
  let zeros := ((Nat.toDigits 10 d.digits).reverse.takeWhile (· == '0')).length
  ⟨d.digits / Nat.pow 10 zeros, d.exponent + zeros⟩

/-- The shortest decimal that rounds to the positive number
`significand * 2 ^ exponent`. -/
def shortest (significand : Nat) (exponent : Int) : Decimal :=
  ((Interval.around significand exponent).search maxDigits 1).trim

end Decimal

end FormScript
