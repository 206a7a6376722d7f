/-
Binary64 numbers, read exactly: a number is its 64 bits, and every finite
one is a whole number times a power of two. Nothing here rounds except
`Binary64.ofRat?`, which takes a rational to the nearest binary64 number,
a half going to the even significand, and fails where the nearest one would
be infinite.
-/

namespace FormScript

/-- A binary64 number, by its bits. -/
structure Binary64 where
  bits : UInt64
deriving DecidableEq, Inhabited

namespace Binary64

/-- What the bits of a binary64 number stand for. -/
inductive Value where
  | nan
  | infinite (negative : Bool)
  /-- The number `significand * 2 ^ exponent`, negated if so marked. -/
  | finite (negative : Bool) (significand : Nat) (exponent : Int)
deriving DecidableEq

/-- The number of fraction bits. -/
def fractionBits : Nat := 52

/-- The least exponent of a significand, that of the subnormal numbers. -/
def minExponent : Int := -1074

/-- The exponent field that marks infinities and NaNs. -/
def specialField : Nat := 2047

/-- The sign, taken from the top bit. -/
def isNegative (x : Binary64) : Bool := x.bits.toNat / Nat.pow 2 63 % 2 == 1

/-- The biased exponent field. -/
def exponentField (x : Binary64) : Nat := x.bits.toNat / Nat.pow 2 fractionBits % Nat.pow 2 11

/-- The fraction field. -/
def fractionField (x : Binary64) : Nat := x.bits.toNat % Nat.pow 2 fractionBits

/-- The exact value. A zero exponent field marks the subnormal numbers, whose
significand has no hidden bit. -/
def value (x : Binary64) : Value :=
  if x.exponentField = specialField then
    if x.fractionField = 0 then .infinite x.isNegative else .nan
  else if x.exponentField = 0 then
    .finite x.isNegative x.fractionField minExponent
  else
    .finite x.isNegative (Nat.pow 2 fractionBits + x.fractionField) (x.exponentField - 1075)

/-- The binary64 number with these fields. -/
def ofFields (negative : Bool) (exponentField fraction : Nat) : Binary64 :=
  let sign := if negative then Nat.pow 2 63 else 0
  ⟨UInt64.ofNat (sign + exponentField * Nat.pow 2 fractionBits + fraction)⟩

-- ================================================ rounding of a rational

/-- The quotient `num / den` rounded to a whole number, a half going to the
even neighbour. -/
def roundDiv (num den : Nat) : Nat :=
  let q := num / den
  let r := num % den
  if 2 * r < den then q
  else if den < 2 * r then q + 1
  else if q % 2 = 0 then q else q + 1

/-- The quotient `num / den * 2 ^ -exponent`, as a fraction of two whole
numbers. -/
def scaled (num den : Nat) (exponent : Int) : Nat × Nat :=
  match exponent with
  | .ofNat e => (num, den * Nat.pow 2 e)
  | .negSucc e => (num * Nat.pow 2 (e + 1), den)

/-- The exponent at which the positive quotient `num / den` has a significand
of exactly 53 bits, but never below the subnormal one. -/
def exponentFor (num den : Nat) : Int :=
  let guess : Int := (num.log2 : Int) - (den.log2 : Int) - fractionBits
  let (n, d) := scaled num den guess
  max (if n < d * Nat.pow 2 fractionBits then guess - 1 else guess) minExponent

/-- The significand of the positive quotient `num / den` at that exponent,
rounded. It has 53 bits, or fewer if the quotient is subnormal, unless
rounding up carries into the next power of two. -/
def significandFor (num den : Nat) : Nat :=
  let quotient := scaled num den (exponentFor num den)
  roundDiv quotient.1 quotient.2

/-- The binary64 number with a significand of 53 bits and this exponent, or
`none` if that is beyond the largest finite one. -/
def ofNormal? (negative : Bool) (significand : Nat) (exponent : Int) : Option Binary64 :=
  let field := (exponent + 1075).toNat
  if field < specialField then some (ofFields negative field (significand - Nat.pow 2 fractionBits))
  else none

/-- The binary64 number nearest to the positive quotient `num / den`, or
`none` if that is beyond the largest finite one. -/
def ofQuotient? (negative : Bool) (num den : Nat) : Option Binary64 :=
  let exponent := exponentFor num den
  let significand := significandFor num den
  if significand < Nat.pow 2 fractionBits then
    some (ofFields negative 0 significand)
  else if significand = Nat.pow 2 (fractionBits + 1) then
    -- rounding up has carried into the next power of two
    ofNormal? negative (Nat.pow 2 fractionBits) (exponent + 1)
  else ofNormal? negative significand exponent

/-- The binary64 number nearest to a rational, or `none` on overflow. -/
def ofRat? (q : Rat) : Option Binary64 :=
  if q.num = 0 then some (ofFields false 0 0)
  else ofQuotient? (q.num < 0) q.num.natAbs q.den

end Binary64

end FormScript
