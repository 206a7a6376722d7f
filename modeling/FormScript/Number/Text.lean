/-
Texts of numbers. `DecimalStyle` collects the decisions of a decimal
notation; `DecimalStyle.script` is the one that numbers take in emitted
scripts and in messages.

Whole numbers of any size are written. The host may refuse to write one of
more than `maxDigits` digits, as it refuses to read one; this is left out.
-/
import FormScript.Number.Shortest

namespace FormScript

/-- The decisions of a decimal notation. -/
structure DecimalStyle where
  /-- The least decimal exponent that is written positionally. -/
  leastPositional : Int
  /-- The greatest decimal exponent that is written positionally. -/
  greatestPositional : Int
  /-- What follows a whole number. -/
  wholeSuffix : String
  /-- What stands between the digits and the exponent. -/
  exponentMark : String
  /-- The least number of digits of an exponent. -/
  exponentWidth : Nat
  nanText : String
  infinityText : String
  zeroText : String

namespace DecimalStyle

/-- Numbers from `0.0001` up to, but not including, `10 ^ 16` are positional
and show a fraction; others have an exponent with a sign and two digits. -/
def script : DecimalStyle where
  leastPositional := -4
  greatestPositional := 15
  wholeSuffix := ".0"
  exponentMark := "e"
  exponentWidth := 2
  nanText := "nan"
  infinityText := "inf"
  zeroText := "0.0"

/-- A run of zeros. -/
def zeros (n : Nat) : String := String.ofList (List.replicate n '0')

/-- A decimal without an exponent. -/
def positional (style : DecimalStyle) (d : Decimal) : String :=
  let digits := Nat.toDigits 10 d.digits
  let point := (digits.length : Int) + d.exponent
  if 0 ≤ d.exponent then
    String.ofList digits ++ zeros d.exponent.toNat ++ style.wholeSuffix
  else if 0 < point then
    String.ofList (digits.take point.toNat) ++ "." ++ String.ofList (digits.drop point.toNat)
  else
    "0." ++ zeros (-point).toNat ++ String.ofList digits

/-- A decimal with one digit before the point and an exponent. -/
def scientific (style : DecimalStyle) (d : Decimal) : String :=
  let digits := Nat.toDigits 10 d.digits
  let exponent := (digits.length : Int) + d.exponent - 1
  let fraction := if digits.length ≤ 1 then "" else "." ++ String.ofList (digits.drop 1)
  let magnitude := Nat.toDigits 10 exponent.natAbs
  String.ofList (digits.take 1) ++ fraction ++ style.exponentMark
    ++ (if exponent < 0 then "-" else "+")
    ++ zeros (style.exponentWidth - magnitude.length) ++ String.ofList magnitude

/-- The text of a positive decimal. -/
def decimal (style : DecimalStyle) (d : Decimal) : String :=
  let exponent := (Decimal.width d.digits : Int) + d.exponent - 1
  if style.leastPositional ≤ exponent ∧ exponent ≤ style.greatestPositional then
    style.positional d
  else style.scientific d

/-- The text of a binary64 number: its shortest decimal, with its sign. -/
def number (style : DecimalStyle) (x : Binary64) : String :=
  match x.value with
  | .nan => style.nanText
  | .infinite negative => signed negative style.infinityText
  | .finite negative 0 _ => signed negative style.zeroText
  | .finite negative significand exponent =>
    signed negative (style.decimal (Decimal.shortest significand exponent))
where
  signed (negative : Bool) (text : String) : String :=
    if negative then "-" ++ text else text

end DecimalStyle

/-- The text of a whole number. -/
def intText (n : Int) : String :=
  if n < 0 then "-" ++ String.ofList (Nat.toDigits 10 n.natAbs)
  else String.ofList (Nat.toDigits 10 n.natAbs)

/-- The text of a count. -/
def natText (n : Nat) : String := String.ofList (Nat.toDigits 10 n)

/-- The text of a binary64 number. -/
def Binary64.text (x : Binary64) : String := DecimalStyle.script.number x

/-- A fraction in lowest terms, or just its numerator when it is whole. -/
def ratText (q : Rat) : String :=
  if q.den = 1 then intText q.num else intText q.num ++ "/" ++ natText q.den

end FormScript
