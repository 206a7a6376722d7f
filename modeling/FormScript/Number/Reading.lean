/-
Whole numbers read from text: a sign, then decimal digits of any script,
single underscores between them, with white space around. A text with more
digits than `maxDigits` is refused, leading zeros counted: reading takes time
that is quadratic in them. The same bound on the text that a number is written
as is left out, see `FormScript.Number.Text`.
-/
import FormScript.Text.Blank
import FormScript.Text.Digit

namespace FormScript

/-- White space around a number: of the ASCII characters only the plain ones,
and all of the others. -/
def isNumberBlank (c : Char) : Bool :=
  Text.isPlainBlank c || (127 < c.toNat && Text.isBlank c)

/-- The number whose first digits have the value `value` and which goes on
like this. -/
def readDigits (value : Nat) : List Char → Option Nat
  | [] => some value
  | '_' :: c :: rest => do readDigits (value * 10 + (← Text.digitValue? c)) rest
  | c :: rest => do readDigits (value * 10 + (← Text.digitValue? c)) rest

/-- The number that digits stand for, the first of them being a digit. -/
def readNatural? : List Char → Option Nat
  | [] => none
  | c :: rest => do readDigits (← Text.digitValue? c) rest

/-- The number that a sign and digits stand for. -/
def readSigned? : List Char → Option Int
  | '-' :: rest => (readNatural? rest).map fun n => -(n : Int)
  | '+' :: rest => (readNatural? rest).map fun n => (n : Int)
  | cs => (readNatural? cs).map fun n => (n : Int)

/-- The most digits that a number is read from. -/
def maxDigits : Nat := 4300

/-- How many of the characters are digits. -/
def digitCount (cs : List Char) : Nat := cs.countP fun c => (Text.digitValue? c).isSome

/-- The whole number that a text stands for. -/
def readInteger? (text : String) : Option Int :=
  if digitCount text.toList ≤ maxDigits then
    readSigned? (Text.trimBoth isNumberBlank text.toList)
  else none

end FormScript
