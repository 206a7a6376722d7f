/-
Quoted texts, as they stand inside messages and literals: between two
apostrophes, or between two double quotes when the text holds an apostrophe
and no double quote. Inside, the backslash and the quote in use are escaped,
line feed, carriage return and tab have escapes of their own, and a character
that cannot be printed is written by its code point.
-/
import FormScript.Text.Printable

namespace FormScript.Text

/-- The apostrophe. -/
def apostrophe : Char := '\x27'

/-- The double quote. -/
def doubleQuote : Char := '\x22'

/-- The quote that a text is written in. -/
def quoteFor (hasApostrophe hasDoubleQuote : Bool) : Char :=
  if hasApostrophe && !hasDoubleQuote then doubleQuote else apostrophe

/-- A whole number in base sixteen, with zeros in front up to a width. -/
def hex (width n : Nat) : List Char :=
  let digits := Nat.toDigits 16 n
  List.replicate (width - digits.length) '0' ++ digits

/-- A code point written as an escape of two, four or eight digits. -/
def codePointEscape (n : Nat) : List Char :=
  if n < 0x100 then '\\' :: 'x' :: hex 2 n
  else if n < 0x10000 then '\\' :: 'u' :: hex 4 n
  else '\\' :: 'U' :: hex 8 n

/-- How one code point is written between quotes, given whether it is shown
as it is when it has no escape of its own. -/
def quotedChar (quote : Char) (shown : Char → Bool) (c : Char) : List Char :=
  if c = quote ∨ c = '\\' then ['\\', c]
  else if c = '\n' then ['\\', 'n']
  else if c = '\r' then ['\\', 'r']
  else if c = '\t' then ['\\', 't']
  else if shown c then [c]
  else codePointEscape c.toNat

/-- Characters between quotes. -/
def quotedChars (shown : Char → Bool) (cs : List Char) : List Char :=
  let quote := quoteFor (cs.contains apostrophe) (cs.contains doubleQuote)
  quote :: (cs.flatMap (quotedChar quote shown) ++ [quote])

/-- A text between quotes. -/
def quoted (text : String) : String :=
  String.ofList (quotedChars isPrintable text.toList)

/-- A byte string between quotes, after the letter that marks it. Bytes
outside printable ASCII are written by their value. -/
def quotedBytes (bytes : List UInt8) : String :=
  String.ofList ('b' :: quotedChars (fun c => 0x20 ≤ c.toNat && c.toNat ≤ 0x7e)
    (bytes.map fun b => Char.ofNat b.toNat))

end FormScript.Text
