/-
Characters by their names. Most names stand in tables, where the case of a
letter does not matter. Hangul syllables and ideographs are named by rule: a
syllable by the sounds it is made of, an ideograph by its code.

Patterns may call characters by their names; only `FormScript.Regex.Reader`
uses them and the tables that they stand in.
-/
import FormScript.Text.CharacterName.Alias
import FormScript.Text.CharacterName.Alphabets
import FormScript.Text.CharacterName.Ancient
import FormScript.Text.CharacterName.EastAsian
import FormScript.Text.CharacterName.Pictures
import FormScript.Text.CharacterName.Scripts
import FormScript.Text.CharacterName.Symbols

namespace FormScript.Text

/-- What follows a text at the front of another. -/
def after? (front : String) (text : List Char) : Option (List Char) :=
  if front.toList.isPrefixOf text then some (text.drop front.length) else none

-- =========================================================== syllables

/-- How the names of Hangul syllables start. -/
def syllableStem : String := "HANGUL SYLLABLE "

/-- The code of the first Hangul syllable. -/
def firstSyllable : Nat := 0xAC00

/-- The sounds that a syllable can begin with. -/
def openings : List String :=
  ["G", "GG", "N", "D", "DD", "R", "M", "B", "BB", "S", "SS", "", "J", "JJ", "C", "K", "T", "P",
    "H"]

/-- The vowels of a syllable. -/
def vowels : List String :=
  ["A", "AE", "YA", "YAE", "EO", "E", "YEO", "YE", "O", "WA", "WAE", "OE", "YO", "U", "WEO", "WE",
    "WI", "YU", "EU", "YI", "I"]

/-- The sounds that a syllable can end with. -/
def closings : List String :=
  ["", "G", "GG", "GS", "N", "NJ", "NH", "D", "L", "LG", "LM", "LB", "LS", "LT", "LP", "LH", "M",
    "B", "BS", "S", "SS", "NG", "J", "C", "K", "T", "P", "H"]

/-- The longest of some sounds at the front of a text, by its number, and what
follows it. -/
def longest? (sounds : List String) (text : List Char) : Option (Nat × List Char) :=
  (sounds.zipIdx.filterMap fun (sound, i) => (after? sound text).map ((i, ·))).foldl
    (fun best found =>
      match best with
      | some (_, rest) => if found.2.length < rest.length then some found else best
      | none => some found)
    none

/-- The Hangul syllable of these sounds. -/
def syllable? (text : List Char) : Option Nat := do
  let (opening, text) ← longest? openings text
  let (vowel, text) ← longest? vowels text
  let (closing, text) ← longest? closings text
  if text.isEmpty then
    return firstSyllable + (opening * vowels.length + vowel) * closings.length + closing
  else none

-- ========================================================== ideographs

/-- How the names of unified ideographs start. -/
def ideographStem : String := "CJK UNIFIED IDEOGRAPH-"

/-- The ranges of the unified ideographs. -/
def ideographRanges : List (Nat × Nat) :=
  [(0x3400, 0x4DBF), (0x4E00, 0x9FFF), (0x20000, 0x2A6DF), (0x2A700, 0x2B738), (0x2B740, 0x2B81D),
    (0x2B820, 0x2CEA1), (0x2CEB0, 0x2EBE0), (0x30000, 0x3134A)]

/-- The stems of the other names that end in the code of their character, each
with a range of codes. -/
def codedStems : List (String × Nat × Nat) :=
  [("CJK COMPATIBILITY IDEOGRAPH-", 0xF900, 0xFA6D), ("CJK COMPATIBILITY IDEOGRAPH-", 0xFA70, 0xFAD9),
    ("KHITAN SMALL SCRIPT CHARACTER-", 0x18B00, 0x18CD5), ("NUSHU CHARACTER-", 0x1B170, 0x1B2FB),
    ("CJK COMPATIBILITY IDEOGRAPH-", 0x2F800, 0x2FA1D)]

/-- The value of a digit in base sixteen, letters being capital. -/
def capitalHex? (c : Char) : Option Nat :=
  if c.isDigit then some (c.toNat - '0'.toNat)
  else if 'A' ≤ c ∧ c ≤ 'F' then some (c.toNat - 'A'.toNat + 10)
  else none

/-- The code that capital digits in base sixteen stand for. -/
def capitalCode? (digits : List Char) : Option Nat :=
  digits.foldlM (fun n c => (capitalHex? c).map (16 * n + ·)) 0

/-- The unified ideograph with a code of four or five digits. -/
def ideograph? (digits : List Char) : Option Nat :=
  if digits.length = 4 ∨ digits.length = 5 then
    (capitalCode? digits).filter fun n =>
      ideographRanges.any fun (low, high) => low ≤ n && n ≤ high
  else none

/-- The character whose name is a stem and its code, without zeros in front. -/
def codedName? (name : List Char) : Option Nat :=
  codedStems.findSome? fun (stem, low, high) => do
    let digits ← after? stem name
    let code ← capitalCode? digits
    if low ≤ code ∧ code ≤ high ∧ digits.head? ≠ some '0' then return code else none

-- =============================================================== names

/-- The tables of names. -/
def nameTables : List (List NameRun) :=
  [alphabetNames, scriptNames, symbolNames, eastAsianNames, ancientNames, pictureNames, aliasNames]

/-- The character whose name stands in a table. -/
def listedName? (name : List Char) : Option Nat :=
  let words := splitChars ' ' name
  nameTables.findSome? fun runs => runs.findSome? (·.find? words)

/-- The code of the character with a name. -/
def characterNamed? (name : String) : Option Nat :=
  match after? syllableStem name.toList, after? ideographStem name.toList with
  | some sounds, _ => syllable? sounds
  | none, some digits => ideograph? digits
  | none, none =>
    let name := name.toList.map Char.toUpper
    (codedName? name).orElse fun _ => listedName? name

end FormScript.Text
