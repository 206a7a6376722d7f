/-
Blank characters: white space of any script, the four information separators
U+001C to U+001F included.
-/

namespace FormScript.Text

/-- The ranges of code points that hold white space, in increasing order. -/
def blankRanges : List (Nat × Nat) :=
  [(0x9, 0xD), (0x1C, 0x20), (0x85, 0x85), (0xA0, 0xA0), (0x1680, 0x1680), (0x2000, 0x200A),
    (0x2028, 0x2029), (0x202F, 0x202F), (0x205F, 0x205F), (0x3000, 0x3000)]

/-- Whether a character is white space. -/
def isBlank (c : Char) : Bool :=
  blankRanges.any fun (low, high) => low ≤ c.toNat && c.toNat ≤ high

/-- Whether a character is white space among the ASCII characters in the
narrow sense: a tab, a line feed, a vertical tab, a form feed, a carriage
return or a space. -/
def isPlainBlank (c : Char) : Bool :=
  (9 ≤ c.toNat && c.toNat ≤ 13) || c.toNat == 32

/-- The characters left when those that satisfy `p` are dropped from both
ends. -/
def trimBoth (p : Char → Bool) (cs : List Char) : List Char :=
  ((cs.dropWhile p).reverse.dropWhile p).reverse

/-- A text without the white space around it. -/
def strip (text : String) : String := String.ofList (trimBoth isBlank text.toList)

end FormScript.Text
