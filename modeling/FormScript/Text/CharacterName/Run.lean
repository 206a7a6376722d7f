/-
Runs of names. Characters that stand side by side mostly have names that start
alike, so a table of names is kept as runs: the code of a first character, and
the names of it and of those after it in lines of text. A name says first how
many words it shares with the front of the name before it, in one digit, and
then only its other words. Semicolons stand between the names of a line.

Only the names in patterns are looked up here, see
`FormScript.Text.CharacterName`.
-/
import FormScript.Text.Split

namespace FormScript.Text

/-- The names of some characters in a row. -/
structure NameRun where
  /-- The code of the first character. -/
  first : Nat
  /-- The names, each one relative to the name before it. -/
  names : List String

namespace NameRun

/-- The words of a name in a run, given those of the name before it. -/
def nameAfter (before : List (List Char)) : List Char → List (List Char)
  | [] => []
  | shared :: rest => before.take (shared.toNat - '0'.toNat) ++ splitChars ' ' rest

/-- How many names stand in front of the one with these words. -/
def index? (wanted before : List (List Char)) : List (List Char) → Option Nat
  | [] => none
  | entry :: rest =>
    let name := nameAfter before entry
    if name = wanted then some 0 else (index? wanted name rest).map (· + 1)

/-- The code of the character whose name has these words. -/
def find? (run : NameRun) (wanted : List (List Char)) : Option Nat :=
  (index? wanted [] (run.names.flatMap fun line => splitChars ';' line.toList)).map (run.first + ·)

end NameRun

end FormScript.Text
