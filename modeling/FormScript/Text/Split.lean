/-
Splitting a text at every place where a character stands.
-/

namespace FormScript

/-- The parts of a text between single characters. -/
def splitChars (sep : Char) : List Char → List (List Char)
  | [] => [[]]
  | c :: rest =>
    match splitChars sep rest with
    | [] => [[]]
    | first :: others => if c = sep then [] :: first :: others else (c :: first) :: others

end FormScript
