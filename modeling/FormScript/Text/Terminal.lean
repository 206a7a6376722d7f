/-
Text for the standard output. A terminal takes some texts as commands: an
escape character, an opening square bracket, any number of digits, semicolons
and question marks, and then a letter. Plain output leaves them out and keeps
all else, line ends included.
-/

namespace FormScript.Text

/-- The character that starts a control sequence. -/
def escapeChar : Char := '\x1b'

/-- Whether a character may stand between the bracket and the letter of a
control sequence. -/
def isParameter (c : Char) : Bool := c.isDigit || c == ';' || c == '?'

/-- How many characters the control sequence at the front of a text has; zero
if there is none. -/
def controlLength : List Char → Nat
  | c :: '[' :: rest =>
    if c = escapeChar then
      match rest.dropWhile isParameter with
      | final :: _ => if final.isAlpha then (rest.takeWhile isParameter).length + 3 else 0
      | [] => 0
    else 0
  | _ => 0

/-- A text without its control sequences, the first `skipped` characters being
part of one. What the removal brings together is not looked at again. -/
def dropControls (skipped : Nat) : List Char → List Char
  | [] => []
  | c :: rest =>
    match skipped, controlLength (c :: rest) with
    | skipped + 1, _ => dropControls skipped rest
    | 0, length + 1 => dropControls length rest
    | 0, 0 => c :: dropControls 0 rest

/-- A text as it reaches the standard output. -/
def plainOutput (text : String) : String := String.ofList (dropControls 0 text.toList)

end FormScript.Text
