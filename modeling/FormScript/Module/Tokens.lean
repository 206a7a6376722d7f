/-
The text of a module as tokens. The text is read one character at a time.
Every line that has something on it starts with a token that holds its
indentation, unless a bracket is open: what is between brackets is one line.
A hash sign outside a string starts a comment.

A string stands between single or double quotes, or between three of them,
and then may go over several lines. A backslash in it starts one of the
escapes for quotes, backslashes and blanks, or that of a character by its
code point; others are not known.
-/
import FormScript.Text.Quoted

namespace FormScript.ModuleText

/-- A token of a module's text. -/
inductive Token where
  | line (indentation : String)
  /-- A name or a number. -/
  | word (text : String)
  | string (text : String)
  | symbol (c : Char)
deriving DecidableEq

/-- A string that has been started: its quote, whether it is in three of them,
and what has been read of it, last one first. -/
structure Unfinished where
  quote : Char
  triple : Bool := false
  read : List Char := []

/-- Where in the text the lexer is. Characters read so far are kept last one
first. -/
inductive Mode where
  | indentation (read : List Char)
  | between
  | inWord (read : List Char)
  | inComment
  /-- After one or two quotes that may be the start of three. -/
  | opening (quote : Char) (second : Bool)
  | inString (string : Unfinished)
  /-- After one or two quotes that may be the end of three. -/
  | closing (string : Unfinished) (second : Bool)
  | escaped (string : Unfinished)
  /-- In the escape of a code point, with digits left after the next one. -/
  | inEscape (string : Unfinished) (left value : Nat)
  /-- The text cannot be read. -/
  | broken

/-- The mode, the number of open brackets, and the tokens read so far, last
one first. -/
structure Lexer where
  mode : Mode := .indentation []
  depth : Nat := 0
  tokens : List Token := []

namespace Lexer

def textOf (read : List Char) : String := String.ofList read.reverse

/-- Whether a character can be in a name or a number. -/
def isWordChar (c : Char) : Bool := c.isAlphanum || c == '_' || c == '-' || c == '.'

/-- Add a token. -/
def push (s : Lexer) (token : Token) : Lexer := { s with tokens := token :: s.tokens }

/-- Go on in another mode. -/
def go (s : Lexer) (mode : Mode) : Lexer := { s with mode }

/-- Read the end of a line. -/
def endLine (s : Lexer) : Lexer :=
  if s.depth = 0 then s.go (.indentation []) else s.go .between

/-- Read a character between two tokens. -/
def start (s : Lexer) (c : Char) : Lexer :=
  if c = ' ' ∨ c = '\t' then s.go .between
  else if c = '\n' then s.endLine
  else if c = '#' then s.go .inComment
  else if c = Text.apostrophe ∨ c = Text.doubleQuote then s.go (.opening c false)
  else if isWordChar c then s.go (.inWord [c])
  else if c = '(' ∨ c = '[' then { s.push (.symbol c) with mode := .between, depth := s.depth + 1 }
  else if c = ')' ∨ c = ']' then { s.push (.symbol c) with mode := .between, depth := s.depth - 1 }
  else (s.push (.symbol c)).go .between

/-- The character that an escape stands for; an escaped line end is none at
all. -/
def escape? (c : Char) : Option (List Char) :=
  if c = '\\' ∨ c = Text.apostrophe ∨ c = Text.doubleQuote then some [c]
  else if c = 'n' then some ['\n']
  else if c = 't' then some ['\t']
  else if c = 'r' then some ['\r']
  else if c = '\n' then some []
  else none

/-- How many digits follow a letter in the escape of a code point, after the
first one. -/
def escapeLength? (c : Char) : Option Nat :=
  if c = 'x' then some 1 else if c = 'u' then some 3 else if c = 'U' then some 7 else none

/-- The value of a digit in base sixteen. -/
def hexDigit? (c : Char) : Option Nat :=
  if '0' ≤ c ∧ c ≤ '9' then some (c.toNat - '0'.toNat)
  else if 'a' ≤ c ∧ c ≤ 'f' then some (c.toNat - 'a'.toNat + 10)
  else if 'A' ≤ c ∧ c ≤ 'F' then some (c.toNat - 'A'.toNat + 10)
  else none

/-- Read a character in a string. -/
def readString (s : Lexer) (string : Unfinished) (c : Char) : Lexer :=
  if c = '\\' then s.go (.escaped string)
  else if c = string.quote then
    if string.triple then s.go (.closing string false)
    else (s.push (.string (textOf string.read))).go .between
  else if c = '\n' ∧ string.triple = false then s.go .broken
  else s.go (.inString { string with read := c :: string.read })

/-- Read the character after a backslash. -/
def readEscaped (s : Lexer) (string : Unfinished) (c : Char) : Lexer :=
  match escape? c, escapeLength? c with
  | some chars, _ => s.go (.inString { string with read := chars ++ string.read })
  | none, some left => s.go (.inEscape string left 0)
  | none, none => s.go .broken

/-- Read a digit of a code point, with the value of those before it. The last
one makes it a character. -/
def readDigit (s : Lexer) (string : Unfinished) (left value : Nat) (c : Char) : Lexer :=
  match hexDigit? c, left with
  | some digit, left + 1 => s.go (.inEscape string left (value * 16 + digit))
  | some digit, 0 =>
    let code := value * 16 + digit
    if code.isValidChar then s.go (.inString { string with read := Char.ofNat code :: string.read })
    else s.go .broken
  | none, _ => s.go .broken

/-- Read one character. -/
def step (s : Lexer) (c : Char) : Lexer :=
  if c = '\r' ∨ c = '\x00' then s.go .broken
  else
    match s.mode with
    | .broken => s
    | .between => s.start c
    | .indentation read =>
      if c = ' ' ∨ c = '\t' then s.go (.indentation (c :: read))
      else if c = '\n' then s.go (.indentation [])
      else if c = '#' then s.go .inComment
      else (s.push (.line (textOf read))).start c
    | .inComment => if c = '\n' then s.endLine else s
    | .inWord read =>
      if isWordChar c then s.go (.inWord (c :: read)) else (s.push (.word (textOf read))).start c
    | .opening quote second =>
      if c = quote then
        if second then s.go (.inString { quote, triple := true }) else s.go (.opening quote true)
      else if second then (s.push (.string "")).start c
      else s.readString { quote } c
    | .inString string => s.readString string c
    | .closing string second =>
      if c = string.quote then
        if second then (s.push (.string (textOf string.read))).go .between
        else s.go (.closing string true)
      else
        let quotes := if second then [string.quote, string.quote] else [string.quote]
        s.readString { string with read := quotes ++ string.read } c
    | .escaped string => s.readEscaped string c
    | .inEscape string left value => s.readDigit string left value c

end Lexer

/-- The tokens of a text, unless it cannot be read. A last line need not be
ended. -/
def tokens? (text : String) : Option (List Token) :=
  let s := (text.toList ++ ['\n']).foldl Lexer.step {}
  match s.mode with
  | .indentation _ => some s.tokens.reverse
  | _ => none

end FormScript.ModuleText
