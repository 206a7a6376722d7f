/-
What can be wrong with a pattern. A fault is found at a place in the pattern,
apart from the few that only show once the whole pattern has been read.
-/
import FormScript.Number.Text
import FormScript.Text.Quoted

namespace FormScript

/-- The ways in which a pattern can be malformed. -/
inductive PatternFault where
  | trailingBackslash
  | incompleteEscape (escape : String)
  | badEscape (escape : String)
  | octalTooLarge (escape : String)
  | missingBrace
  /-- A name of a group or a character is empty. -/
  | missingName (what : String)
  | unterminatedName (terminator : Char)
  | badName (name : String)
  | unknownName (name : String)
  | redefinedName (name : String) (group former : Nat)
  | undefinedCharacter (name : String)
  | groupZero
  | unknownGroup (group : Nat)
  | openGroup
  | lookbehindGroup
  | unterminatedSet
  | badRange (low high : String)
  | nothingToRepeat
  | multipleRepeat
  | repeatBounds
  | unexpectedEnd
  | unknownExtension (text : String)
  | unterminatedComment
  | unterminatedGroup
  | unbalanced
  | manyBranches
  | misplacedFlags
  | localeFlag
  | clashingFlags
  | unknownFlag
  | missingFlag
  | missingFlagsEnd
  | missingColon
  | globalFlagOn
  | globalFlagOff
  | flagOnAndOff
  | fixedFlagOff
  | lookbehindWidth
  | lookbehindTooFar
  | templateRepeat (kind : String)

namespace PatternFault

def message : PatternFault → String
  | trailingBackslash => "bad escape (end of pattern)"
  | incompleteEscape escape => "incomplete escape " ++ escape
  | badEscape escape => "bad escape " ++ escape
  | octalTooLarge escape => "octal escape value " ++ escape ++ " outside of range 0-0o377"
  | missingBrace => "missing \x7b"
  | missingName what => "missing " ++ what
  | unterminatedName terminator => "missing " ++ terminator.toString ++ ", unterminated name"
  | badName name => "bad character in group name " ++ Text.quoted name
  | unknownName name => "unknown group name " ++ Text.quoted name
  | redefinedName name group former =>
    "redefinition of group name " ++ Text.quoted name ++ " as group " ++ natText group
      ++ "; was group " ++ natText former
  | undefinedCharacter name => "undefined character name " ++ Text.quoted name
  | groupZero => "bad group number"
  | unknownGroup group => "invalid group reference " ++ natText group
  | openGroup => "cannot refer to an open group"
  | lookbehindGroup => "cannot refer to group defined in the same lookbehind subpattern"
  | unterminatedSet => "unterminated character set"
  | badRange low high => "bad character range " ++ low ++ "-" ++ high
  | nothingToRepeat => "nothing to repeat"
  | multipleRepeat => "multiple repeat"
  | repeatBounds => "min repeat greater than max repeat"
  | unexpectedEnd => "unexpected end of pattern"
  | unknownExtension text => "unknown extension ?" ++ text
  | unterminatedComment => "missing ), unterminated comment"
  | unterminatedGroup => "missing ), unterminated subpattern"
  | unbalanced => "unbalanced parenthesis"
  | manyBranches => "conditional backref with more than two branches"
  | misplacedFlags => "global flags not at the start of the expression"
  | localeFlag => "bad inline flags: cannot use 'L' flag with a str pattern"
  | clashingFlags => "bad inline flags: flags 'a', 'u' and 'L' are incompatible"
  | unknownFlag => "unknown flag"
  | missingFlag => "missing flag"
  | missingFlagsEnd => "missing -, : or )"
  | missingColon => "missing :"
  | globalFlagOn => "bad inline flags: cannot turn on global flag"
  | globalFlagOff => "bad inline flags: cannot turn off global flag"
  | flagOnAndOff => "bad inline flags: flag turned on and off"
  | fixedFlagOff => "bad inline flags: cannot turn off flags 'a', 'u' and 'L'"
  | lookbehindWidth => "look-behind requires fixed-width pattern"
  | lookbehindTooFar => "looks too much behind"
  | templateRepeat kind => "internal: unsupported template operator " ++ kind

end PatternFault

/-- Why a pattern is no regular expression. -/
inductive PatternError where
  /-- The pattern has a fault, at an offset if it has a place. -/
  | fault (cause : PatternFault) (pattern : String) (offset : Option Nat)
  | repetitionTooLarge
  | characterTooLarge
  /-- The options ask for all characters and for ASCII characters at once. -/
  | clashingOptions

namespace PatternError

/-- The line and the column of an offset in a text, both counted from one. -/
def lineAndColumn (text : List Char) (offset : Nat) : Nat × Nat :=
  let before := text.take offset
  (before.count '\n' + 1, (before.reverse.takeWhile (· != '\n')).length + 1)

/-- Where an offset is: lines count only in a pattern that has several. -/
def whereText (pattern : String) (offset : Nat) : String :=
  let (line, column) := lineAndColumn pattern.toList offset
  " at position " ++ natText offset
    ++ if pattern.toList.contains '\n' then
        " (line " ++ natText line ++ ", column " ++ natText column ++ ")"
      else ""

def message : PatternError → String
  | fault cause pattern offset => cause.message ++ (offset.map (whereText pattern)).getD ""
  | repetitionTooLarge => "the repetition number is too large"
  | characterTooLarge => "Python int too large to convert to C int"
  | clashingOptions => "ASCII and UNICODE flags are incompatible"

end PatternError

end FormScript
