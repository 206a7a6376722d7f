/-
Reading a pattern. The reader goes through the pattern from left to right, one
token at a time, a token being a character or a backslash with the character
after it. It keeps the groups that are open, innermost first, and of what it
has read only what later tokens can depend on: how many characters each piece
matches, at least and at most, and whether it can be repeated.

The result is the regular expression with all of its options, those turned on
at the start of the pattern included, or the first fault in it.

Trees hold regular expressions that have been read, and are written without
reading them again. Only a program that takes patterns from outside needs the
reader, and what it imports.
-/
import FormScript.Number.Reading
import FormScript.Regex
import FormScript.Regex.Fault
import FormScript.Text.CharacterName
import FormScript.Text.Name

namespace FormScript.Pattern

-- ============================================================== pieces

/-- The number of repetitions that stands for no bound, and the most that a
piece is taken to match. -/
def unbounded : Nat := 4294967295

def maxWidth : Nat := Nat.pow 2 64

/-- The greatest number of a group that a condition may name. -/
def maxGroup : Nat := 1073741823

/-- What a piece is to a repetition sign after it. -/
inductive Role where
  | anchor
  | repetition
  | plain
deriving DecidableEq

/-- A part of a pattern: how many characters it matches, and the first fault
in it that only shows in the end. -/
structure Piece where
  least : Nat := 0
  most : Nat := 0
  role : Role := .plain
  fault : Option PatternFault := none

namespace Piece

/-- A piece that matches one character. -/
def single : Piece := { least := 1, most := 1 }

/-- A piece that matches a position. -/
def anchor : Piece := { role := .anchor }

/-- One piece after another. -/
def append (p q : Piece) : Piece where
  least := min (p.least + q.least) maxWidth
  most := min (p.most + q.most) maxWidth
  fault := p.fault <|> q.fault

/-- One piece or another. -/
def either (p q : Piece) : Piece where
  least := min p.least q.least
  most := max p.most q.most
  fault := p.fault <|> q.fault

/-- A piece repeated. -/
def times (p : Piece) (low high : Nat) (fault : Option PatternFault) : Piece where
  least := min (p.least * low) maxWidth
  most := if high = unbounded ∧ p.most ≠ 0 then maxWidth else min (p.most * high) maxWidth
  role := .repetition
  fault := fault <|> p.fault

end Piece

/-- A row of pieces: all but the last as one, and the last, which a repetition
sign may still change. -/
structure Row where
  front : Piece := {}
  last : Option Piece := none

namespace Row

def whole (row : Row) : Piece :=
  match row.last with
  | some last => row.front.append last
  | none => row.front

def push (row : Row) (piece : Piece) : Row := { front := row.whole, last := some piece }

end Row

-- ============================================================== groups

/-- What a parenthesis opens. -/
inductive Opening where
  /-- The whole pattern, which no parenthesis opens. -/
  | pattern
  | capture (group : Nat)
  | plain
  | lookahead
  /-- A look behind; `outermost` if it is in no other. -/
  | lookbehind (outermost : Bool)
  /-- A choice by whether a group has matched. -/
  | condition
deriving DecidableEq

/-- An open group. -/
structure Level where
  opening : Opening
  /-- The offset of the parenthesis. -/
  start : Nat := 0
  /-- Whether white space and comments are skipped in new branches, and in the
  branch that is being read. -/
  spaced : Bool
  spacedNow : Bool
  /-- The branches before the current one, last one first. -/
  branches : List Piece := []
  row : Row := {}

namespace Level

/-- All branches as one piece. -/
def joined (level : Level) : Piece :=
  level.branches.foldl (fun later branch => branch.either later) level.row.whole

/-- The fault of a look behind at a piece. -/
def lookbehindFault (p : Piece) : Option PatternFault :=
  if p.least > unbounded then some .lookbehindTooFar
  else if p.least ≠ p.most then some .lookbehindWidth
  else p.fault

/-- The piece that a group makes once it is closed. -/
def piece (level : Level) : Piece :=
  let p := level.joined
  match level.opening with
  | .lookahead => { fault := p.fault }
  | .lookbehind _ => { fault := lookbehindFault p }
  | .condition => if level.branches.isEmpty then { p with least := 0, role := .plain } else p
  | _ => { p with role := .plain }

end Level

-- ============================================================== reader

/-- What is being read. -/
inductive Mode where
  | pieces
  /-- A set of characters from an offset; whether it holds one yet. -/
  | set (start : Nat) (filled : Bool)
  /-- A comment in parentheses, from an offset. -/
  | comment (start : Nat)
  /-- A comment to the end of the line. -/
  | remark
  /-- The letters of options to turn on, after a parenthesis at an offset. -/
  | optionsOn (start : Nat) (on : List Char)
  /-- The letters of options to turn off. -/
  | optionsOff (start : Nat) (on off : List Char)

/-- A character, or one after a backslash. -/
inductive Token where
  | char (c : Char)
  | escape (c : Char)
deriving DecidableEq

def Token.text : Token → String
  | .char c => String.ofList [c]
  | .escape c => String.ofList ['\\', c]

/-- The state of reading. -/
structure Reader where
  pattern : String
  rest : List Char
  flags : RegexFlags
  /-- All characters are asked for by name. -/
  unicode : Bool := false
  /-- What each group matches, from group one on, unless it is open. -/
  groups : List (Option Piece) := []
  names : List (String × Nat) := []
  /-- The number of groups before the outermost look behind. -/
  behind : Option Nat := none
  /-- Groups that conditions name by number, with the offsets of the names. -/
  conditions : List (Nat × Nat) := []
  mode : Mode := .pieces
  /-- The innermost open level and those around it. -/
  level : Level
  outer : List Level := []

abbrev ReadM := StateT Reader (Except PatternError)

namespace Reader

/-- The offset of the next token. -/
def offset (r : Reader) : Nat := r.pattern.length - r.rest.length

/-- The number that the next group gets. -/
def nextGroup (r : Reader) : Nat := r.groups.length + 1

/-- What a group matches, if it is closed. -/
def closed? (r : Reader) (group : Nat) : Option Piece :=
  if group = 0 then none else (r.groups[group - 1]?).join

end Reader

/-- Fail at an offset. -/
def failAt {α : Type} (cause : PatternFault) (offset : Nat) : ReadM α := do
  throw (.fault cause (← get).pattern (some offset))

/-- Fail this many characters before the next token. -/
def fail {α : Type} (cause : PatternFault) (back : Nat := 0) : ReadM α := do
  failAt cause ((← get).offset - back)

/-- Go on after some characters. A backslash at the very end is found as soon
as it comes next. -/
def advance (count : Nat) : ReadM Unit := do
  modify fun r => { r with rest := r.rest.drop count }
  let r ← get
  if r.rest = ['\\'] then fail .trailingBackslash

/-- The next token. -/
def peek : ReadM (Option Token) := do
  match (← get).rest with
  | '\\' :: c :: _ => return some (.escape c)
  | c :: _ => return some (.char c)
  | [] => return none

/-- Take the next token. -/
def next : ReadM (Option Token) := do
  let token ← peek
  match token with
  | some (.escape _) => advance 2
  | some (.char _) => advance 1
  | none => pure ()
  return token

/-- Take a character if it comes next. -/
def accept (c : Char) : ReadM Bool := do
  if (← peek) = some (.char c) then
    advance 1
    return true
  else return false

/-- Take the characters with a property that come next, at most some number
of them. -/
def takeSome (p : Char → Bool) (most : Nat) : ReadM (List Char) := do
  let found := ((← get).rest.take most).takeWhile p
  if !found.isEmpty then advance found.length
  return found

/-- Change the innermost level. -/
def onLevel (f : Level → Level) : ReadM Unit := modify fun r => { r with level := f r.level }

/-- Add a piece to the current row. -/
def push (piece : Piece) : ReadM Unit := onLevel fun l => { l with row := l.row.push piece }

def setMode (mode : Mode) : ReadM Unit := modify fun r => { r with mode }

/-- Open a level inside the current one. -/
def openLevel (opening : Opening) (start : Nat) (spaced : Bool) : ReadM Unit :=
  modify fun r =>
    { r with
      mode := .pieces
      level := { opening, start, spaced, spacedNow := spaced }
      outer := r.level :: r.outer }

-- =============================================================== names

/-- What comes before a character that no backslash precedes, and the rest. -/
def splitAtChar (terminator : Char) : List Char → List Char × List Char
  | [] => ([], [])
  | ['\\'] => ([], ['\\'])
  | '\\' :: c :: rest =>
    let (name, rest) := splitAtChar terminator rest
    ('\\' :: c :: name, rest)
  | c :: rest =>
    if c = terminator then ([], c :: rest)
    else
      let (name, rest) := splitAtChar terminator rest
      (c :: name, rest)

/-- Take a name up to its terminator, which is taken too. -/
def takeName (terminator : Char) (what : String) : ReadM String := do
  let (name, rest) := splitAtChar terminator (← get).rest
  advance name.length
  if rest.isEmpty then
    if name.isEmpty then fail (.missingName what)
    else fail (.unterminatedName terminator) name.length
  advance 1
  if name.isEmpty then fail (.missingName what) 1
  return String.ofList name

/-- Take the name of a group. -/
def takeGroupName (terminator : Char) : ReadM String := do
  let name ← takeName terminator "group name"
  if !Text.isName name then fail (.badName name) (name.length + 1)
  return name

-- ========================================================== references

/-- Fail if a look behind may not refer to a group. -/
def checkBehind (group : Nat) : ReadM Unit := do
  let r ← get
  match r.behind with
  | none => return ()
  | some groups =>
    if (r.closed? group).isNone then fail .openGroup
    if groups ≤ group then fail .lookbehindGroup

/-- Add a reference to a group; a fault is this many characters back. -/
def pushReference (group back : Nat) : ReadM Unit := do
  match (← get).closed? group with
  | none => fail .openGroup back
  | some piece =>
    checkBehind group
    push { piece with role := .plain, fault := none }

-- ============================================================= escapes

def isOctal (c : Char) : Bool := '0' ≤ c && c ≤ '7'

def isHex (c : Char) : Bool := c.isDigit || ('a' ≤ c && c ≤ 'f') || ('A' ≤ c && c ≤ 'F')

def hexDigit (c : Char) : Nat :=
  if c.isDigit then c.toNat - '0'.toNat else c.toLower.toNat - 'a'.toNat + 10

/-- The number that digits stand for in a base. -/
def valueIn (base : Nat) (digits : List Char) : Nat :=
  digits.foldl (fun n c => n * base + hexDigit c) 0

/-- A character by its code in this many hexadecimal digits. -/
def hexCode (c : Char) (width : Nat) : ReadM Nat := do
  let digits ← takeSome isHex width
  let escape := String.ofList ('\\' :: c :: digits)
  if digits.length ≠ width then fail (.incompleteEscape escape) escape.length
  let code := valueIn 16 digits
  if code > 0x7fffffff then throw .characterTooLarge
  if code > 0x10ffff then fail (.badEscape escape) escape.length
  return code

/-- What an escape in a set stands for: a character, or a shorthand for
several. -/
inductive Member where
  | code (n : Nat)
  | shorthand

/-- The character that a letter stands for after a backslash, in sets and
elsewhere. -/
def controlCode? : Char → Option Nat
  | 'a' => some 7
  | 'f' => some 12
  | 'n' => some 10
  | 'r' => some 13
  | 't' => some 9
  | 'v' => some 11
  | '\\' => some 92
  | _ => none

/-- Whether a letter is a shorthand for several characters after a backslash. -/
def isShorthand (c : Char) : Bool := ['d', 'D', 's', 'S', 'w', 'W'].contains c

/-- The code of a character by its name. -/
def namedCode : ReadM Nat := do
  if !(← accept '\x7b') then fail .missingBrace
  let name ← takeName '\x7d' "character name"
  match Text.characterNamed? name with
  | some code => return code
  | none => fail (.undefinedCharacter name) (name.length + 4)

/-- An escape by its code or its name; `none` if the letter starts none. -/
def codedCharacter? (c : Char) : ReadM (Option Nat) := do
  match c with
  | 'x' => return some (← hexCode c 2)
  | 'u' => return some (← hexCode c 4)
  | 'U' => return some (← hexCode c 8)
  | 'N' => return some (← namedCode)
  | _ => return none

/-- A character that stands for itself after a backslash. -/
def selfEscape (c : Char) : ReadM Member := do
  if c.isAlphanum then fail (.badEscape (Token.escape c).text) 2
  return .code c.toNat

/-- The code that octal digits stand for. -/
def octalCode (digits : List Char) : ReadM Nat := do
  let code := valueIn 8 digits
  if code > 0o377 then
    fail (.octalTooLarge (String.ofList ('\\' :: digits))) (digits.length + 1)
  return code

/-- An escape in a set of characters. -/
def setEscape (c : Char) : ReadM Member := do
  if c = 'b' then return .code 8
  if let some code := controlCode? c then return .code code
  if isShorthand c then return .shorthand
  if let some code ← codedCharacter? c then return .code code
  if isOctal c then return .code (← octalCode (c :: (← takeSome isOctal 2)))
  selfEscape c

/-- A group by its number, or a character by three octal digits. -/
def numberEscape (c : Char) : ReadM Unit := do
  match ← takeSome Char.isDigit 1 with
  | [d] =>
    let third ← if isOctal c && isOctal d then takeSome isOctal 1 else pure []
    if third.isEmpty then reference [c, d]
    else
      let _ ← octalCode (c :: d :: third)
      push .single
  | _ => reference [c]
where
  reference (digits : List Char) : ReadM Unit := do
    let group := valueIn 10 digits
    if group < (← get).nextGroup then pushReference group (digits.length + 1)
    else fail (.unknownGroup group) digits.length

/-- An escape outside of sets. -/
def readEscape (c : Char) : ReadM Unit := do
  if ['A', 'b', 'B', 'Z'].contains c then push .anchor
  else if isShorthand c || (controlCode? c).isSome then push .single
  else if (← codedCharacter? c).isSome then push .single
  else if c = '0' then
    let _ ← takeSome isOctal 2
    push .single
  else if c.isDigit then numberEscape c
  else
    let _ ← selfEscape c
    push .single

-- ================================================================ sets

/-- The member of a set that a token stands for. -/
def memberOf : Token → ReadM Member
  | .char c => return .code c.toNat
  | .escape c => setEscape c

/-- Close a set of characters. -/
def closeSet : ReadM Unit := do
  push .single
  setMode .pieces

/-- Whether a range of characters is empty or no range at all. -/
def isBadRange : Member → Member → Bool
  | .code low, .code high => high < low
  | _, _ => true

/-- Read a member of a set or its end. -/
def readMember (start : Nat) (filled : Bool) : ReadM Unit := do
  match ← next with
  | none => failAt .unterminatedSet start
  | some token =>
    if token = .char ']' ∧ filled then closeSet
    else
      let low ← memberOf token
      if ← accept '-' then
        match ← next with
        | none => failAt .unterminatedSet start
        | some (.char ']') => closeSet
        | some last =>
          let high ← memberOf last
          if isBadRange low high then
            fail (.badRange token.text last.text) (token.text.length + 1 + last.text.length)
          setMode (.set start true)
      else setMode (.set start true)

-- ========================================================= repetitions

/-- Repeat the last piece, after a repetition sign that ends at an offset. -/
def repeatLast (signEnd low high : Nat) : ReadM Unit := do
  let r ← get
  let back := r.offset - signEnd + 1
  match r.level.row.last with
  | none => fail .nothingToRepeat back
  | some piece =>
    match piece.role with
    | .anchor => fail .nothingToRepeat back
    | .repetition => fail .multipleRepeat back
    | .plain =>
      let kind ←
        if ← accept '?' then pure "MIN_REPEAT"
        else if ← accept '+' then pure "POSSESSIVE_REPEAT"
        else pure "MAX_REPEAT"
      let fault := if r.flags.template then some (.templateRepeat kind) else none
      onLevel fun l => { l with row.last := some (piece.times low high fault) }

/-- The number that digits stand for as a bound, or another if there are
none. -/
def boundOf (digits : List Char) (other : Nat) : ReadM Nat := do
  if digits.isEmpty then return other
  let n := valueIn 10 digits
  if n ≥ unbounded then throw .repetitionTooLarge
  return n

/-- Read what follows an opening brace: bounds of a repetition, or else the
brace stands for itself. -/
def readBounds : ReadM Unit := do
  let before ← get
  let all := before.rest.length
  if (← peek) = some (.char '\x7d') then push .single
  else
    let low ← takeSome Char.isDigit all
    let high ← if ← accept ',' then takeSome Char.isDigit all else pure low
    if ← accept '\x7d' then
      let least ← boundOf low 0
      let most ← boundOf high unbounded
      if !high.isEmpty && most < least then failAt .repeatBounds before.offset
      repeatLast before.offset least most
    else
      set before
      push .single

-- ============================================================= options

def optionLetters : List Char := ['i', 'L', 'm', 's', 'x', 'a', 't', 'u']

/-- The letters of which only one can be in force, for the whole pattern. -/
def isFixedOption (c : Char) : Bool := ['a', 'L', 'u'].contains c

/-- The options with one more turned on. -/
def withOption (f : RegexFlags) : Char → RegexFlags
  | 'i' => { f with ignoreCase := true }
  | 'm' => { f with multiline := true }
  | 's' => { f with dotAll := true }
  | 'x' => { f with verbose := true }
  | 'a' => { f with ascii := true }
  | 't' => { f with template := true }
  | _ => f

/-- Turn options on for the whole pattern, which must not have begun yet. -/
def turnOn (start : Nat) (on : List Char) : ReadM Unit := do
  let r ← get
  let l := r.level
  let begun := l.opening != .pattern || !l.branches.isEmpty || l.row.last.isSome
  if begun then failAt .misplacedFlags start
  let flags := on.foldl withOption r.flags
  set { r with
    flags
    unicode := r.unicode || on.contains 'u'
    mode := .pieces
    level := { l with spacedNow := flags.verbose } }

/-- Open a group in which options are turned on and off. -/
def openWithOptions (start : Nat) (on off : List Char) : ReadM Unit := do
  if off.contains 't' then fail .globalFlagOff 1
  if on.any off.contains then fail .flagOnAndOff 1
  let spaced := ((← get).level.spacedNow || on.contains 'x') && !off.contains 'x'
  openLevel .plain start spaced

/-- The fault of a token that is no option letter, when something else was
missing. -/
def notOption {α : Type} (missing : PatternFault) : Option Token → ReadM α
  | none => fail missing
  | some (.char c) => fail (if Text.isLetter c then .unknownFlag else missing) 1
  | some (.escape _) => fail missing 2

/-- Read the letter of an option to turn on. -/
def addOption (start : Nat) (on : List Char) (c : Char) : ReadM Unit := do
  if c = 'L' then fail .localeFlag
  if isFixedOption c && on.any (fun d => isFixedOption d && d != c) then fail .clashingFlags
  setMode (.optionsOn start (c :: on))

/-- Read a token among the options to turn on. -/
def readOptionOn (start : Nat) (on : List Char) : ReadM Unit := do
  match ← next with
  | some (.char ')') => turnOn start on
  | some (.char '-') =>
    if on.contains 't' then fail .globalFlagOn 1
    setMode (.optionsOff start on [])
  | some (.char ':') =>
    if on.contains 't' then fail .globalFlagOn 1
    openWithOptions start on []
  | token =>
    match token with
    | some (.char c) =>
      if optionLetters.contains c then addOption start on c else notOption .missingFlagsEnd token
    | _ => notOption .missingFlagsEnd token

/-- Read a token among the options to turn off. -/
def readOptionOff (start : Nat) (on off : List Char) : ReadM Unit := do
  let missing : PatternFault := if off.isEmpty then .missingFlag else .missingColon
  let token ← next
  match token with
  | some (.char c) =>
    if c = ':' ∧ !off.isEmpty then openWithOptions start on off
    else if !optionLetters.contains c then notOption missing token
    else if isFixedOption c then fail .fixedFlagOff
    else setMode (.optionsOff start on (c :: off))
  | _ => notOption missing token

-- ============================================================== groups

/-- Open a group that captures what it matches. -/
def openCapture (start : Nat) (name : Option String) : ReadM Unit := do
  let r ← get
  let group := r.nextGroup
  if let some name := name then
    if let some former := r.names.lookup name then
      fail (.redefinedName name group former) (name.length + 1)
  set { r with
    groups := r.groups ++ [none]
    names := (name.map fun n => (n, group)).toList ++ r.names }
  openLevel (.capture group) start r.level.spacedNow

/-- Open a look ahead or behind. -/
def openLook (start : Nat) (behind : Bool) : ReadM Unit := do
  let r ← get
  if behind then
    set { r with behind := r.behind <|> some r.nextGroup }
    openLevel (.lookbehind r.behind.isNone) start r.level.spacedNow
  else openLevel .lookahead start r.level.spacedNow

/-- The group that a condition names. -/
def conditionGroup (name : String) : ReadM Nat := do
  let back := name.length + 1
  let r ← get
  if Text.isName name then
    match r.names.lookup name with
    | some group => return group
    | none => fail (.unknownName name) back
  else
    match readInteger? name with
    | some (.ofNat group) =>
      if group = 0 then fail .groupZero back
      if group ≥ maxGroup then fail (.unknownGroup group) back
      if (r.conditions.lookup group).isNone then
        set { r with conditions := r.conditions ++ [(group, r.offset - back)] }
      return group
    | _ => fail (.badName name) back

/-- Open a choice by a condition. -/
def openCondition (start : Nat) : ReadM Unit := do
  let group ← conditionGroup (← takeName ')' "group name")
  checkBehind group
  openLevel .condition start (← get).level.spacedNow

/-- Read what follows `(?P`. -/
def readNamed (start : Nat) : ReadM Unit := do
  if ← accept '<' then openCapture start (some (← takeGroupName '>'))
  else if ← accept '=' then
    let name ← takeGroupName ')'
    match (← get).names.lookup name with
    | some group => pushReference group (name.length + 1)
    | none => fail (.unknownName name) (name.length + 1)
  else
    match ← next with
    | none => fail .unexpectedEnd
    | some token => fail (.unknownExtension ("P" ++ token.text)) (token.text.length + 2)

/-- Read what follows `(?<`. -/
def readBehind (start : Nat) : ReadM Unit := do
  match ← next with
  | none => fail .unexpectedEnd
  | some (.char '=') => openLook start true
  | some (.char '!') => openLook start true
  | some token => fail (.unknownExtension ("<" ++ token.text)) (token.text.length + 2)

/-- Read what follows an opening parenthesis. -/
def readOpening (start : Nat) : ReadM Unit := do
  if !(← accept '?') then openCapture start none
  else
    match ← next with
    | none => fail .unexpectedEnd
    | some token =>
      match token with
      | .char 'P' => readNamed start
      | .char ':' => openLevel .plain start (← get).level.spacedNow
      | .char '>' => openLevel .plain start (← get).level.spacedNow
      | .char '#' => setMode (.comment start)
      | .char '=' => openLook start false
      | .char '!' => openLook start false
      | .char '<' => readBehind start
      | .char '(' => openCondition start
      | .char '-' => setMode (.optionsOff start [] [])
      | .char c =>
        if optionLetters.contains c then addOption start [] c
        else fail (.unknownExtension token.text) 2
      | .escape _ => fail (.unknownExtension token.text) 3

/-- Close the innermost group. -/
def closeGroup : ReadM Unit := do
  advance 1
  let r ← get
  match r.outer with
  | [] => return ()
  | outside :: outer =>
    let piece := r.level.piece
    let groups := match r.level.opening with
      | .capture group => r.groups.set (group - 1) (some piece)
      | _ => r.groups
    let behind := if r.level.opening = .lookbehind true then none else r.behind
    set { r with groups, behind, level := outside, outer }
    push piece

/-- Begin another branch. -/
def nextBranch : ReadM Unit := do
  let l := (← get).level
  if l.opening = .condition ∧ !l.branches.isEmpty then fail .manyBranches
  advance 1
  let r ← get
  let spaced := if l.opening = .pattern then r.flags.verbose else l.spaced
  onLevel fun l =>
    { l with branches := l.row.whole :: l.branches, row := {}, spaced, spacedNow := spaced }

-- ============================================================== tokens

/-- Read one token among pieces; a parenthesis that closes nothing and the end
of the pattern are not taken. -/
def readPiece : ReadM Unit := do
  let l := (← get).level
  match ← peek with
  | none => if l.opening != .pattern then failAt .unterminatedGroup l.start
  | some (.char '|') => nextBranch
  | some (.char ')') => if l.opening != .pattern then closeGroup
  | some token =>
    let start := (← get).offset
    let _ ← next
    match token with
    | .escape c => readEscape c
    | .char c =>
      if l.spacedNow && Text.isPlainBlank c then return ()
      else if l.spacedNow && c == '#' then setMode .remark
      else
        match c with
        | '[' =>
          let _ ← accept '^'
          setMode (.set start false)
        | '?' => repeatLast (start + 1) 0 1
        | '*' => repeatLast (start + 1) 0 unbounded
        | '+' => repeatLast (start + 1) 1 unbounded
        | '\x7b' => readBounds
        | '(' => readOpening start
        | '^' => push .anchor
        | '$' => push .anchor
        | _ => push .single

/-- Read one token. -/
def step : ReadM Unit := do
  match (← get).mode with
  | .pieces => readPiece
  | .set start filled => readMember start filled
  | .comment start =>
    match ← next with
    | none => failAt .unterminatedComment start
    | some token => if token = .char ')' then setMode .pieces
  | .remark =>
    match ← next with
    | none => do
      setMode .pieces
      readPiece
    | some token => if token = .char '\n' then setMode .pieces
  | .optionsOn start on => readOptionOn start on
  | .optionsOff start on off => readOptionOff start on off

/-- Read tokens as long as there are some to take. -/
def readAll (r : Reader) : Except PatternError Reader :=
  match step r with
  | .error e => .error e
  | .ok (_, after) => if after.rest.length < r.rest.length then readAll after else .ok after
termination_by r.rest.length

/-- The regular expression that has been read, unless something is wrong with
the pattern as a whole. -/
def finish (r : Reader) : Except PatternError Regex := do
  if r.flags.ascii && r.unicode then throw .clashingOptions
  if !r.rest.isEmpty then throw (.fault .unbalanced r.pattern (some r.offset))
  for (group, offset) in r.conditions do
    if r.nextGroup ≤ group then throw (.fault (.unknownGroup group) r.pattern (some offset))
  if let some fault := r.level.joined.fault then throw (.fault fault r.pattern none)
  return { pattern := r.pattern, flags := r.flags }

/-- The reader at the start of a pattern. -/
def start (pattern : String) (flags : RegexFlags) : Reader where
  pattern
  rest := pattern.toList
  flags
  level := { opening := .pattern, spaced := flags.verbose, spacedNow := flags.verbose }

end Pattern

/-- The regular expression of a pattern with these options. -/
def Regex.compile (pattern : String) (flags : RegexFlags := {}) : Except PatternError Regex := do
  let (_, r) ← (Pattern.advance 0).run (Pattern.start pattern flags)
  Pattern.finish (← Pattern.readAll r)

end FormScript
