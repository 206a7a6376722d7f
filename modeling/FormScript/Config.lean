/-
Settings of an emission, and how they are read from the environment.

A variable that is absent or blank leaves its setting at the default. The
switch is off for a few words, whatever their letter case, and on for all
others. The limit is a whole number.
-/
import FormScript.Error
import FormScript.Number.Reading

namespace FormScript

/-- The settings of an emission. -/
structure Config where
  /-- Whether a scope takes each name once. -/
  dedupe : Bool := true
  /-- How deep expansions may be nested. -/
  limit : Int := 100
deriving DecidableEq, Inhabited

namespace Config

/-- The environment variable of the switch. -/
def dedupeVariable : String := "JSFORMS_DEDUPE_DECLARATIONS"

/-- The words that turn the switch off. -/
def offWords : List String := ["0", "false", "no", "off"]

/-- A text in small ASCII letters. -/
def lowerCase (text : String) : String := String.ofList (text.toList.map Char.toLower)

/-- Whether a text is nothing but white space. -/
def isBlankText (text : String) : Bool := text.toList.all Text.isBlank

/-- The switch that a text stands for. -/
def readSwitch (text : String) : Bool := !offWords.contains (lowerCase (Text.strip text))

-- ========================================================= environment

/-- The settings that the environment asks for, `lookup` giving the texts of
its variables. -/
def ofEnvironment (lookup : String → Option String) : Except HostError Config :=
  let dedupe := match nonblank (lookup dedupeVariable) with
    | some text => readSwitch text
    | none => true
  match nonblank (lookup limitVariable) with
  | none => .ok { dedupe }
  | some text =>
    match readInteger? text with
    | some limit => .ok { dedupe, limit }
    | none => .error (.limitText text)
where
  nonblank : Option String → Option String
    | some text => if isBlankText text then none else some text
    | none => none

end Config

end FormScript
