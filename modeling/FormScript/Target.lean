/-
Targets: texts that name a variable of a module, `path/to/file.py[:variable]`
or `package.module[:variable]`. The text is cut at its last colon, unless all
that stands before it is a single letter, which is a drive. What is before
the cut is a path if it looks like the path of a module or leads to something,
and a module's name otherwise.
-/
import FormScript.Files
import FormScript.Text.Letter

namespace FormScript

/-- Where the module of a target is found. -/
inductive Place where
  | file (path : Path)
  | module
deriving DecidableEq

/-- A variable of a module. -/
structure Target where
  place : Place
  moduleName : String
  variableName : String
deriving DecidableEq

namespace Target

/-- The variable that is meant when none is named. -/
def defaultVariable : String := "forms"

/-- The suffix of the files that hold modules. -/
def suffix : String := ".py"

/-- The file that makes a directory a module. -/
def initFile : String := "__init__.py"

/-- What the names of modules that are run from a path start with. -/
def fileModuleStart : String := "_jsforms_target_"

/-- Whether a text ends in another. -/
def endsIn (ending text : String) : Bool := ending.toList.isSuffixOf text.toList

/-- A text cut at its last colon. -/
def cutLastColon? (text : String) : Option (String × String) :=
  match text.toList.reverse.span (· != ':') with
  | (after, _ :: before) => some (String.ofList before.reverse, String.ofList after.reverse)
  | (_, []) => none

/-- Whether a text is a single letter. -/
def isDrive (text : String) : Bool :=
  match text.toList with
  | [c] => Text.isLetter c
  | _ => false

/-- The module part and the variable part of a target. -/
def split (target : String) : String × String :=
  match cutLastColon? target with
  | none => (target, defaultVariable)
  | some (spec, variableName) =>
    if isDrive spec then (target, defaultVariable)
    else (spec, if variableName.isEmpty then defaultVariable else variableName)

/-- Read a target, given the files that its path may lead to. -/
def parse {α : Type} (files : Files α) (target : String) : Except HostError Target := do
  let (spec, variableName) := split target
  let path := Path.ofText spec
  let place ← files.find? path
  if endsIn suffix spec || place.isSome then
    if path.hasNull then throw .nullCharacter
    let path := (if place.any files.isDirectory then path.child initFile else path).resolve
    return { place := .file path, moduleName := fileModuleStart ++ path.stem, variableName }
  else return { place := .module, moduleName := spec, variableName }

end Target

end FormScript
