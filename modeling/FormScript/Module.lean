/-
Modules: lists of actions that define custom forms and set variables, one
thing after another. What a module is called and where it is found is known
before it runs, and shows in the variables that it starts with.
-/
import FormScript.Files
import FormScript.Session

namespace FormScript

/-- What a module does, one thing after another. Definitions are told the
name of the running module, and everything gets a stamp of its own. -/
inductive Action where
  | define (make : (moduleName : String) → (stamp : Nat) → Except Error Definition)
  | set (variableName : String) (make : (stamp : Nat) → Except Error Node)

/-- What is known about a module before it runs. -/
structure ModuleInfo where
  name : String
  /-- The place of its file, if it has one. -/
  file : Option (List String) := none
  /-- The directories in which the modules below it are found, if it is a
  package. -/
  portions : Option (List (List String)) := none

namespace ModuleInfo

/-- The name of the package that a module is in. A package is in itself. -/
def packageName (info : ModuleInfo) : String :=
  if info.portions.isSome then info.name
  else ".".intercalate ((splitChars '.' info.name.toList).dropLast.map String.ofList)

/-- The text of a place. -/
def placeText (place : List String) : String := (Path.ofPlace place).text

/-- The variables that a module has before it runs: what it is called, where
it belongs, an empty description, and where it is found. -/
def initial (info : ModuleInfo) : Bindings :=
  [("__name__", .str info.name), ("__package__", .str info.packageName), ("__doc__", .nil)]
    ++ info.file.toList.map (fun place => ("__file__", .str (placeText place)))
    ++ info.portions.toList.map fun portions =>
      ("__path__", .seq .list (portions.map fun place => .str (placeText place)))

/-- A module as a value. -/
def asValue (info : ModuleInfo) (stamp : Nat) : Node :=
  let found := match info.file with
    | some place => " from " ++ Text.quoted (placeText place)
    | none => ""
  .foreign ⟨stamp, 0⟩ ("<module " ++ Text.quoted info.name ++ found ++ ">")

end ModuleInfo

end FormScript
