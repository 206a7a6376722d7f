/-
Modules and how they are loaded. Loading a target runs its module, which
registers the custom forms, and gives the value of the target's variable.

A module that a target names by its path is run each time. One that it names
by a dotted name is run once, after the modules that its name starts with;
it is kept unless running it fails. It is looked for among the modules that
the host has, then in the directories of the search path, and below a package
in the directories of the package. A directory with an init file is a package.
One without is part of a package that has no module of its own, unless the
module is found in a later directory.

What the host brings along is in `Host`. Modules are in source files only:
libraries in machine code, archives and stored translations of modules are
left out.
-/
import FormScript.Module.Text
import FormScript.Target

namespace FormScript

/-- The host that modules run in. -/
structure Host where
  /-- The module that a text describes. -/
  interpret : String → List Action := ModuleText.actions
  /-- The directories in which modules are looked for; the first one is the
  working directory. -/
  searchPath : List (List String) := [[]]
  /-- The modules that are there without a file. -/
  builtin : String → Option (List Action) := fun _ => none
  /-- The variables that a module has before it runs. -/
  initial : ModuleInfo → Bindings := ModuleInfo.initial
  /-- A module as the value of a variable of its package. -/
  asValue : ModuleInfo → (stamp : Nat) → Node := ModuleInfo.asValue
  /-- Whether a text can be written to a file, or why it cannot. -/
  encode : String → Except HostError Unit := fun _ => .ok ()

/-- A file: a module or some written text. -/
inductive Content where
  | module (actions : List Action)
  | text (text : String)

/-- The text of a file that is not a module. -/
def Content.text? : Content → Option String
  | .module _ => none
  | .text written => some written

/-- The actions of a file. -/
def Content.actions (host : Host) : Content → List Action
  | .module actions => actions
  | .text written => host.interpret written

/-- A module that has run, or has started to. -/
structure LoadedModule where
  /-- The variables that it has set, the last setting of each holding. -/
  bindings : Bindings := []
  /-- Where the modules below it are found, if it is a package. -/
  portions : Option (List (List String)) := none

/-- The host, files, the custom forms that modules have registered, and the
modules that have been run. -/
structure Library where
  host : Host := {}
  files : Files Content := {}
  forms : Registry := Registry.empty
  loaded : List (String × LoadedModule) := []
  streams : Streams := {}
  events : Array Event := #[]

/-- Loading may fail, and what it has done by then stays. -/
abbrev LoadM := EStateM Error Library

namespace Library

/-- Hand out a stamp. -/
def freshStamp : LoadM Nat := do
  let lib ← get
  set { lib with streams := lib.streams.useStamp }
  return lib.streams.nextStamp

/-- The outcome of an `Except` value as that of loading. -/
def ofExcept {α : Type} : Except Error α → LoadM α
  | .ok a => pure a
  | .error e => throw e

/-- Change what is known about a module. -/
def updateModule (name : String) (f : LoadedModule → LoadedModule) : LoadM Unit :=
  modify fun lib =>
    { lib with loaded := putNamed name (f ((lib.loaded.lookup name).getD {})) lib.loaded }

/-- Set a variable of a module. -/
def setVariable (moduleName variableName : String) (value : Node) : LoadM Unit :=
  updateModule moduleName fun m => { m with bindings := m.bindings ++ [(variableName, value)] }

/-- Perform one action of a module. -/
def perform (moduleName : String) : Action → LoadM Unit
  | .define make => do
    let definition ← ofExcept (make moduleName (← freshStamp))
    let form ← ofExcept definition.form
    modify fun lib =>
      { lib with
        forms := lib.forms.insert definition.name form
        events := lib.events.push (lib.forms.registration definition.name) }
  | .set variableName make => do
    let value ← ofExcept (make (← freshStamp))
    setVariable moduleName variableName value

/-- Run a module. -/
def runModule (info : ModuleInfo) (actions : List Action) : LoadM Unit := do
  let host := (← get).host
  updateModule info.name fun _ => { bindings := host.initial info, portions := info.portions }
  actions.forM (perform info.name)

/-- Run a module and forget it if that fails. -/
def importAs (info : ModuleInfo) (actions : List Action) : LoadM Unit := fun lib =>
  match runModule info actions lib with
  | .ok () lib => .ok () lib
  | .error e lib => .error e { lib with loaded := lib.loaded.filter (·.1 != info.name) }

/-- Look for a module in directories, under the last part of its name. The
first directory that has it counts; those that are only part of it are kept,
and make it up if there is no other. -/
def search (host : Host) (files : Files Content) (name tail : String)
    (portions : List (List String)) : List (List String) → Option (ModuleInfo × List Action)
  | [] => if portions.isEmpty then none else some ({ name, portions := some portions }, [])
  | directory :: rest =>
    let inside := directory ++ [tail]
    let initFile := inside ++ [Target.initFile]
    let file := directory ++ [tail ++ Target.suffix]
    match files.get? initFile, files.get? file with
    | some content, _ =>
      some ({ name, file := some initFile, portions := some [inside] }, content.actions host)
    | none, some content => some ({ name, file := some file }, content.actions host)
    | none, none =>
      if tail != "" && files.isDirectory inside then
        search host files name tail (portions ++ [inside]) rest
      else search host files name tail portions rest

/-- The module of a name: one that the host has, or else one in these
directories. -/
def find? (lib : Library) (directories : List (List String)) (tail name : String) :
    Option (ModuleInfo × List Action) :=
  match lib.host.builtin name with
  | some actions => some ({ name }, actions)
  | none => search lib.host lib.files name tail [] directories

/-- Find a module and run it. -/
def importFrom (directories : List (List String)) (tail name : String) : LoadM ModuleInfo := do
  match (← get).find? directories tail name with
  | some (info, actions) => do
    importAs info actions
    return info
  | none => throw (.load (.noModule name))

/-- Import the module whose dotted name has these parts, last one first, the
packages before it being imported first. Its package then has it as a
variable. -/
def importParts : List String → LoadM Unit
  | [] => return ()
  | tail :: above => do
    let name := ".".intercalate (tail :: above).reverse
    if ((← get).loaded.lookup name).isSome then return ()
    if above.isEmpty then
      let _ ← importFrom (← get).host.searchPath tail name
    else
      importParts above
      let parent := ".".intercalate above.reverse
      match ((← get).loaded.lookup parent).bind (·.portions) with
      | some directories =>
        let info ← importFrom directories tail name
        let value := (← get).host.asValue info (← freshStamp)
        setVariable parent tail value
      | none => throw (.load (.notPackage name parent))

/-- Import a module by its dotted name. -/
def importModule (name : String) : LoadM Unit :=
  if name.toList.head? == some '.' then throw (.load (.relativeName name))
  else importParts ((splitChars '.' name.toList).map String.ofList).reverse

/-- Run the module in a file. -/
def runFile (path : Path) (name : String) : LoadM Unit := do
  let lib ← get
  match ← ofExcept ((lib.files.find? path).mapError .host) with
  | none => throw (.load (.fileNotFound path.text))
  | some place =>
    if !Target.endsIn Target.suffix path.text then throw (.load (.notImportable path.text))
    let portions := if path.name = Target.initFile then some [place.dropLast] else none
    let info : ModuleInfo := { name, file := some place, portions }
    match lib.files.get? place with
    | some content => runModule info (content.actions lib.host)
    | none =>
      runModule info []
      throw (.host (.file .isDirectory path.text))

/-- The value of a target's variable, once its module has run. -/
def variableOf (target : Target) : LoadM Node := do
  let bindings : Bindings := (((← get).loaded.lookup target.moduleName).map (·.bindings)).getD []
  match bindings.get? target.variableName with
  | some value => return value
  | none => throw (.load (.noVariable target.moduleName target.variableName))

/-- Load a target: run its module and take the value of its variable. -/
def load (target : String) : LoadM (Target × Node) := do
  let target ← ofExcept ((Target.parse (← get).files target).mapError .host)
  match target.place with
  | .file path => runFile path target.moduleName
  | .module => importModule target.moduleName
  return (target, ← variableOf target)

/-- The top-level forms of a value: those in a list or a tuple, or the value
itself. -/
def topLevel : Node → List Node
  | .seq .list items => items
  | .seq .tuple items => items
  | n => [n]

end Library

end FormScript
