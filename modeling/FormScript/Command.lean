/-
The commands. `emit` loads a target, reads the settings from the environment,
writes the script of the target's forms and puts it on the standard output or
into a file; `forms` lists the custom forms that are registered.

A command either succeeds, or reports why it cannot go on and exits with
status 1; failures that are not the script writer's mistakes come out as they
are. Nothing is put out before the script is complete; directories that were
made for a file stay even if the file then cannot be written.

Reading command lines, printing and telling the user something is not done
here but by a `Front`, any of which the commands work with.
-/
import FormScript.Library
import FormScript.Text.Blank

namespace FormScript

/-- A command with its arguments. -/
inductive Command where
  /-- Write the script of a target's forms. -/
  | emit (target : String) (output : Option String) (keepRepeats verbose : Bool)
  /-- List the registered custom forms, a target being loaded first. -/
  | forms (target : Option String)
deriving DecidableEq

/-- The registered custom forms as a table. -/
structure FormTable where
  title : String
  columns : List String
  rows : List (List String)
deriving DecidableEq

/-- What a command tells the user, apart from its output. -/
inductive Notice where
  | line (text : String)
  | table (table : FormTable)
deriving DecidableEq

/-- What comes of a command. -/
structure Outcome where
  status : Nat := 0
  /-- The standard output; a usage error leaves none. -/
  output : Option String := some ""
  notices : List Notice := []
  events : List Event := []
  /-- A failure that the command does not report itself. -/
  failure : Option Error := none

namespace Outcome

/-- The outcome of a command that passes a failure on. -/
def raising (failure : Error) : Outcome := { status := 1, failure := some failure }

/-- The outcome with a notice told before everything else. -/
def after (notice : Notice) (outcome : Outcome) : Outcome :=
  { outcome with notices := notice :: outcome.notices }

end Outcome

/-- What becomes of a text that is printed. -/
structure Printing where
  /-- What reaches the standard output. -/
  output : String
  failure : Option Error := none

/-- What the commands need to deal with the user. -/
structure Front where
  /-- Read a command line, or say what comes of one that is not carried out. -/
  read : List String → Except Outcome Command
  /-- Print a text on the standard output. -/
  print : String → Printing
  /-- Tell the user something, or fail to. -/
  tell : Notice → Option Error

namespace Front

/-- Tell the user something and go on to an outcome. -/
def telling (front : Front) (notice : Notice) (next : Outcome) : Outcome :=
  match front.tell notice with
  | some failure => .raising failure
  | none => next.after notice

/-- The outcome of a command that prints a text. -/
def printing (front : Front) (text : String) : Outcome :=
  let printing := front.print text
  { status := if printing.failure.isSome then 1 else 0
    output := some printing.output
    failure := printing.failure }

end Front

namespace Command

/-- How a command ends early. -/
inductive Stop where
  /-- It tells why. -/
  | reported (reason : String)
  /-- The failure is passed on. -/
  | raised (failure : Error)

/-- The ways in which loading a target fails that are reported. A module's
name that starts with a dot is not among them. -/
def loadStop : Error → Stop
  | .load (.relativeName name) => .raised (.load (.relativeName name))
  | .load cause => .reported cause.message
  | e => .raised e

/-- The ways in which writing a script fails that are reported. -/
def emitStop : Error → Stop
  | .form cause => .reported (cause.category ++ ": " ++ cause.message)
  | e => .raised e

def loadingNotice (target : String) : Notice := .line ("📁 Loading forms from: " ++ target)

def failureNotice (reason : String) : Notice := .line ("❌ " ++ reason)

def writtenNotice (path : Path) : Notice := .line ("✅ Wrote " ++ path.text)

/-- The outcome of a command that stops. -/
def Stop.outcome (front : Front) : Stop → Outcome
  | .reported reason => front.telling (failureNotice reason) { status := 1 }
  | .raised failure => .raising failure

/-- Tell which target is loaded and go on, unless that fails. -/
def announcing (front : Front) (target : String) (lib : Library)
    (next : Library → Outcome × Library) : Outcome × Library :=
  match front.tell (loadingNotice target) with
  | some failure => (.raising failure, lib)
  | none =>
    let (outcome, after) := next lib
    (outcome.after (loadingNotice target), after)

-- ================================================================ emit

/-- The script of the forms in a value, with the forms registered so far. -/
def writeScript (config : Config) (value : Node) : LoadM String := fun lib =>
  let emitter : Emitter := { forms := lib.forms, config }
  match emitter.emitProgram (Library.topLevel value) { streams := lib.streams } with
  | .ok text r => .ok text { lib with streams := r.streams, events := lib.events ++ r.events }
  | .error e r => .error e { lib with streams := r.streams, events := lib.events ++ r.events }

/-- The settings of an emission. -/
def settings (environment : String → Option String) (keepRepeats : Bool) :
    Except Stop Config :=
  match Config.ofEnvironment environment with
  | .ok config => .ok (if keepRepeats then { config with dedupe := false } else config)
  | .error e => .error (.reported e.message)

/-- The script of a target. -/
def scriptOf (environment : String → Option String) (target : String) (keepRepeats : Bool)
    (lib : Library) : Except Stop String × Library :=
  match Library.load target lib with
  | .error e lib => (.error (loadStop e), lib)
  | .ok (_, value) lib =>
    match settings environment keepRepeats with
    | .error stop => (.error stop, lib)
    | .ok config =>
      match writeScript config value lib with
      | .error e lib => (.error (emitStop e), lib)
      | .ok text lib => (.ok text, lib)

/-- A text as the contents of a file. -/
def contents (host : Host) (text : String) : Except HostError Content :=
  (host.encode text).map fun _ => .text text

/-- Put a script where it belongs: on the standard output or into a file. -/
def deliver (front : Front) (text : String) (output : Option String) (lib : Library) :
    Outcome × Library :=
  match output with
  | none => (front.printing text, lib)
  | some output =>
    let path := Path.ofText output
    match Files.write path (.text "") (contents lib.host text) lib.files with
    | .ok () files => (front.telling (writtenNotice path) {}, { lib with files })
    | .error e files => (.raising (.host e), { lib with files })

/-- The emit command. -/
def runEmit (front : Front) (environment : String → Option String) (target : String)
    (output : Option String) (keepRepeats verbose : Bool) (lib : Library) : Outcome × Library :=
  let (outcome, after) := announcing front target { lib with events := #[] } fun lib =>
    match scriptOf environment target keepRepeats lib with
    | (.error stop, lib) => (stop.outcome front, lib)
    | (.ok text, lib) => deliver front text output lib
  ({ outcome with events := if verbose then after.events.toList else [] }, after)

-- =============================================================== forms

/-- Whether a character ends a line. -/
def isLineBreak (c : Char) : Bool :=
  (10 ≤ c.toNat && c.toNat ≤ 13) || (28 ≤ c.toNat && c.toNat ≤ 30) || c.toNat == 0x85
    || c.toNat == 0x2028 || c.toNat == 0x2029

/-- The first line of a description. -/
def firstLine (doc : String) : String :=
  String.ofList ((Text.strip doc).toList.takeWhile (!isLineBreak ·))

/-- The table of registered forms. -/
def formTable (forms : Registry) : FormTable where
  title := "Custom forms"
  columns := ["Form", "Defined in", "Description"]
  rows := forms.entries.map fun (name, form) => [name, form.origin, firstLine form.doc]

/-- What is told about the registered forms. -/
def formsNotice (forms : Registry) : Notice :=
  if forms.entries.isEmpty then .line "No custom forms registered."
  else .table (formTable forms)

/-- The forms command. -/
def runForms (front : Front) (target : Option String) (lib : Library) : Outcome × Library :=
  match target with
  | none => (front.telling (formsNotice lib.forms) {}, lib)
  | some target =>
    announcing front target { lib with events := #[] } fun lib =>
      match Library.load target lib with
      | .ok _ lib => (front.telling (formsNotice lib.forms) {}, lib)
      | .error e lib => ((loadStop e).outcome front, lib)

-- ============================================================= any one

/-- Run a command line. -/
def run (front : Front) (environment : String → Option String) (args : List String)
    (lib : Library) : Outcome × Library :=
  match front.read args with
  | .error outcome => (outcome, lib)
  | .ok (.emit target output keepRepeats verbose) =>
    runEmit front environment target output keepRepeats verbose lib
  | .ok (.forms target) => runForms front target lib

end Command

end FormScript
