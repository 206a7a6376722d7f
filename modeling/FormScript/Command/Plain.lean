/-
A front without a terminal. Command lines are read by the options of each
command, control sequences are left out of what is printed, and the user can
be told anything.
-/
import FormScript.Command
import FormScript.Command.Arguments
import FormScript.Text.Terminal

namespace FormScript.Command

def helpOption : String × OptionSpec := ("help", { key := "help" })

/-- The options before the command. -/
def mainOptions : OptionTable where
  long := [helpOption]

def emitOptions : OptionTable where
  long :=
    [("output", { key := "output", takesValue := true }), ("no-dedupe", { key := "no-dedupe" }),
     ("verbose", { key := "verbose" }), helpOption]
  short := [('o', { key := "output", takesValue := true }), ('v', { key := "verbose" })]

def formsOptions : OptionTable where
  long := [helpOption]

/-- Why a command line is not carried out. -/
inductive NoCommand where
  /-- It asks for an explanation of the usage. -/
  | help
  | usage
  /-- The output path holds a null character. -/
  | nullCharacter
deriving DecidableEq

/-- What comes of a command line that is not carried out. -/
def NoCommand.outcome : NoCommand → Outcome
  | .help => {}
  | .usage => { status := 2, output := none }
  | .nullCharacter => .raising (.host .nullCharacter)

/-- Whether an output path cannot even be looked at. -/
def isUnusable (output : Option String) : Bool := output.any (·.toList.contains '\x00')

/-- Read the arguments of the emit command. Options are judged before the
number of arguments. -/
def readEmit (args : List String) : Except NoCommand Command :=
  match emitOptions.read args with
  | none => .error .usage
  | some args =>
    let output := Argument.value? args "output"
    if Argument.given args "help" then .error .help
    else if isUnusable output then .error .nullCharacter
    else
      match Argument.positionals args with
      | [target] =>
        .ok (.emit target output (Argument.given args "no-dedupe") (Argument.given args "verbose"))
      | _ => .error .usage

/-- Read the arguments of the forms command. -/
def readForms (args : List String) : Except NoCommand Command :=
  match formsOptions.read args with
  | none => .error .usage
  | some args =>
    if Argument.given args "help" then .error .help
    else
      match Argument.positionals args with
      | [] => .ok (.forms none)
      | [target] => .ok (.forms (some target))
      | _ => .error .usage

/-- Read the name of a command and what follows it. -/
def readNamed : List String → Except NoCommand Command
  | "emit" :: rest => readEmit rest
  | "forms" :: rest => readForms rest
  | _ => .error .usage

/-- Read a command line. -/
def read (args : List String) : Except NoCommand Command :=
  match mainOptions.readFront args with
  | none => .error .usage
  | some (options, rest) =>
    if Argument.given options "help" then .error .help else readNamed rest

/-- The front of a program whose output goes to a file or to another program. -/
def plainFront : Front where
  read args := (read args).mapError NoCommand.outcome
  print text := { output := Text.plainOutput text }
  tell _ := none

end FormScript.Command
