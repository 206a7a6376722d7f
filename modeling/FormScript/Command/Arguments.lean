/-
Command lines. A command is named by the first argument and has options and
positional arguments in any order: long options `--name`, with a value after
an equals sign or in the next argument, and short ones `-n`, which may be
written together and whose value may follow at once. After `--` everything is
positional, and so is a lone dash.
-/

namespace FormScript

/-- What an option is called inside, and whether it has a value. -/
structure OptionSpec where
  key : String
  takesValue : Bool := false

/-- The options of a command. -/
structure OptionTable where
  long : List (String × OptionSpec)
  short : List (Char × OptionSpec) := []

/-- A piece of a command line. A flag is an option with an empty value. -/
inductive Argument where
  | option (key value : String)
  | positional (value : String)
deriving DecidableEq

namespace OptionTable

/-- The options in a cluster of letters, and the one that still wants a
value. -/
def readCluster (table : OptionTable) :
    List Char → Option (List Argument × Option OptionSpec)
  | [] => some ([], none)
  | c :: rest => do
    let spec ← table.short.lookup c
    if spec.takesValue then
      if rest.isEmpty then return ([], some spec)
      else return ([.option spec.key (String.ofList rest)], none)
    else
      let (more, wanting) ← table.readCluster rest
      return (.option spec.key "" :: more, wanting)

/-- A long option without its dashes: its name, and its value if an equals
sign follows the name. -/
def cutEquals (body : List Char) : String × Option String :=
  match body.span (· != '=') with
  | (name, _ :: value) => (String.ofList name, some (String.ofList value))
  | (name, []) => (String.ofList name, none)

/-- The options of one argument that starts with a dash and is not a lone
one, and the option that still wants a value. -/
def readDashed (table : OptionTable) : List Char → Option (List Argument × Option OptionSpec)
  | '-' :: body => do
    let (name, value) := cutEquals body
    let spec ← table.long.lookup name
    match spec.takesValue, value with
    | true, some value => return ([.option spec.key value], none)
    | true, none => return ([], some spec)
    | false, none => return ([.option spec.key ""], none)
    | false, some _ => none
  | letters => table.readCluster letters

/-- The options at the front of a command line, and what follows them, which
starts with a positional argument or is marked off by `--`. -/
def readFront (table : OptionTable) : List String → Option (List Argument × List String)
  | [] => some ([], [])
  | arg :: rest =>
    if arg = "--" then some ([], rest)
    else
      match arg.toList with
      | '-' :: c :: more => do
        match ← table.readDashed (c :: more) with
        | (found, none) =>
          let (others, after) ← table.readFront rest
          return (found ++ others, after)
        | (found, some spec) =>
          match rest with
          | value :: rest =>
            let (others, after) ← table.readFront rest
            return (found ++ .option spec.key value :: others, after)
          | [] => none
      | _ => some ([], arg :: rest)

/-- The pieces of a command line; `none` if an option is unknown, lacks its
value or has one that it does not take. -/
def read (table : OptionTable) : List String → Option (List Argument)
  | [] => some []
  | arg :: rest =>
    if arg = "--" then some (rest.map .positional)
    else
      match arg.toList with
      | '-' :: c :: more => do
        match ← table.readDashed (c :: more) with
        | (found, none) => return found ++ (← table.read rest)
        | (found, some spec) =>
          match rest with
          | value :: rest => return found ++ .option spec.key value :: (← table.read rest)
          | [] => none
      | _ => do return .positional arg :: (← table.read rest)

end OptionTable

namespace Argument

/-- The positional arguments of a command line. -/
def positionals (args : List Argument) : List String :=
  args.filterMap fun
    | .positional value => some value
    | .option _ _ => none

/-- The value of an option; of several the last counts. -/
def value? (args : List Argument) (key : String) : Option String :=
  (args.filterMap fun
    | .option k value => if k = key then some value else none
    | .positional _ => none).getLast?

/-- Whether an option is given. -/
def given (args : List Argument) (key : String) : Bool := (value? args key).isSome

end Argument

end FormScript
