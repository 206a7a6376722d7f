/-
The command line. The files that a target may lead to are read beforehand,
the command is run on them, and what it has written is put on the disk.
-/
import FormScript.Command.Plain

namespace FormScript

/-- The paths where the module of a target may be. -/
def Target.candidates (target : String) : List Path :=
  let spec := (Target.split target).1
  let path := Path.ofText spec
  let names := (splitChars '.' spec.toList).map String.ofList
  let dotted := (List.range names.length).flatMap fun i =>
    let above : Path := { parts := names.take i }
    let tail := names[i]?.getD ""
    [(above.child tail).child Target.initFile, above.child (tail ++ Target.suffix)]
  [path, path.child Target.initFile] ++ dotted

/-- What is on the disk at a path. -/
inductive OnDisk where
  | nothing
  | directory
  | file (text : String)

/-- Look at a path on the disk. A directory can be opened but not read. -/
def look (path : Path) : IO OnDisk := do
  match ← (IO.FS.Handle.mk path.text .read).toBaseIO with
  | .error _ => return .nothing
  | .ok handle =>
    match ← handle.readToEnd.toBaseIO with
    | .error _ => return .directory
    | .ok text => return .file text

/-- Add what is on the disk at a path. -/
def addFromDisk (files : Files Content) (path : Path) : IO (Files Content) := do
  let place := path.place
  match ← look path.resolve with
  | .nothing => return files
  | .directory => return { files with directories := files.directories ++ [place] }
  | .file text => return files.put place (.text text)

/-- The paths that a command line is about. -/
def pathsOf (args : List String) : List Path :=
  match Command.read args with
  | .ok (.emit target output _ _) =>
    Target.candidates target ++ output.toList.map Path.ofText
  | .ok (.forms (some target)) => Target.candidates target
  | _ => []

/-- A notice, line by line. -/
def Notice.lines : Notice → List String
  | .line text => [text]
  | .table t => t.title :: (t.columns :: t.rows).map fun row => "\t".intercalate row

/-- How to call the program. -/
def usage : String := "usage: emit TARGET [-o FILE] [--no-dedupe] [-v] | forms [TARGET]"

/-- Tell the user something beside the output. The listing of custom forms is
itself the output of its command. -/
def tell (args : List String) (line : String) : IO Unit :=
  match Command.read args with
  | .ok (.forms _) => IO.println line
  | _ => IO.eprintln line

/-- Put a file that a command has written on the disk. -/
def saveToDisk (place : List String) (text : String) : IO Unit := do
  IO.FS.createDirAll (Path.ofPlace place.dropLast).text
  IO.FS.writeFile (Path.ofPlace place).text text

end FormScript

open FormScript in
def main (args : List String) : IO UInt32 := do
  let switch ← IO.getEnv Config.dedupeVariable
  let limit ← IO.getEnv limitVariable
  let environment (name : String) : Option String :=
    if name = Config.dedupeVariable then switch
    else if name = limitVariable then limit
    else none
  if let .error .help := Command.read args then
    IO.println usage
  let files ← (pathsOf args).foldlM addFromDisk {}
  let (outcome, after) := Command.run Command.plainFront environment args { files }
  for notice in outcome.notices do
    for line in notice.lines do
      tell args line
  for event in outcome.events do
    IO.eprintln event.message
  for (place, content) in after.files.files do
    if let .text text := content then
      unless (files.get? place).bind (·.text?) == some text do
        saveToDisk place text
  if let some failure := outcome.failure then
    IO.eprintln failure.message
  if let some output := outcome.output then
    IO.print output
  else IO.eprintln usage
  return UInt32.ofNat outcome.status
