/-
Paths and the files that they lead to.

A path is a list of names; empty names and single dots are dropped when it is
read, double dots stay. Following a path through the directories and resolving
its double dots by name are different things: `a/../b` leads to `b` only if
`a` is a directory, but always resolves to `b`.

There are files and directories and nothing else, so no links, and whatever
is there can be read and changed.
-/
import FormScript.Error
import FormScript.Text.Split

namespace FormScript

/-- A path, from the root of the file system or from the working directory. -/
structure Path where
  absolute : Bool := false
  parts : List String := []
deriving DecidableEq, Inhabited

namespace Path

/-- The name of the directory above. -/
def parentName : String := ".."

/-- Read a path. -/
def ofText (text : String) : Path where
  absolute := text.toList.head? == some '/'
  parts := ((splitChars '/' text.toList).map String.ofList).filter fun part =>
    part != "" && part != "."

/-- The text of a path; a path without names is the working directory. -/
def text (p : Path) : String :=
  match p.absolute, p.parts with
  | true, parts => "/" ++ "/".intercalate parts
  | false, [] => "."
  | false, parts => "/".intercalate parts

/-- The path of a name below another path. -/
def child (p : Path) (name : String) : Path := { p with parts := p.parts ++ [name] }

/-- The name that stands for the root in a place. -/
def rootName : String := "/"

/-- The place where a path starts. A place is a list of names without double
dots between them: from the root, from the working directory, or from one of
the directories above it. -/
def origin (p : Path) : List String := if p.absolute then [rootName] else []

/-- The place above another. The root is above itself, and the way up from the
working directory is kept. -/
def up (place : List String) : List String :=
  if place == [rootName] then place
  else if place.all (· == parentName) then place ++ [parentName]
  else place.dropLast

/-- The place after a step along a path. -/
def stepTo (place : List String) (name : String) : List String :=
  if name = parentName then up place else place ++ [name]

/-- The place that a path names, each double dot taking back the name before
it. -/
def place (p : Path) : List String := p.parts.foldl stepTo p.origin

/-- The path of a place. -/
def ofPlace : List String → Path
  | [] => {}
  | first :: rest =>
    if first = rootName then { absolute := true, parts := rest } else { parts := first :: rest }

/-- Whether a path has a null character in it. -/
def hasNull (p : Path) : Bool := p.parts.any (·.toList.contains '\x00')

/-- The path without double dots. -/
def resolve (p : Path) : Path := ofPlace p.place

/-- The name at the end of a path. -/
def name (p : Path) : String := p.parts.getLast?.getD ""

/-- A file name without its last suffix. A dot at the very front or the very
end starts no suffix. -/
def stemOf (name : String) : String :=
  match name.toList.reverse.span (· != '.') with
  | (_ :: _, _ :: front@(_ :: _)) => String.ofList front.reverse
  | _ => name

/-- The name at the end of a path, without its last suffix. -/
def stem (p : Path) : String := stemOf p.name

end Path

-- =============================================================== files

/-- Files, by their places, and directories besides those that hold files. -/
structure Files (α : Type) where
  files : List (List String × α) := []
  directories : List (List String) := []

namespace Files

variable {α : Type}

/-- The file at a place. -/
def get? (fs : Files α) (place : List String) : Option α := fs.files.lookup place

/-- Whether there is a file at a place. -/
def isFile (fs : Files α) (place : List String) : Bool := (fs.get? place).isSome

/-- Whether there is a directory at a place: the root, the working directory
and those above it, and whatever something is below. -/
def isDirectory (fs : Files α) (place : List String) : Bool :=
  place == [Path.rootName]
    || place.all (· == Path.parentName)
    || fs.directories.any (place.isPrefixOf ·)
    || fs.files.any fun (file, _) => place.isPrefixOf file && place != file

/-- Whether there is anything at a place. -/
def exists? (fs : Files α) (place : List String) : Bool :=
  fs.isFile place || fs.isDirectory place

/-- Put a file at a place. -/
def put (fs : Files α) (place : List String) (file : α) : Files α :=
  { fs with files := (fs.files.filter (·.1 != place)) ++ [(place, file)] }

-- ================================================================ walks

/-- The most bytes that a name in a path can have. -/
def maxName : Nat := 255

/-- The most bytes that a whole path can have. -/
def maxPath : Nat := 4095

/-- The place one step further. -/
def enter (fs : Files α) (place : List String) (name : String) :
    Except FileFault (List String) :=
  if fs.isFile place then .error .notDirectory
  else if !fs.isDirectory place then .error .missing
  else if name.utf8ByteSize > maxName then .error .nameTooLong
  else .ok (Path.stepTo place name)

/-- The place at the end of a path, through directories all the way up to the
last step. Whether anything is there is left open. -/
def walk (fs : Files α) (p : Path) : Except FileFault (List String) :=
  if p.text.utf8ByteSize > maxPath then .error .nameTooLong
  else p.parts.foldlM fs.enter p.origin

/-- Where a path leads. -/
def locate (fs : Files α) (p : Path) : Except FileFault (List String) := do
  let place ← fs.walk p
  if fs.exists? place then return place else throw .missing

/-- Where a path leads, if it leads anywhere. Only names that are too long are
an error, and nothing has a null character in its name. -/
def find? (fs : Files α) (p : Path) : Except HostError (Option (List String)) :=
  if p.hasNull then .ok none
  else
    match fs.locate p with
    | .ok place => .ok (some place)
    | .error .nameTooLong => .error (.file .nameTooLong p.text)
    | .error _ => .ok none

/-- Whether a path leads to a directory. -/
def leadsToDirectory (fs : Files α) (p : Path) : Bool :=
  match fs.locate p with
  | .ok place => fs.isDirectory place
  | .error _ => false

-- ============================================================= changes

/-- Changes of files. What has been done before a failure stays. -/
abbrev ChangeM (α : Type) := EStateM HostError (Files α)

/-- Make a directory, the directories above it being there. -/
def makeDirectory (fs : Files α) (p : Path) : Except FileFault (Files α) := do
  let place ← fs.walk p
  if fs.exists? place then throw .present
  return { fs with directories := fs.directories ++ [place] }

/-- Make a directory unless it is there. -/
def ensureOne (p : Path) : ChangeM α Unit := fun fs =>
  match fs.makeDirectory p with
  | .ok fs => .ok () fs
  | .error fault =>
    if fs.leadsToDirectory p then .ok () fs else .error (.file fault p.text) fs

/-- Make a directory and those above it, unless they are there. Those above
are made only when they turn out to be missing. -/
def ensureAll (absolute : Bool) : (reversed : List String) → ChangeM α Unit
  | [] => ensureOne { absolute }
  | name :: above => fun fs =>
    let p : Path := { absolute, parts := (name :: above).reverse }
    match fs.makeDirectory p with
    | .error .missing =>
      match ensureAll absolute above fs with
      | .ok () fs => ensureOne p fs
      | .error e fs => .error e fs
    | _ => ensureOne p fs

/-- Put a file at a place. If it cannot be had, the blank file that has been
put there for it stays. -/
def fill (place : List String) (blank : α) (contents : Except HostError α) : ChangeM α Unit :=
  fun fs =>
    match contents with
    | .ok file => .ok () (fs.put place file)
    | .error e => .error e (fs.put place blank)

/-- Put a file where a path leads, in place of any other. The other is gone
before the new one is known. -/
def overwrite (p : Path) (blank : α) (contents : Except HostError α) : ChangeM α Unit := fun fs =>
  match fs.walk p with
  | .error fault => .error (.file fault p.text) fs
  | .ok place =>
    if fs.isDirectory place then .error (.file .isDirectory p.text) fs
    else fill place blank contents fs

/-- Write a file, making the directories above it. -/
def write (p : Path) (blank : α) (contents : Except HostError α) : ChangeM α Unit := do
  ensureAll p.absolute p.parts.reverse.tail
  overwrite p blank contents

end Files

end FormScript
