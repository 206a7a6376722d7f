/-
Layouts: how one form is written, one level deep. A layout is a small
document in which the nodes below the form still stand as nodes. It fixes
three things at once: the text around the children, the order in which they
are written, and what the form does to the scope.

Text order and writing order are mostly the same; the exception is
`late`, whose back part is written first although it stands second. A loop's
body is written before its header, and a function's body before its name and
parameters, so the names and failures of the body come first.

A form writes a child by itself, as a `node`, or goes through its children one
after another, as `item`s. The two differ in one failure: if an expansion
function says that an iteration is at its end, this comes out of a node as it
is, and out of an item as the failure of the iteration.

`Layout.run` writes a layout, given how its children are written.
-/
import FormScript.Run

namespace FormScript

/-- How one form is written. -/
inductive Layout where
  /-- A fixed text. -/
  | text (s : String)
  /-- The text of a child. -/
  | node (n : Node)
  /-- The text of a child that an iteration comes to. -/
  | item (n : Node)
  /-- A failure. -/
  | fail (e : Error)
  /-- One part, then another. -/
  | append (first second : Layout)
  /-- Two parts of which the back one is written before the front one. -/
  | late (front back : Layout)
  /-- A part written once whose text appears twice, with a text between. -/
  | twice (part : Layout) (between : String)
  /-- A part terminated as a statement. -/
  | statement (part : Layout)
  /-- Declarations in the open scope, which leave no text here. -/
  | declare (names : List String)
  /-- A text that is needed only where no scope is open. -/
  | inline (s : String)
  /-- A part with a scope of its own, declared in front of it. -/
  | enclosed (part : Layout)
  /-- The items that a stream still has, as an array. -/
  | stream (id : Identity) (items : List Node)

namespace Layout

/-- The layout of no text. -/
def empty : Layout := .text ""

/-- Parts one after another. -/
def seq : List Layout → Layout
  | [] => empty
  | [l] => l
  | l :: rest => .append l (seq rest)

/-- Parts one after another with a text between them. -/
def join (sep : String) : List Layout → Layout
  | [] => empty
  | [l] => l
  | l :: rest => .append l (.append (.text sep) (join sep rest))

/-- The children with a text between them. -/
def joinNodes (sep : String) (nodes : List Node) : Layout := join sep (nodes.map .item)

/-- Arguments in parentheses. -/
def arguments (nodes : List Node) : Layout :=
  seq [.text "(", joinNodes ", " nodes, .text ")"]

/-- Each child as a terminated statement. -/
def statements (nodes : List Node) : Layout := seq (nodes.map fun n => .statement (.item n))

/-- A malformed form. -/
def malformed (cause : Malformed) : Layout := .fail (.form (.malformed cause))

/-- The local name of an identifier, which must be a valid one. -/
def ident (shown : String) (id : Ident) : Layout :=
  if isIdentifier id.name then .text id.name
  else .fail (.form (.invalidIdentifier shown))

/-- The name of a symbol. -/
def symName (id : Ident) : Layout := ident id.text id

/-- The name of a keyword. -/
def keywordName (id : Ident) : Layout := ident (keywordText id) id

/-- Write a layout. New scopes are opened as `dedupe` says, and children are
written by `write`. -/
def run (dedupe : Bool) (write : Node → EmitM String) : Layout → EmitM String
  | .text s => return s
  | .node n => write n
  | .item n => EmitM.iterated (write n)
  | .fail e => throw e
  | .append first second => do
    let x ← first.run dedupe write
    let y ← second.run dedupe write
    return x ++ y
  | .late front back => do
    let y ← back.run dedupe write
    let x ← front.run dedupe write
    return x ++ y
  | .twice part between => do
    let x ← part.run dedupe write
    return x ++ between ++ x
  | .statement part => return terminate (← part.run dedupe write)
  | .declare names => do
    EmitM.declare names
    return ""
  | .inline s => return if ← EmitM.hasScope then "" else s
  | .enclosed part => EmitM.inScope { dedupe := dedupe } (part.run dedupe write)
  | .stream id items => do
    let texts ← EmitM.iterated (EmitM.takeAll write id 0 items)
    return "[" ++ ", ".intercalate texts ++ "]"

/-- Whether every child of a layout satisfies a property. -/
def All (p : Node → Prop) : Layout → Prop
  | .text _ | .fail _ | .declare _ | .inline _ => True
  | .node n | .item n => p n
  | .append a b | .late a b => a.All p ∧ b.All p
  | .twice a _ | .statement a | .enclosed a => a.All p
  | .stream _ items => ∀ n ∈ items, p n

end Layout

end FormScript
