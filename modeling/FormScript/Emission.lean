/-
Emission: the text of trees under a registry of custom forms.

A node is written by its layout, unless it is a call of a custom form; then
the form is expanded and its expansion is written instead, one level of
expansion deeper. How many levels are left is the outer measure of the
recursion and the height of the node the inner one: children are lower than
their parent, and every expansion uses up a level.

How deep calls may be nested before the host gives up is left out, so trees
of any height are written. So is its bound on the digits of a whole number,
see `FormScript.Number.Text`.
-/
import FormScript.Config
import FormScript.Layout.Node
import FormScript.Registry

namespace FormScript

/-- A call of a custom form that is about to be expanded. -/
structure Call where
  name : String
  form : CustomForm
  args : List Node

/-- Expand a call and write its expansion. -/
def Call.expandWith (write : Node → EmitM String) (call : Call) : EmitM String := do
  let stamp ← EmitM.beginExpansion call.name
  let expansion ← EmitM.ofExcept (call.form.expand stamp call.args)
  write expansion

/-- The custom form call that a node is, if it is one. A method call never
is, even if its head is registered. -/
def Registry.customCall? (r : Registry) : Node → Option Call
  | .form (.sym id :: args) =>
    match methodName? id.name with
    | some _ => none
    | none => (r.get? id.name).map fun form => ⟨id.name, form, args⟩
  | _ => none

/-- The custom forms and the settings that an emission works with. -/
structure Emitter where
  forms : Registry := Registry.empty
  config : Config := {}

namespace Emitter

/-- Write a node, given how calls of custom forms and children are written. -/
def writeWith (e : Emitter) (expand : Call → EmitM String) (write : Node → EmitM String)
    (n : Node) : EmitM String :=
  match e.forms.customCall? n with
  | some call => expand call
  | none => n.layout.run e.config.dedupe write

/-- Write a node of at most this height. -/
def writeWithin (e : Emitter) (expand : Call → EmitM String) : (height : Nat) → Node → EmitM String
  | 0 => e.writeWith expand fun _ => pure ""
  | height + 1 => e.writeWith expand (e.writeWithin expand height)

/-- The failure of a call that there is no level of expansion left for. -/
def refuse (e : Emitter) (call : Call) : EmitM String :=
  throw (.form (.depthExceeded (some call.name) e.config.limit))

/-- Write a node with this many levels of expansion left. -/
def emitAt (e : Emitter) : (levels : Nat) → Node → EmitM String
  | 0, n => e.writeWithin e.refuse n.height n
  | levels + 1, n => e.writeWithin (Call.expandWith (e.emitAt levels)) n.height n

/-- Write a node. -/
def emit (e : Emitter) (n : Node) : EmitM String := e.emitAt e.config.limit.toNat n

/-- Write a layout. -/
def emitLayout (e : Emitter) (l : Layout) : EmitM String := l.run e.config.dedupe e.emit

/-- The layout of a program: a single form as it is, several as statements,
in a scope of their own. -/
def programLayout : List Node → Layout
  | [] => .empty
  | [n] => .enclosed (.node n)
  | ns => .enclosed (Layout.statements ns)

/-- Write a program. -/
def emitProgram (e : Emitter) (forms : List Node) : EmitM String :=
  e.emitLayout (programLayout forms)

/-- A new scope for bodies that the emitter writes. -/
def newScope (e : Emitter) : Scope := { dedupe := e.config.dedupe }

end Emitter

/-- The script of some forms, nothing having been read from any stream. -/
def script (forms : List Node) (registry : Registry := Registry.empty) (config : Config := {}) :
    Except Error String :=
  match ({ forms := registry, config } : Emitter).emitProgram forms {} with
  | .ok text _ => .ok text
  | .error e _ => .error e

end FormScript
