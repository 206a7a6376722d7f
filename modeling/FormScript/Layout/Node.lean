/-
How any node is written, custom forms aside. Atoms are fixed texts, sequences
and maps are array and object literals, and a form is laid out by its head:
a method, a special form, an operator, or a call.
-/
import FormScript.Layout.Special
import FormScript.Operator

namespace FormScript

/-- The method that a head such as `.push` names: a dot, then a name that does
not start with another dot. -/
def methodName? (head : String) : Option String :=
  match head.toList with
  | '.' :: c :: rest => if c = '.' then none else some (String.ofList (c :: rest))
  | _ => none

/-- A character inside a string literal: a double quote is escaped, and
nothing else is. -/
def scriptChar (c : Char) : List Char :=
  if c = Text.doubleQuote then ['\\', c] else [c]

/-- A string literal. -/
def scriptString (s : String) : String :=
  "\"" ++ String.ofList (s.toList.flatMap scriptChar) ++ "\""

namespace Layout

/-- Operands with a binary operator between them, in parentheses. -/
def binary (op : String) (args : List Node) : Layout :=
  if Operator.accepts op args.length then
    seq [.text "(", joinNodes (" " ++ Operator.spelling op ++ " ") args, .text ")"]
  else .fail (.form (.unsupportedArity op args.length))

/-- The one operand of a unary operator. -/
def operand (op : String) (write : Node → Layout) : List Node → Layout
  | [n] => write n
  | args => .fail (.form (.unsupportedArity op args.length))

/-- A form with a symbol at its head. -/
def symbolForm (id : Ident) (args : List Node) : Layout :=
  match methodName? id.name with
  | some method =>
    match args with
    | object :: rest => methodCall object (symName ⟨method, none⟩) rest
    | [] => malformed (.methodWithoutObject (.form [.sym id]))
  | none =>
    match SpecialForm.ofName? id.name with
    | some special => special.layout args
    | none =>
      if Operator.isBinary id.name then binary id.name args
      else if Operator.isLeading id.name then
        operand id.name (fun n => seq [.text id.name, .node n]) args
      else if Operator.isTrailing id.name then
        operand id.name (fun n => seq [.node n, .text id.name]) args
      else call (.sym id) args

/-- A key and its value in an object literal. -/
def entry (p : Node × Node) : Layout := seq [.item p.1, .text ": ", .item p.2]

end Layout

namespace Node

open Layout

/-- How a node is written. -/
def layout : Node → Layout
  | .nil => .text "null"
  | .bool b => .text (if b then "true" else "false")
  | .int n => .text (intText n)
  | .float _ x => .text x.text
  | .ratio q =>
    match Binary64.ofRat? q with
    | some x => .text x.text
    | none => .fail (.host .ratioOverflow)
  | .str s => .text (scriptString s)
  | .sym id => symName id
  | .keyword id => keywordName id
  | .regex r => .text ("/" ++ r.pattern ++ "/")
  | .bytes bs => .text (Text.quotedBytes bs)
  | .foreign _ shown => .text shown
  | .hole h => .fail (.form (.template (.unfilled h)))
  | .form [] => .fail (.form .emptyForm)
  | .form (.sym id :: args) => symbolForm id args
  | .form (.keyword id :: args) => Layout.call (.keyword id) args
  | .form (.form items :: args) => Layout.call (.form items) args
  | .form items => .fail (.form (.unknownHead (.form items)))
  | .seq _ items => Layout.seq [.text "[", joinNodes ", " items, .text "]"]
  | .map _ pairs => Layout.seq [.text "\x7b", join ", " (pairs.map entry), .text "\x7d"]
  | .stream id items => .stream id items

end Node

end FormScript
