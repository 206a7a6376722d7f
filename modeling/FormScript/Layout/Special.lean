/-
The special forms and how each is written. `SpecialForm.ofName?` finds the
special form that a head names, `SpecialForm.layout` lays out its arguments.
A form of the wrong shape is laid out as a failure.
-/
import FormScript.Layout

namespace FormScript

/-- The forms with a meaning of their own. -/
inductive SpecialForm where
  | declaration
  | call
  | concatenation
  | member
  | path
  | conditional
  | result
  | deletion
  | assignment
  | construction
  | index
  | increment
  | decrement
  | successor
  | predecessor
  | definedness
  | choice
  | conjunction
  | disjunction
  | raw
  | block
  | whileLoop
  | forLoop
  | functionLiteral
  | functionDeclaration
  | tryBlock
  | loopExit
deriving DecidableEq

namespace SpecialForm

/-- The special form with this name. -/
def ofName? : String → Option SpecialForm
  | "var" => some .declaration
  | "funcall" => some .call
  | "str" => some .concatenation
  | "." => some .member
  | ".." => some .path
  | "if" => some .conditional
  | "return" => some .result
  | "delete" => some .deletion
  | "set!" => some .assignment
  | "new" => some .construction
  | "aget" => some .index
  | "inc!" => some .increment
  | "dec!" => some .decrement
  | "inc" => some .successor
  | "dec" => some .predecessor
  | "defined?" => some .definedness
  | "?" => some .choice
  | "and" => some .conjunction
  | "or" => some .disjunction
  | "quote" => some .raw
  | "do" => some .block
  | "while" => some .whileLoop
  | "doseq" => some .forLoop
  | "fn" => some .functionLiteral
  | "function" => some .functionDeclaration
  | "try" => some .tryBlock
  | "break" => some .loopExit
  | _ => none

/-- Raw text has one name. -/
theorem eq_quote_of_raw {name : String} (h : ofName? name = some .raw) : name = "quote" := by
  unfold ofName? at h
  split at h <;> cases h
  rfl

end SpecialForm

namespace Layout

-- =============================================================== calls

/-- A called node. A function literal is called in parentheses. -/
def callee (f : Node) : Layout :=
  if f.callName? = some "fn" then seq [.text "(", .node f, .text ")"] else .node f

/-- A function call. -/
def call (f : Node) (args : List Node) : Layout := seq [callee f, arguments args]

/-- A method call on an object. -/
def methodCall (object : Node) (method : Layout) (args : List Node) : Layout :=
  seq [.node object, .text ".", method, arguments args]

-- ======================================================== declarations

/-- The nodes at even places. -/
def evens : List Node → List Node
  | [] => []
  | [n] => [n]
  | n :: _ :: rest => n :: evens rest

/-- The names that a declaration declares: all of them must be symbols or
keywords, and then all of them must be valid. -/
def declaredNames (names : List Node) : Except FormError (List String) := do
  let named ← names.mapM fun
    | .sym id => Except.ok (id.text, id.name)
    | .keyword id => Except.ok (keywordText id, id.name)
    | n => Except.error (.malformed (.variableName n))
  named.mapM fun (shown, name) =>
    if isIdentifier name then .ok name else .error (.invalidIdentifier shown)

/-- The local name of a symbol or a keyword. -/
def localName (n : Node) : String := (n.ident?.map (·.name)).getD ""

/-- Names and values in turn, each pair as an assignment. A last name without
a value needs writing only where no scope declares it. -/
def initialisers : List Node → List Layout
  | [] => []
  | [n] => [.inline ("var " ++ localName n ++ separator)]
  | n :: value :: rest =>
    seq [.inline "var ", .text (localName n ++ " = "), .node value, .text separator]
      :: initialisers rest

/-- Declared names with their values. -/
def declaration (args : List Node) : Layout :=
  match declaredNames (evens args) with
  | .error e => .fail (.form e)
  | .ok names => .append (.declare names) (seq (initialisers args))

/-- Targets and values in turn, each pair as an assignment. -/
def assignments : List Node → List Layout
  | target :: value :: rest =>
    seq [.item target, .text " = ", .item value, .text separator] :: assignments rest
  | _ => []

-- =========================================================== functions

/-- A parameter of a function. -/
def parameter : Node → Layout
  | .sym id => symName id
  | .keyword id => keywordName id
  | n => malformed (.parameterName n)

/-- A function with a label, which may be empty, and a body with a scope of
its own. The body is written before the label and the parameters. -/
def function (label : Layout) (params : Node) (body : List Node) : Layout :=
  match params.seqItems? with
  | none => malformed (.parameterList params)
  | some items =>
    .append
      (.late
        (seq [.text "function ", label, .text "(", join ", " (items.map parameter),
          .text ") \x7b\n"])
        (.enclosed (statements body)))
      (.text " \x7d")

/-- A function literal, which declares its name if it has one. -/
def functionLiteral : List Node → Layout
  | [] => malformed (.functionLiteralShape none)
  | [.sym id] => malformed (.functionLiteralShape (some id))
  | .sym id :: params :: body =>
    if isIdentifier id.name then
      seq [.declare [id.name], .inline "var ", .text (id.name ++ " = "),
        function empty params body]
    else symName id
  | params :: body => function empty params body

/-- A function literal without a name. -/
theorem functionLiteral_of_not_sym {params : Node}
    (h : ∀ id, params ≠ .sym id) (body : List Node) :
    functionLiteral (params :: body) = function empty params body := by
  unfold functionLiteral
  split
  · rename_i heq
    cases heq
  · rename_i id heq
    injection heq with hid _
    exact absurd hid (h id)
  · rename_i id _ _ heq
    injection heq with hid _
    exact absurd hid (h id)
  · rename_i heq
    cases heq
    rfl

/-- A named function. -/
def functionDeclaration : List Node → Layout
  | .sym id :: params :: body => function (symName id) params body
  | _ => malformed .functionShape

-- =============================================================== loops

/-- Nested loops over names and collections in turn, the first pair outermost.
The inner text is written before the header around it. -/
def forLoops (inner : Layout) : List Node → Layout
  | name :: collection :: rest =>
    .append
      (.late
        (seq [.text "for (", .node name, .text " in ", .node collection, .text ") \x7b \n"])
        (forLoops inner rest))
      (.text "\n \x7d")
  | _ => inner

/-- Loops over the bindings that a sequence lists, around a body. -/
def forLoop : List Node → Layout
  | bindings :: body =>
    match bindings.seqItems? with
    | none => malformed .loopWithoutBindings
    | some items =>
      if items.isEmpty || items.length % 2 == 1 then malformed (.loopPairs bindings)
      else forLoops (statements body) items
  | [] => malformed .loopWithoutBindings

/-- A loop with a test. -/
def whileLoop : List Node → Layout
  | test :: body =>
    seq [.text "while (", .node test, .text ") \x7b \n", statements body, .text "\n \x7d"]
  | [] => malformed .whileWithoutTest

-- ================================================================= try

/-- The arguments of a catch clause. -/
def catchClause? : Node → Option (List Node)
  | .form (.sym id :: args) => if id.name = "catch" then some args else none
  | _ => none

/-- The arguments of a finally clause. -/
def finallyClause? : Node → Option (List Node)
  | .form (.sym id :: args) => if id.name = "finally" then some args else none
  | _ => none

/-- Whether an argument of a try form is one of its clauses. -/
def isClause (n : Node) : Bool := (catchClause? n).isSome || (finallyClause? n).isSome

/-- A try form: its body is whatever is no clause, wherever the clauses
stand. -/
def tryBlock (args : List Node) : Layout :=
  match args.filterMap catchClause?, args.filterMap finallyClause? with
  | [], [] => flawed .noClause
  | _ :: _ :: _, _ => flawed .manyCatches
  | _, _ :: _ :: _ => flawed .manyFinallies
  | catches, finallies =>
    seq [.text "try\x7b\n", statements (args.filter (!isClause ·)), .text "\x7d\n",
      seq (catches.map catchPart), seq (finallies.map finallyPart)]
where
  flawed (cause : MalformedTry) : Layout := .fail (.form (.malformedTry cause args))
  catchPart : List Node → Layout
    | [] => flawed .catchWithoutName
    | name :: body =>
      seq [.text "catch(", .node name, .text ")\x7b\n", statements body, .text "\x7d\n"]
  finallyPart (body : List Node) : Layout :=
    seq [.text "finally\x7b\n", statements body, .text "\x7d\n"]

-- ========================================================== small forms

/-- A choice between statements. An else branch of `nil` is no else branch. -/
def conditional (args : List Node) : Layout :=
  match args with
  | [test, yes] => branch test yes
  | [test, yes, .nil] => branch test yes
  | [test, yes, no] =>
    seq [branch test yes, .text " else \x7b \n", .node no, .text "\n \x7d"]
  | _ => malformed (.ifShape args)
where
  branch (test yes : Node) : Layout :=
    seq [.text "if (", .node test, .text ") \x7b \n", .node yes, .text "\n \x7d"]

/-- A form of one argument, or a failure that names the form. -/
def unary (name : String) (write : Node → Layout) : List Node → Layout
  | [n] => write n
  | args => malformed (.argumentCount name 1 args)

/-- The text of a node that is inserted raw. -/
def rawText : Node → String
  | .nil => ""
  | .bool b => if b then "true" else "false"
  | n => n.plain

end Layout

namespace SpecialForm

open Layout

/-- How a special form with these arguments is written. -/
def layout (form : SpecialForm) (args : List Node) : Layout :=
  match form with
  | .declaration => Layout.declaration args
  | .call =>
    match args with
    | f :: rest => Layout.call f rest
    | [] => malformed .callWithoutCallee
  | .concatenation => joinNodes " + " args
  | .member =>
    match args with
    | object :: method :: rest => methodCall object (.node method) rest
    | _ => malformed (.dotShape args)
  | .path => joinNodes "." args
  | .conditional => Layout.conditional args
  | .result =>
    match args with
    | [] => .statement (seq [.text "return ", .node .nil])
    | [n] => .statement (seq [.text "return ", .node n])
    | _ => malformed (.argumentCount "return" 1 args)
  | .deletion => unary "delete" (fun n => seq [.text "delete ", .node n]) args
  | .assignment =>
    if args.isEmpty || args.length % 2 == 1 then malformed (.assignmentPairs args)
    else seq (assignments args)
  | .construction =>
    match args with
    | f :: rest => seq [.text "new ", .node f, arguments rest]
    | [] => malformed .newWithoutConstructor
  | .index =>
    match args with
    | target :: keys =>
      seq (.node target :: keys.map fun key => seq [.text "[", .item key, .text "]"])
    | [] => malformed .indexWithoutTarget
  | .increment => unary "inc!" (fun n => seq [.node n, .text "++"]) args
  | .decrement => unary "dec!" (fun n => seq [.node n, .text "--"]) args
  | .successor => unary "inc" (fun n => seq [.text "(", .node n, .text " + 1)"]) args
  | .predecessor => unary "dec" (fun n => seq [.text "(", .node n, .text " - 1)"]) args
  | .definedness =>
    unary "defined?" (fun n =>
      seq [.text "typeof ", .twice (.node n) " !== \"undefined\" && ", .text " !== null"]) args
  | .choice =>
    match args with
    | [test, yes, no] => seq [.item test, .text " ? ", .item yes, .text " : ", .item no]
    | _ => malformed (.argumentCount "?" 3 args)
  | .conjunction => joinNodes "&&" args
  | .disjunction => joinNodes "||" args
  | .raw => .text (String.join (args.map rawText))
  | .block => statements args
  | .whileLoop => Layout.whileLoop args
  | .forLoop => Layout.forLoop args
  | .functionLiteral => Layout.functionLiteral args
  | .functionDeclaration => Layout.functionDeclaration args
  | .tryBlock => Layout.tryBlock args
  | .loopExit => .text (terminate "break")

end SpecialForm

end FormScript
