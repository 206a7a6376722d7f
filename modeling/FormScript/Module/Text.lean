/-
Modules written down. Of the language that modules are written in, the part
that only defines forms is read:

- imports of the builders, and strings that stand alone, of which one at the
  very front describes the module;
- assignments of an expression to a name;
- `deftemplate` with the name, the parameters and the body of a template form;
- functions marked by `jsmacro`, with or without a name for the form, whose
  body describes them in a string, or not, and then returns an expression of
  the parameters or raises an error.

Expressions are constants, names, lists, tuples and calls of the builders,
in which a star spreads the items of an argument; `Expressions` builds them
from the tokens on a stack of open brackets. The builders are taken as
imported. A text that goes beyond this is refused: running it fails.
-/
import FormScript.Module
import FormScript.Module.Tokens
import FormScript.Number.Reading

namespace FormScript.ModuleText

-- ========================================================= expressions

/-- An expression. -/
inductive Expr where
  | constant (value : Node)
  | name (text : String)
  /-- The items of an argument in its place. -/
  | starred (argument : Expr)
  | call (function : String) (args : List Expr)
  | items (kind : SeqKind) (items : List Expr)

/-- A text beyond what is read. -/
def unreadable : Error := .host (.raised "unreadable module")

/-- The node that a builder makes of its arguments. -/
def build (function : String) (args : List Node) : Except Error Node :=
  match function, args with
  | "form", head :: args => .ok (.formOf head args)
  | "sym", [.str name] => .ok (.symbol name)
  | "kw", [.str name] => .ok (.keyword (Ident.ofText name))
  | "vec", items => .ok (.seq .vector items)
  | "fragment", forms => .ok (.fragment forms)
  | "hole", [] => .ok (.hole ⟨none, false⟩)
  | "hole", [.str name] => .ok (.hole ⟨some name, false⟩)
  | "splice", [] => .ok (.hole ⟨none, true⟩)
  | "splice", [.str name] => .ok (.hole ⟨some name, true⟩)
  | _, _ => .error unreadable

/-- The items that a starred argument stands for. -/
def spread : Node → Except Error (List Node)
  | .form items => .ok items
  | .seq _ items => .ok items
  | _ => .error unreadable

mutual

/-- The value of an expression, given those of the names in it. -/
def Expr.eval (values : Bindings) : Expr → Except Error Node
  | .constant value => .ok value
  | .name text =>
    match values.get? text with
    | some value => .ok value
    | none => .error unreadable
  | .starred _ => .error unreadable
  | .call function args => do build function (← evalItems values args)
  | .items kind items => do return .seq kind (← evalItems values items)
termination_by structural e => e

/-- The values of arguments or items, starred ones in line. -/
def evalItems (values : Bindings) : List Expr → Except Error (List Node)
  | [] => .ok []
  | .starred argument :: rest => do
    let items ← spread (← argument.eval values)
    return items ++ (← evalItems values rest)
  | e :: rest => do
    let item ← e.eval values
    return item :: (← evalItems values rest)
termination_by structural es => es

end

mutual

/-- Whether an expression has no other names in it. -/
def Expr.closed (names : List String) : Expr → Bool
  | .constant _ => true
  | .name text => names.contains text
  | .starred argument => argument.closed names
  | .call _ args => allClosed names args
  | .items _ items => allClosed names items
termination_by structural e => e

/-- Whether there are no other names in any expression. -/
def allClosed (names : List String) : List Expr → Bool
  | [] => true
  | e :: rest => e.closed names && allClosed names rest
termination_by structural es => es

end

namespace Expressions

/-- What an open bracket is: the whole line, or one of a call, a list or a
tuple. -/
inductive Opening where
  | line
  | call (function : String)
  | square
  | round
deriving DecidableEq

/-- What has been read after a bracket: the items before the last comma, last
one first, and the item after it, starred or not. -/
structure Level where
  opening : Opening := .line
  items : List Expr := []
  star : Bool := false
  item : Option Expr := none

/-- The items, and the one after the last comma. -/
def Level.close (l : Level) : Option (List Expr) :=
  match l.item with
  | some e => some ((if l.star then .starred e else e) :: l.items).reverse
  | none => if l.star then none else some l.items.reverse

/-- The expression between two round brackets: one that is neither starred
nor followed by a comma is itself. -/
def Level.tuple (l : Level) : Option Expr :=
  match l.items, l.star, l.item with
  | [], false, some e => some e
  | _, _, _ => l.close.map (.items .tuple)

/-- Start an item. -/
def Level.put (l : Level) (e : Expr) : Option Level :=
  if l.item.isSome then none else some { l with item := some e }

/-- The words that are no names. -/
def reservedWords : List String :=
  ["None", "True", "False", "and", "as", "assert", "async", "await", "break", "class", "continue",
    "def", "del", "elif", "else", "except", "finally", "for", "from", "global", "if", "import",
    "in", "is", "lambda", "nonlocal", "not", "or", "pass", "raise", "return", "try", "while",
    "with", "yield"]

/-- Whether a word is a name. -/
def isName (text : String) : Bool :=
  text.toList.all (fun c => c.isAlphanum || c == '_')
    && text.toList.head?.any (fun c => !c.isDigit)
    && !reservedWords.contains text

/-- The expression that a word stands for. -/
def word? (text : String) : Option Expr :=
  match text with
  | "None" => some (.constant .nil)
  | "True" => some (.constant (.bool true))
  | "False" => some (.constant (.bool false))
  | text =>
    if isName text then some (.name text)
    else
      match readInteger? text with
      | some n => if intText n = text then some (.constant (.int n)) else none
      | none => none

/-- The levels of the open brackets, innermost first. -/
abbrev Stack := Level × List Level

/-- Close a bracket around an expression. -/
def leave (e : Option Expr) : List Level → Option Stack
  | outer :: rest => do return (← outer.put (← e), rest)
  | [] => none

/-- Read one token. -/
def step : Stack → Token → Option Stack
  | (level, outer), .word text => do return (← level.put (← word? text), outer)
  | (level, outer), .string text => do return (← level.put (.constant (.str text)), outer)
  | (level, outer), .symbol '(' =>
    match level.item with
    | none => some ({ opening := .round }, level :: outer)
    | some (.name function) =>
      some ({ opening := .call function }, { level with item := none } :: outer)
    | some _ => none
  | (level, outer), .symbol '[' =>
    if level.item.isNone then some ({ opening := .square }, level :: outer) else none
  | (level, outer), .symbol ',' =>
    if level.item.isNone ∨ level.opening = .line then none
    else do return ({ opening := level.opening, items := (← level.close).reverse }, outer)
  | (level, outer), .symbol '*' =>
    if level.item.isSome ∨ level.star ∨ level.opening = .line then none
    else some ({ level with star := true }, outer)
  | (level, outer), .symbol ')' =>
    match level.opening with
    | .call function => leave (level.close.map (.call function)) outer
    | .round => leave level.tuple outer
    | _ => none
  | (level, outer), .symbol ']' =>
    match level.opening with
    | .square => leave (level.close.map (.items .list)) outer
    | _ => none
  | _, _ => none

/-- The expression that tokens stand for. -/
def read? (tokens : List Token) : Option Expr := do
  match ← tokens.foldlM step ({}, []) with
  | (level, []) => level.item
  | _ => none

end Expressions

-- =========================================================== functions

/-- The body of a function. -/
inductive Body where
  | returns (value : Expr)
  | raises (error : HostError)

/-- A function that is used as a custom form. -/
structure Function where
  name : String
  params : Params
  doc : String
  body : Body

namespace Function

/-- The arguments by parameter name. The rest parameter is bound to a tuple. -/
def bind (f : Function) (args : List Node) : Bindings :=
  f.params.fixed.zip args
    ++ f.params.rest.toList.map fun rest => (rest, .seq .tuple (args.drop f.params.fixed.length))

/-- Call a function. -/
def expand (f : Function) (args : List Node) : Except Error Node :=
  if f.params.accepts args.length then
    match f.body with
    | .returns value => value.eval (f.bind args)
    | .raises error => .error (.host error)
  else .error (.host (.wrongCall f.name f.params.fixed args.length))

/-- The parameters of a function, from the opening bracket to the colon. -/
def params? : List Token → Option Params
  | [.symbol ')', .symbol ':'] => some { fixed := [] }
  | [.symbol '*', .word rest, .symbol ')', .symbol ':'] => some { fixed := [], rest := some rest }
  | [.word name, .symbol ')', .symbol ':'] => some { fixed := [name] }
  | .word name :: .symbol ',' :: more => do
    let params ← params? more
    return { params with fixed := name :: params.fixed }
  | _ => none

/-- The error that a function raises. -/
def error? : List Token → Option HostError
  | [.word kind] => ofKind kind ""
  | [.word kind, .symbol '(', .symbol ')'] => ofKind kind ""
  | [.word kind, .symbol '(', .string message, .symbol ')'] => ofKind kind message
  | _ => none
where
  ofKind (kind message : String) : Option HostError :=
    match kind with
    | "ValueError" => some (.raised message)
    | "StopIteration" => some (.exhausted message)
    | _ => none

/-- The description of a function and its body. -/
def body? (names : List String) : List (List Token) → Option (String × Body)
  | [.string doc] :: rest@(_ :: _) => (body? names rest).map fun (_, body) => (doc, body)
  | [.word "return" :: value] => do
    let value ← Expressions.read? value
    if value.closed names then some ("", .returns value) else none
  | [.word "raise" :: error] => (error? error).map fun error => ("", .raises error)
  | _ => none

end Function

-- ========================================================== statements

/-- A line, and the indented lines below it. -/
structure Block where
  header : List Token
  body : List (List Token) := []

/-- A line with its indentation. -/
structure Line where
  indentation : String
  tokens : List Token

/-- The lines that tokens are on. -/
def lines (tokens : List Token) : List Line :=
  (tokens.foldr (fun token (read, lines) =>
    match token with
    | .line indentation => ([], ⟨indentation, read⟩ :: lines)
    | token => (token :: read, lines)) (([] : List Token), ([] : List Line))).2

/-- Indented lines, unless they are indented differently. -/
def aligned? (lines : List Line) : Option (List (List Token)) :=
  if lines.all fun line => (lines.head?.map (·.indentation)) == some line.indentation then
    some (lines.map (·.tokens))
  else none

/-- The blocks of lines; none at all if the first is indented. -/
def blocks? (lines : List Line) : Option (List Block) := do
  let (leading, blocks) ← lines.foldr (fun line state => do
    let (below, blocks) ← state
    if line.indentation.isEmpty then return ([], ⟨line.tokens, ← aligned? below⟩ :: blocks)
    else return (line :: below, blocks)) (some (([] : List Line), ([] : List Block)))
  if leading.isEmpty then return blocks else none

/-- What one or two blocks say. -/
inductive Statement where
  | nothing
  | assign (name : String) (value : Expr)
  | template (name : String) (params : List String) (body : Expr)
  | function (formName : String) (function : Function)

/-- The names that modules import, all of them functions. -/
def imported : List String :=
  ["form", "sym", "kw", "vec", "fragment", "hole", "splice", "deftemplate", "jsmacro"]

/-- Whether a module can give a meaning to a name. -/
def isFree (name : String) : Bool := Expressions.isName name && !imported.contains name

/-- Whether tokens are imported names with commas between them. -/
def areImported : List Token → Bool
  | [.word name] => imported.contains name
  | .word name :: .symbol ',' :: rest => imported.contains name && areImported rest
  | _ => false

/-- The texts of constants. -/
def strings? (items : List Expr) : Option (List String) :=
  items.mapM fun
    | .constant (.str text) => some text
    | _ => none

/-- The statement of a line. -/
def statement? : List Token → Option Statement
  | [.string _] => some .nothing
  | .word "from" :: .word "jsforms" :: .word "import" :: names =>
    if areImported names then some .nothing else none
  | .word name :: .symbol '=' :: value => do
    let value ← Expressions.read? value
    if isFree name then some (.assign name value) else none
  | tokens => do
    match ← Expressions.read? tokens with
    | .call "deftemplate" [.constant (.str name), .items .list params, body] =>
      return .template name (← strings? params) body
    | _ => none

/-- The function that a block defines. -/
def function? (block : Block) : Option Function :=
  match block.header with
  | .word "def" :: .word name :: .symbol '(' :: rest => do
    let params ← Function.params? rest
    let names := params.fixed ++ params.rest.toList
    let (doc, body) ← Function.body? names block.body
    if (name :: names).all isFree ∧ names.Nodup then some { name, params, doc, body } else none
  | _ => none

/-- The name of the form that a mark before a function registers it as. -/
def formName? (function : Function) : List Token → Option String
  | [.word "jsmacro"] => some function.name
  | [.word "jsmacro", .symbol '(', .string name, .symbol ')'] => some name
  | _ => none

/-- The statements of a module. -/
def statements? : List Block → Option (List Statement)
  | [] => some []
  | ⟨.symbol '@' :: mark, []⟩ :: block :: rest => do
    let function ← function? block
    let name ← formName? function mark
    return .function name function :: (← statements? rest)
  | ⟨tokens, []⟩ :: rest => do
    let statement ← statement? tokens
    return statement :: (← statements? rest)
  | _ => none

-- ============================================================= actions

/-- What statements do, given the values of the names before them. -/
def perform : Bindings → List Statement → List Action
  | _, [] => []
  | values, .nothing :: rest => perform values rest
  | values, .assign name value :: rest =>
    match value.eval values with
    | .ok value => .set name (fun _ => .ok value) :: perform (values ++ [(name, value)]) rest
    | .error e => [.set name fun _ => .error e]
  | values, .template name params body :: rest =>
    match body.eval values with
    | .ok body => .define (fun _ _ => .ok (.template name params body "")) :: perform values rest
    | .error e => [.define fun _ _ => .error e]
  | values, .function formName f :: rest =>
    let form (origin : String) : CustomForm := { expand := fun _ => f.expand, origin, doc := f.doc }
    .define (fun origin _ => .ok (.native formName (form origin)))
      :: .set f.name (fun stamp => .ok (.foreign ⟨stamp, 0⟩ ("<function " ++ f.name ++ ">")))
      :: perform (values.filter (·.1 != f.name)) rest

/-- The description of a module: a string at the very front. -/
def description : List Block → List Action
  | ⟨[.string doc], []⟩ :: _ => [.set "__doc__" fun _ => .ok (.str doc)]
  | _ => []

/-- The actions of the module that a text describes. Running a text that
describes none fails. -/
def actions (text : String) : List Action :=
  match (tokens? text).bind (blocks? ∘ lines) with
  | none => [.define fun _ _ => .error unreadable]
  | some blocks =>
    match statements? blocks with
    | none => [.define fun _ _ => .error unreadable]
    | some statements => description blocks ++ perform [] statements

end FormScript.ModuleText
