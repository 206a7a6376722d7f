/-
Texts of nodes. There are three.

- `Node.display` is prefix notation, `(if x [1 2] nil)`, the text of messages.
- `Node.literal` spells out a value with all its parts, as the host writes it.
- `Node.plain` is the text that a node has when it is inserted raw: prefix
  notation for the language's own nodes, and literals for the host's
  containers.
-/
import FormScript.Node
import FormScript.Number.Text
import FormScript.Text.Quoted

namespace FormScript

open Text (quoted quotedBytes)

/-- The text that stands for the items of a stream, which no text shows. -/
def streamText : String := "<generator>"

/-- A keyword's text: that of its identifier after a colon. -/
def keywordText (id : Ident) : String := ":" ++ id.text

-- ====================================================== prefix notation

mutual

/-- A node in prefix notation. -/
def Node.display : Node → String
  | .nil => "nil"
  | .bool b => if b then "true" else "false"
  | .int n => intText n
  | .float _ x => x.text
  | .ratio q => ratText q
  | .str s => "\"" ++ s ++ "\""
  | .sym id => id.text
  | .keyword id => keywordText id
  | .regex r => "#\"" ++ r.pattern ++ "\""
  | .bytes bs => quotedBytes bs
  | .foreign _ text => text
  | .hole h => h.text
  | .form items => "(" ++ " ".intercalate (displayAll items) ++ ")"
  | .seq _ items => "[" ++ " ".intercalate (displayAll items) ++ "]"
  | .map _ pairs => "\x7b" ++ ", ".intercalate (displayPairs pairs) ++ "\x7d"
  | .stream _ _ => streamText
termination_by structural n => n

/-- Each node in prefix notation. -/
def displayAll : List Node → List String
  | [] => []
  | n :: rest => n.display :: displayAll rest
termination_by structural ns => ns

/-- Each key and its value in prefix notation. -/
def displayPairs : List (Node × Node) → List String
  | [] => []
  | (k, v) :: rest => (k.display ++ " " ++ v.display) :: displayPairs rest
termination_by structural ps => ps

end

-- ============================================================ literals

/-- An optional text as a literal. -/
def optionLiteral : Option String → String
  | none => "None"
  | some s => quoted s

/-- A truth value as a literal. -/
def boolLiteral (b : Bool) : String := if b then "True" else "False"

/-- An identifier as a literal, after the name of its kind. -/
def identLiteral (kind : String) (id : Ident) : String :=
  kind ++ "(name=" ++ quoted id.name ++ ", ns=" ++ optionLiteral id.ns ++ ")"

/-- Literals between parentheses; a single one is followed by a comma. -/
def tupleLiteral : List String → String
  | [x] => "(" ++ x ++ ",)"
  | xs => "(" ++ ", ".intercalate xs ++ ")"

/-- The names of the options that are set, in a fixed order. -/
def RegexFlags.names (f : RegexFlags) : List String :=
  [(f.template, "re.TEMPLATE"), (f.ignoreCase, "re.IGNORECASE"), (f.multiline, "re.MULTILINE"),
   (f.dotAll, "re.DOTALL"), (f.verbose, "re.VERBOSE"), (f.ascii, "re.ASCII")].filterMap fun (set, name) =>
    if set then some name else none

/-- The most characters of a quoted pattern that a regular expression's
literal shows. -/
def patternWidth : Nat := 200

/-- A regular expression as a literal. -/
def Regex.literal (r : Regex) : String :=
  let flags := match r.flags.names with
    | [] => ""
    | names => ", " ++ "|".intercalate names
  "re.compile(" ++ String.ofList ((quoted r.pattern).toList.take patternWidth) ++ flags ++ ")"

/-- A hole as a literal. -/
def Hole.literal (h : Hole) : String :=
  "Hole(name=" ++ optionLiteral h.name ++ ", splat=" ++ boolLiteral h.splice ++ ")"

mutual

/-- A node as a literal. -/
def Node.literal : Node → String
  | .nil => "None"
  | .bool b => boolLiteral b
  | .int n => intText n
  | .float _ x => x.text
  | .ratio q => "Fraction(" ++ intText q.num ++ ", " ++ natText q.den ++ ")"
  | .str s => quoted s
  | .sym id => identLiteral "Sym" id
  | .keyword id => identLiteral "Keyword" id
  | .regex r => r.literal
  | .bytes bs => quotedBytes bs
  | .foreign _ text => "<" ++ text ++ ">"
  | .hole h => h.literal
  | .form items => "Form(items=" ++ tupleLiteral (literalAll items) ++ ")"
  | .seq .vector items => "Vector(items=" ++ tupleLiteral (literalAll items) ++ ")"
  | .seq .list items => "[" ++ ", ".intercalate (literalAll items) ++ "]"
  | .seq .tuple items => tupleLiteral (literalAll items)
  | .map .object pairs =>
    "MapLit(pairs=" ++ tupleLiteral ((literalPairs pairs).map fun (k, v) => tupleLiteral [k, v])
      ++ ")"
  | .map .dictionary pairs =>
    "\x7b" ++ ", ".intercalate ((literalPairs pairs).map fun (k, v) => k ++ ": " ++ v) ++ "\x7d"
  | .stream _ _ => streamText
termination_by structural n => n

/-- Each node as a literal. -/
def literalAll : List Node → List String
  | [] => []
  | n :: rest => n.literal :: literalAll rest
termination_by structural ns => ns

/-- Each key and each value as a literal. -/
def literalPairs : List (Node × Node) → List (String × String)
  | [] => []
  | (k, v) :: rest => (k.literal, v.literal) :: literalPairs rest
termination_by structural ps => ps

end

-- ========================================================== plain text

namespace Node

/-- The text of a node inserted as it is. -/
def plain : Node → String
  | .nil => "None"
  | .bool b => boolLiteral b
  | .str s => s
  | .regex r => r.literal
  | .seq .list items => (Node.seq .list items).literal
  | .seq .tuple items => (Node.seq .tuple items).literal
  | .map .dictionary pairs => (Node.map .dictionary pairs).literal
  | n => n.display

/-- The name of a node's kind, as messages give it. -/
def kindName : Node → String
  | .nil => "NoneType"
  | .bool _ => "bool"
  | .int _ => "int"
  | .float _ _ => "float"
  | .ratio _ => "Fraction"
  | .str _ => "str"
  | .sym _ => "Sym"
  | .keyword _ => "Keyword"
  | .regex _ => "Pattern"
  | .bytes _ => "bytes"
  | .foreign _ _ => "Opaque"
  | .hole _ => "Hole"
  | .form _ => "Form"
  | .seq .vector _ => "Vector"
  | .seq .list _ => "list"
  | .seq .tuple _ => "tuple"
  | .map .object _ => "MapLit"
  | .map .dictionary _ => "dict"
  | .stream _ _ => "generator"

end Node

end FormScript
