/-
Operators: which heads are written between, before or after their operands,
which of those between take more than two, and how equality is spelled.
-/

namespace FormScript.Operator

/-- Operators written between their operands. -/
def binary : List String :=
  ["+", "+=", "-", "-=", "/", "*", "%", "==", "===", "<", ">", "<=", ">=", "!=", "<<", ">>",
   "<<<", ">>>", "!==", "&", "|", "&&", "||", "=", "not=", "instanceof"]

/-- Binary operators that accept more than two operands. -/
def chainable : List String := ["+", "-", "*", "/", "&", "|", "&&", "||"]

/-- Operators written before their one operand. -/
def leading : List String := ["!"]

/-- Operators written after their one operand. -/
def trailing : List String := ["++", "--"]

def isBinary (name : String) : Bool := binary.contains name

def isChainable (name : String) : Bool := chainable.contains name

def isLeading (name : String) : Bool := leading.contains name

def isTrailing (name : String) : Bool := trailing.contains name

/-- The spelling of an operator in a script: equality and inequality are
always strict. -/
def spelling : String → String
  | "=" => "==="
  | "!=" => "!=="
  | "not=" => "!=="
  | name => name

/-- Whether a binary operator takes this many operands. -/
def accepts (name : String) (count : Nat) : Bool :=
  count == 2 || (2 < count && isChainable name)

end FormScript.Operator
