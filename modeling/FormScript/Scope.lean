/-
Scopes: the names declared inside one function body or one program, which
are written as a single declaration at its top; and the termination of
statements.
-/

namespace FormScript

/-- What ends a statement. -/
def separator : String := ";\n"

/-- Whether a text already ends like a statement. -/
def isTerminated (text : String) : Bool := separator.toList.isSuffixOf text.toList

/-- A text as a statement, terminated once. -/
def terminate (text : String) : String :=
  if isTerminated text then text else text ++ separator

/-- The names declared in one body, in order. A scope that dedupes takes each
name once. -/
structure Scope where
  names : List String := []
  dedupe : Bool := true
deriving DecidableEq, Inhabited

namespace Scope

/-- A scope after one more declaration. -/
def declare (s : Scope) (name : String) : Scope :=
  if s.dedupe && s.names.contains name then s else { s with names := s.names ++ [name] }

/-- A scope after several declarations. -/
def declareAll (s : Scope) (names : List String) : Scope := names.foldl declare s

/-- The statement that declares all the names at once; nothing if there are
none. -/
def declaration (s : Scope) : String :=
  match s.names with
  | [] => ""
  | names => "var " ++ ", ".intercalate names ++ separator

@[simp] theorem declareAll_nil (s : Scope) : s.declareAll [] = s := rfl

@[simp] theorem declareAll_cons (s : Scope) (name : String) (names : List String) :
    s.declareAll (name :: names) = (s.declare name).declareAll names := rfl

theorem declareAll_append (s : Scope) (xs ys : List String) :
    s.declareAll (xs ++ ys) = (s.declareAll xs).declareAll ys := by
  simp [declareAll]

end Scope

end FormScript
