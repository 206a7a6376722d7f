/-
The trees that are written as script. A node is an atom, a form (a call
interpreted by its head), a sequence, a map, a one-shot stream, or a hole of
a template.

Sequences and maps come in kinds. The literal kinds, `vector` and `object`,
are the language's own; lists, tuples and dictionaries are values of the host
that may stand wherever the literal kinds do. All sequences are written
alike, and so are all maps; the kinds differ as dictionary keys and in their
literal texts.

`Node.height` is the nesting depth of a tree, the measure by which every
walk over it ends.
-/
import FormScript.Ident
import FormScript.Number.Binary64
import FormScript.Regex
import FormScript.Stream

namespace FormScript

/-- A place in a template to be filled: with the value of a name, or with the
next positional value if it has none. A splice takes a sequence and stands
for its items. -/
structure Hole where
  name : Option String
  splice : Bool
deriving DecidableEq, Inhabited

/-- The text of a hole. A hole without a name, or with an empty one, shows an
underscore. -/
def Hole.text (h : Hole) : String :=
  let name := match h.name with
    | none => "_"
    | some name => if name.isEmpty then "_" else name
  (if h.splice then "~@" else "~") ++ name

/-- The kinds of sequences: the language's own array literal, and two that
the host brings. -/
inductive SeqKind where
  | vector
  | list
  | tuple
deriving DecidableEq

/-- The kinds of maps: the language's own object literal, which keeps repeated
keys, and the host's dictionary, which does not. -/
inductive MapKind where
  | object
  | dictionary
deriving DecidableEq

/-- A node of a tree. -/
inductive Node where
  | nil
  | bool (value : Bool)
  | int (value : Int)
  /-- A binary64 number. Its identity counts only if it is not a number, which
  makes it equal to itself only. -/
  | float (id : Identity) (value : Binary64)
  | ratio (value : Rat)
  | str (value : String)
  | sym (id : Ident)
  | keyword (id : Ident)
  | regex (value : Regex)
  | bytes (value : List UInt8)
  /-- A host value of no known kind: it has a text and is equal to itself only. -/
  | foreign (id : Identity) (text : String)
  | hole (hole : Hole)
  | form (items : List Node)
  | seq (kind : SeqKind) (items : List Node)
  | map (kind : MapKind) (pairs : List (Node × Node))
  | stream (id : Identity) (items : List Node)
deriving Inhabited

namespace Node

-- ============================================================== height

mutual

/-- The nesting depth of a node. -/
def height : Node → Nat
  | .form items => heights items + 1
  | .seq _ items => heights items + 1
  | .map _ pairs => pairHeights pairs + 1
  | .stream _ items => heights items + 1
  | _ => 0
termination_by structural n => n

/-- The greatest height among nodes. -/
def heights : List Node → Nat
  | [] => 0
  | n :: rest => max n.height (heights rest)
termination_by structural ns => ns

/-- The greatest height among keys and values. -/
def pairHeights : List (Node × Node) → Nat
  | [] => 0
  | (k, v) :: rest => max (max k.height v.height) (pairHeights rest)
termination_by structural ps => ps

end

theorem height_le_heights {n : Node} {items : List Node} (h : n ∈ items) :
    n.height ≤ heights items := by
  induction items with
  | nil => cases h
  | cons m rest ih =>
    rw [heights]
    cases h with
    | head => exact Nat.le_max_left ..
    | tail _ h => exact Nat.le_trans (ih h) (Nat.le_max_right ..)

theorem height_le_pairHeights {p : Node × Node} {pairs : List (Node × Node)} (h : p ∈ pairs) :
    p.1.height ≤ pairHeights pairs ∧ p.2.height ≤ pairHeights pairs := by
  induction pairs with
  | nil => cases h
  | cons q rest ih =>
    obtain ⟨k, v⟩ := q
    rw [pairHeights]
    cases h with
    | head => exact ⟨by show k.height ≤ _; omega, by show v.height ≤ _; omega⟩
    | tail _ h => exact ⟨by have := (ih h).1; omega, by have := (ih h).2; omega⟩

-- ============================================================ builders

/-- A symbol, its namespace split off the text. -/
def symbol (text : String) : Node := .sym (Ident.ofText text)

/-- A call form with a symbol at its head. -/
def call (head : String) (args : List Node) : Node := .form (symbol head :: args)

/-- A form with this head, where a string stands for the symbol it spells. -/
def formOf (head : Node) (args : List Node) : Node :=
  match head with
  | .str text => call text args
  | head => .form (head :: args)

/-- Several forms as one: a single form as it is, others as statements of a
`do` form. -/
def fragment : List Node → Node
  | [n] => n
  | ns => .form (.sym ⟨"do", none⟩ :: ns)

/-- The head of a form, if it has one. -/
def head? : Node → Option Node
  | .form (head :: _) => some head
  | _ => none

/-- The name and the arguments of a call form with a symbol at its head. -/
def call? : Node → Option (String × List Node)
  | .form (.sym id :: args) => some (id.name, args)
  | _ => none

/-- The name of the custom form that a node would invoke. -/
def callName? (n : Node) : Option String := n.call?.map (·.1)

/-- The items of a sequence of any kind. -/
def seqItems? : Node → Option (List Node)
  | .seq _ items => some items
  | _ => none

/-- The identifier of a symbol or a keyword. -/
def ident? : Node → Option Ident
  | .sym id => some id
  | .keyword id => some id
  | _ => none

end Node

end FormScript
