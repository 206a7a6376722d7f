/-
Nodes as keys of a dictionary. A list or a dictionary cannot be a key, nor
can anything that holds one through tuples, vectors, forms or objects.

Two keys are the same if they are numbers of one exact value, whatever their
kinds, or of one kind with the same contents; streams, foreign values and
floats that are not numbers are the same only as themselves. A dictionary
keeps the first of several same keys, in its place, with the last of their
values.

Foreign values are restricted here to those that can be a key and are the same
as nothing else: a class of values with an equality of its own, or with none
that fits a key, is left out.
-/
import FormScript.Node

namespace FormScript

/-- The kinds of nodes that cannot be keys. -/
inductive Unhashable where
  | list
  | dictionary
deriving DecidableEq

/-- The name of a kind that cannot be a key, as messages give it. -/
def Unhashable.name : Unhashable → String
  | .list => "list"
  | .dictionary => "dict"

mutual

/-- The first part of a node, from left to right, that keeps it from being a
key. -/
def Node.unhashable? : Node → Option Unhashable
  | .form items => unhashableIn? items
  | .seq .list _ => some .list
  | .seq _ items => unhashableIn? items
  | .map .object pairs => unhashableInPairs? pairs
  | .map .dictionary _ => some .dictionary
  | _ => none
termination_by structural n => n

/-- The first part of some nodes that cannot be in a key. -/
def unhashableIn? : List Node → Option Unhashable
  | [] => none
  | n :: rest => n.unhashable? <|> unhashableIn? rest
termination_by structural ns => ns

/-- The first part of some pairs that cannot be in a key. -/
def unhashableInPairs? : List (Node × Node) → Option Unhashable
  | [] => none
  | (k, v) :: rest => k.unhashable? <|> v.unhashable? <|> unhashableInPairs? rest
termination_by structural ps => ps

end

-- ========================================================== same keys

/-- The exact value of a number. -/
inductive ExactNumber where
  | finite (value : Rat)
  | infinite (negative : Bool)
deriving DecidableEq

/-- The rational `significand * 2 ^ exponent`, negated if so marked. -/
def ratOfParts (negative : Bool) (significand : Nat) (exponent : Int) : Rat :=
  let magnitude : Int := significand * Nat.pow 2 exponent.toNat
  mkRat (if negative then -magnitude else magnitude) (Nat.pow 2 (-exponent).toNat)

/-- The exact value of a binary64 number, unless it is not a number. -/
def Binary64.exact? (x : Binary64) : Option ExactNumber :=
  match x.value with
  | .nan => none
  | .infinite negative => some (.infinite negative)
  | .finite negative significand exponent =>
    some (.finite (ratOfParts negative significand exponent))

/-- The exact value of a node that is a number; truth values count as one and
zero. -/
def Node.exact? : Node → Option ExactNumber
  | .bool b => some (.finite (if b then 1 else 0))
  | .int n => some (.finite n)
  | .ratio q => some (.finite q)
  | .float _ x => x.exact?
  | _ => none

/-- Whether two nodes are numbers of one exact value. -/
def Node.sameNumber (a b : Node) : Bool :=
  match a.exact?, b.exact? with
  | some x, some y => x == y
  | _, _ => false

mutual

/-- Whether two nodes are the same key. -/
def Node.sameKey : Node → Node → Bool
  | .nil, .nil => true
  | .str s, .str t => s == t
  | .sym i, .sym j => i == j
  | .keyword i, .keyword j => i == j
  | .regex r, .regex s => r == s
  | .bytes bs, .bytes cs => bs == cs
  | .foreign i _, .foreign j _ => i == j
  | .hole h, .hole k => h == k
  | .form xs, .form ys => sameKeys xs ys
  | .seq k xs, .seq l ys => k == l && sameKeys xs ys
  | .map k ps, .map l qs => k == l && samePairs ps qs
  | .stream i _, .stream j _ => i == j
  | .float i x, .float j y => (i == j && x == y) || (Node.float i x).sameNumber (.float j y)
  | a, b => a.sameNumber b
termination_by structural n => n

/-- Whether two lists of nodes are the same keys, one by one. -/
def sameKeys : List Node → List Node → Bool
  | [], [] => true
  | x :: xs, y :: ys => x.sameKey y && sameKeys xs ys
  | _, _ => false
termination_by structural ns => ns

/-- Whether two lists of pairs are the same keys and values, one by one. -/
def samePairs : List (Node × Node) → List (Node × Node) → Bool
  | [], [] => true
  | (k, v) :: ps, (l, w) :: qs => k.sameKey l && v.sameKey w && samePairs ps qs
  | _, _ => false
termination_by structural ps => ps

end

-- ======================================================== dictionaries

/-- Pairs with one more entered: a same key keeps its place and takes the new
value, a new key goes to the end. -/
def enterPair (key value : Node) : List (Node × Node) → List (Node × Node)
  | [] => [(key, value)]
  | (k, v) :: rest =>
    if k.sameKey key then (k, value) :: rest else (k, v) :: enterPair key value rest

/-- Pairs with one more entered, unless its key cannot be one. -/
def enterPair? (pairs : List (Node × Node)) (key value : Node) :
    Except Unhashable (List (Node × Node)) :=
  match key.unhashable? with
  | some kind => .error kind
  | none => .ok (enterPair key value pairs)

end FormScript
