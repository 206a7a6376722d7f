/-
Expansion of heads, apart from writing. A node whose head is a registered
symbol is replaced by its expansion, once or until its head is no longer
registered. Nodes below the head are left alone.

The limit counts the looks at the head, so it has to exceed the number of
expansions by one.

Expansion ends with a node that is not changed. Here this is one whose head
is not registered. A function that gives back the very node that it has been
called from would end it as well; functions are handed the arguments only and
are taken to build what they return.
-/
import FormScript.Registry

namespace FormScript.Registry

/-- The node after at most one expansion of its head. -/
def expandOnce (r : Registry) (stamp : Nat) (n : Node) : Except Error Node :=
  match r.call? n with
  | some (form, args) => form.expand stamp args
  | none => .ok n

/-- Expand the head of a node while looking at it at most `left` times. -/
def expandWithin (r : Registry) (limit : Int) : (left stamp : Nat) → Node → Except Error Node
  | 0, _, n => .error (.form (.depthExceeded n.callName? limit))
  | left + 1, stamp, n =>
    match r.call? n with
    | some (form, args) => do expandWithin r limit left (stamp + 1) (← form.expand stamp args)
    | none => .ok n

/-- The node once its head is no longer a registered form. -/
def expand (r : Registry) (limit : Int) (stamp : Nat) (n : Node) : Except Error Node :=
  r.expandWithin limit limit.toNat stamp n

/-- How many looks at a head are allowed unless said otherwise. -/
def defaultLimit : Int := 100

end FormScript.Registry
