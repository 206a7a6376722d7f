/-
Templates: ordinary trees that hold holes. Filling replaces every hole in one
go, from left to right and depth first, a key before its value: an unnamed
hole takes the next positional value, a named one the value bound to its
name, and a splice puts the items of its value in its place. What is put in
is never looked at again, so holes inside a value stay.

Streams are not entered. A dictionary is built anew from the filled pairs.
-/
import FormScript.Error

namespace FormScript

/-- Values by name; of several for one name the last counts. -/
abbrev Bindings := List (String × Node)

namespace Bindings

/-- The value bound to a name. -/
def get? (b : Bindings) (name : String) : Option Node := b.reverse.lookup name

/-- Whether a name is bound. -/
def binds (b : Bindings) (name : String) : Bool := b.any (·.1 == name)

end Bindings

/-- The values for the holes of a template. -/
structure Supply where
  positional : List Node := []
  named : Bindings := []

/-- Filling goes through the positional values as it meets unnamed holes. -/
abbrev FillM := StateT (List Node) (Except Error)

namespace Supply

/-- Fail for a reason of templates. -/
def refuse {α : Type} (cause : TemplateError) : FillM α := throw (.form (.template cause))

/-- The value for a hole. -/
def valueFor (s : Supply) (h : Hole) : FillM Node := do
  match h.name with
  | some name =>
    match s.named.get? name with
    | some value => return value
    | none => refuse (.unbound h)
  | none =>
    match ← get with
    | value :: rest => do
      set rest
      return value
    | [] => refuse (.missingValue s.positional.length)

/-- The items that a value stands for at a splice. -/
def spliced (h : Hole) : Node → FillM (List Node)
  | .form items => return items
  | .seq _ items => return items
  | value => refuse (.notSequence h value)

mutual

/-- A node with its holes replaced. -/
def fillNode (s : Supply) : Node → FillM Node
  | .hole h => if h.splice then refuse (.strandedSplice h) else s.valueFor h
  | .form items => return .form (← fillItems s items)
  | .seq kind items => return .seq kind (← fillItems s items)
  | .map .object pairs => return .map .object (← fillPairs s pairs)
  | .map .dictionary pairs => return .map .dictionary (← fillEntries s [] pairs)
  | n => return n
termination_by structural n => n

/-- Items with their holes replaced, splices in line. -/
def fillItems (s : Supply) : List Node → FillM (List Node)
  | [] => return []
  | .hole h :: rest => do
    let value ← s.valueFor h
    let items ← if h.splice then spliced h value else pure [value]
    return items ++ (← fillItems s rest)
  | n :: rest => do
    let m ← fillNode s n
    return m :: (← fillItems s rest)
termination_by structural ns => ns

/-- Pairs with their holes replaced. -/
def fillPairs (s : Supply) : List (Node × Node) → FillM (List (Node × Node))
  | [] => return []
  | (k, v) :: rest => do
    let k' ← fillNode s k
    let v' ← fillNode s v
    return (k', v') :: (← fillPairs s rest)
termination_by structural ps => ps

/-- Pairs with their holes replaced and entered one after another into the
pairs of a dictionary. -/
def fillEntries (s : Supply) (entered : List (Node × Node)) :
    List (Node × Node) → FillM (List (Node × Node))
  | [] => return entered
  | (k, v) :: rest => do
    let k' ← fillNode s k
    let v' ← fillNode s v
    match enterPair? entered k' v' with
    | .error kind => throw (.host (.unhashableKey kind))
    | .ok pairs => fillEntries s pairs rest
termination_by structural ps => ps

end

/-- A template with its holes replaced, all positional values being used. -/
def fill (s : Supply) (template : Node) : Except Error Node := do
  if s.named.binds reservedName then throw (.host .reservedName)
  let (result, left) ← (s.fillNode template).run s.positional
  if left.isEmpty then return result
  throw (.form (.template
    (.surplusValues (s.positional.length - left.length) s.positional.length)))

end Supply

-- ========================================================== parameters

/-- The parameters of a template form: some fixed ones and possibly one that
collects the remaining arguments. -/
structure Params where
  fixed : List String
  rest : Option String := none

namespace Params

/-- Read a parameter list, in which the rest marker may only stand before the
last name. -/
def parse (names : List String) : Except HostError Params :=
  match names.span (· != restMarker) with
  | (fixed, []) => .ok { fixed }
  | (fixed, [_, rest]) => .ok { fixed, rest := some rest }
  | _ => .error .misplacedRest

/-- Whether this many arguments can be bound. -/
def accepts (p : Params) (count : Nat) : Bool :=
  p.fixed.length ≤ count && (p.rest.isSome || count ≤ p.fixed.length)

/-- The arguments by parameter name. The rest parameter is bound to a list. -/
def bind (p : Params) (args : List Node) : Bindings :=
  p.fixed.zip args ++
    match p.rest with
    | none => []
    | some rest => [(rest, .seq .list (args.drop p.fixed.length))]

/-- The mistake of giving `count` arguments to the form called `name`. A rest
parameter with an empty name goes unmentioned. -/
def arityError (p : Params) (name : String) (count : Nat) : Error :=
  .form (.templateArity name p.fixed.length (p.rest.any (!·.isEmpty)) count)

end Params

end FormScript
