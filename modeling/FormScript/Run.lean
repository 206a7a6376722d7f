/-
Runs: what writing a tree reads and changes besides producing text. A run
declares names in the scope that is open, takes items from streams, uses up
stamps and notes each expansion. All of it stays when the run fails, so the
names declared before a failure are there after it.
-/
import FormScript.Error
import FormScript.Scope

namespace FormScript

/-- What is noted about custom forms, in order. -/
inductive Event where
  | registering (name : String)
  | overwriting (name : String)
  | expanding (name : String)
deriving DecidableEq

def Event.message : Event → String
  | registering name => "Registering custom form " ++ name
  | overwriting name => "Overwriting custom form " ++ name
  | expanding name => "Expanding custom form " ++ name

/-- The state of a run. Without a scope no body is open, and declarations are
written in place. -/
structure Run where
  scope : Option Scope := none
  streams : Streams := {}
  events : Array Event := #[]
deriving Inhabited

/-- A computation that writes text: it may fail, and its effects stay. -/
abbrev EmitM := EStateM Error Run

namespace EmitM

/-- Declare names in the open scope, if there is one. -/
def declare (names : List String) : EmitM Unit :=
  modify fun r => { r with scope := r.scope.map (·.declareAll names) }

/-- Whether a scope is open. -/
def hasScope : EmitM Bool := return (← get).scope.isSome

/-- Note an expansion and hand out a stamp for it. -/
def beginExpansion (name : String) : EmitM Nat := do
  let r ← get
  set { r with
    streams := r.streams.useStamp
    events := r.events.push (.expanding name) }
  return r.streams.nextStamp

/-- Run the writing of a body in a scope of its own and put the declaration
of its names in front. The scope that was open before is open again
afterwards, also after a failure. -/
def inScope (scope : Scope) (body : EmitM String) : EmitM String := fun r =>
  match body { r with scope := some scope } with
  | .ok text s => .ok ((s.scope.getD scope).declaration ++ text) { s with scope := r.scope }
  | .error e s => .error e { s with scope := r.scope }

/-- Write those of the items, numbered from `index`, that have not been taken
from the stream yet, each being taken just before it is written. -/
def takeAll (write : Node → EmitM String) (id : Identity) :
    (index : Nat) → List Node → EmitM (List String)
  | _, [] => return []
  | index, n :: rest => do
    let r ← get
    if r.streams.position id ≤ index then
      set { r with streams := r.streams.advance id (index + 1) }
      let text ← write n
      let texts ← takeAll write id (index + 1) rest
      return text :: texts
    else takeAll write id (index + 1) rest

/-- Write a part of a text inside an iteration over such parts. -/
def iterated {α : Type} (m : EmitM α) : EmitM α := fun r =>
  match m r with
  | .ok a s => .ok a s
  | .error e s => .error e.iterated s

/-- The outcome of an `Except` value as that of a run. -/
def ofExcept {α : Type} : Except Error α → EmitM α
  | .ok a => pure a
  | .error e => throw e

end EmitM

end FormScript
