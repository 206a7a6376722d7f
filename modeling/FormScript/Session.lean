/-
Sessions: any interleaving of work on named registries, emitters and scopes.
An emitter keeps the forms that its registry held when it was made; a scope
keeps the names that every emission into it declared, failed ones included.
How far streams have been read is shared by the whole session.
-/
import FormScript.Emission
import FormScript.Expansion

namespace FormScript

/-- A custom form to be defined. -/
inductive Definition where
  | template (name : String) (params : List String) (body : Node) (doc : String)
  | native (name : String) (form : CustomForm)

namespace Definition

/-- The name that a definition defines. -/
def name : Definition → String
  | template name _ _ _ => name
  | native name _ => name

/-- The form that a definition defines. -/
def form : Definition → Except Error CustomForm
  | template name params body doc => CustomForm.template name params body doc
  | native _ form => .ok form

end Definition

/-- The registry that is used when none is named. -/
def defaultRegistry : String := "default"

/-- Named registries, emitters and scopes. -/
structure Session where
  registries : List (String × Registry) := [(defaultRegistry, Registry.empty)]
  emitters : List (String × Emitter) := []
  scopes : List (String × Scope) := []
  streams : Streams := {}

/-- One step of a session. -/
inductive Step where
  | newRegistry (registry : String) (copy : Option String)
  | define (registry : String) (definition : Definition)
  | defineValue (value : Node)
  | unregister (registry name : String)
  | clear (registry : String)
  | list (registry : String)
  | has (registry name : String)
  | call (registry name : String) (args : List Node)
  | newEmitter (emitter registry : String) (config : Config)
  | setConfig (emitter : String) (config : Config)
  | newScope (scope : String) (dedupe : Bool)
  | openScope (emitter scope : String)
  | setDedupe (scope : String) (dedupe : Bool)
  | declare (scope : String) (names : List String)
  | emit (emitter : String) (node : Node) (scope : Option String)
  | function (emitter : String) (name : Option Node) (params : Node) (body : List Node)
      (declaration : Bool)
  | program (emitter : String) (forms : List Node)
  | script (registry : String) (config : Config) (forms : List Node)
  | expandOnce (registry : String) (node : Node)
  | expand (registry : String) (limit : Int) (node : Node)

/-- What a step answers. -/
inductive Reply where
  | done
  | names (names : List String)
  | listing (names : List String) (size : Nat)
  | membership (present : Bool)
  | flag (value : Bool)
  | declared (scope : Scope)
  | node (node : Node)
  | text (text : String)
  /-- The outcome of an emission and the names of its scope afterwards. -/
  | emitted (outcome : Except Error String) (names : Option (List String))

/-- Put a value under a name, in place of any other under it. -/
def putNamed {α : Type} (name : String) (value : α) : List (String × α) → List (String × α)
  | [] => [(name, value)]
  | (key, other) :: rest =>
    if key = name then (name, value) :: rest else (key, other) :: putNamed name value rest

theorem lookup_putNamed_self {α : Type} (name : String) (value : α) (named : List (String × α)) :
    (putNamed name value named).lookup name = some value := by
  induction named with
  | nil => rw [putNamed, List.lookup_cons, beq_self_eq_true]
  | cons entry rest ih =>
    rw [putNamed]
    split
    · rw [List.lookup_cons, beq_self_eq_true]
    · rename_i differ
      rw [List.lookup_cons, beq_false_of_ne (Ne.symm differ), ih]

theorem lookup_putNamed_of_ne {α : Type} {name other : String} (h : other ≠ name) (value : α)
    (named : List (String × α)) :
    (putNamed name value named).lookup other = named.lookup other := by
  have hother : (other == name) = false := beq_false_of_ne h
  induction named with
  | nil => rw [putNamed, List.lookup_cons, hother]
  | cons entry rest ih =>
    rw [putNamed]
    split
    · rename_i same
      rw [List.lookup_cons, List.lookup_cons, same, hother]
    · rw [List.lookup_cons, List.lookup_cons, ih]

namespace Session

/-- The registry of a name; an unknown one is empty. -/
def registry (s : Session) (name : String) : Registry :=
  (s.registries.lookup name).getD Registry.empty

/-- The emitter of a name; an unknown one has no forms. -/
def emitter (s : Session) (name : String) : Emitter := (s.emitters.lookup name).getD {}

/-- The scope of a name; an unknown one is empty. -/
def scope (s : Session) (name : String) : Scope := (s.scopes.lookup name).getD {}

def putRegistry (s : Session) (name : String) (r : Registry) : Session :=
  { s with registries := putNamed name r s.registries }

def putEmitter (s : Session) (name : String) (e : Emitter) : Session :=
  { s with emitters := putNamed name e s.emitters }

def putScope (s : Session) (name : String) (scope : Scope) : Session :=
  { s with scopes := putNamed name scope s.scopes }

/-- What a step leads to: its answer or failure, what was noted meanwhile,
and the session afterwards. -/
structure Result where
  outcome : Except Error Reply
  events : Array Event := #[]
  session : Session

/-- The result of writing text, with or without a scope. -/
structure Written where
  outcome : Except Error String
  scope : Option Scope
  events : Array Event
  session : Session

/-- Write text in a session. -/
def write (s : Session) (scope : Option Scope) (act : EmitM String) : Written :=
  match act { scope, streams := s.streams } with
  | .ok text r => ⟨.ok text, r.scope, r.events, { s with streams := r.streams }⟩
  | .error e r => ⟨.error e, r.scope, r.events, { s with streams := r.streams }⟩

/-- Text that was written, as the result of a step. -/
def Written.result (w : Written) : Result := ⟨w.outcome.map .text, w.events, w.session⟩

/-- A function whose name is written only in a declaration. -/
def functionLayout (name : Option Node) (params : Node) (body : List Node) (declaration : Bool) :
    Layout :=
  let label := match name with
    | some n => if declaration then Layout.parameter n else Layout.empty
    | none => Layout.empty
  Layout.function label params body

/-- The names of a registry after it has changed. -/
def changed (s : Session) (name : String) (r : Registry) (events : Array Event := #[]) : Result :=
  ⟨.ok (.names r.names), events, s.putRegistry name r⟩

/-- Take one step. -/
def step (s : Session) : Step → Result
  | .newRegistry name copy => s.changed name ((copy.map s.registry).getD Registry.empty)
  | .define name definition =>
    match definition.form with
    | .error e => ⟨.error e, #[], s⟩
    | .ok form =>
      let r := s.registry name
      s.changed name (r.insert definition.name form) #[r.registration definition.name]
  | .defineValue _ => ⟨.error (.host .notDefinable), #[], s⟩
  | .unregister registry name => s.changed registry ((s.registry registry).erase name)
  | .clear registry => s.changed registry Registry.empty
  | .list registry =>
    let r := s.registry registry
    ⟨.ok (.listing r.names r.size), #[], s⟩
  | .has registry name => ⟨.ok (.membership ((s.registry registry).contains name)), #[], s⟩
  | .call registry name args =>
    let outcome := match (s.registry registry).get? name with
      | some form => (form.expand s.streams.nextStamp args).map .node
      | none => .error (.host .notCallable)
    ⟨outcome, #[], { s with streams := s.streams.useStamp }⟩
  | .newEmitter name registry config =>
    let forms := s.registry registry
    ⟨.ok (.names forms.names), #[], s.putEmitter name { forms, config }⟩
  | .setConfig name config =>
    ⟨.ok .done, #[], s.putEmitter name { s.emitter name with config }⟩
  | .newScope name dedupe => ⟨.ok .done, #[], s.putScope name { dedupe }⟩
  | .openScope emitter name =>
    let scope := (s.emitter emitter).newScope
    ⟨.ok (.flag scope.dedupe), #[], s.putScope name scope⟩
  | .setDedupe name dedupe =>
    ⟨.ok .done, #[], s.putScope name { s.scope name with dedupe }⟩
  | .declare name names =>
    let scope := (s.scope name).declareAll names
    ⟨.ok (.declared scope), #[], s.putScope name scope⟩
  | .emit emitter node scopeName =>
    let w := s.write (scopeName.map s.scope) ((s.emitter emitter).emit node)
    let session := match scopeName, w.scope with
      | some name, some scope => w.session.putScope name scope
      | _, _ => w.session
    ⟨.ok (.emitted w.outcome (w.scope.map (·.names))), w.events, session⟩
  | .function emitter name params body declaration =>
    (s.write none
      ((s.emitter emitter).emitLayout (functionLayout name params body declaration))).result
  | .program emitter forms => (s.write none ((s.emitter emitter).emitProgram forms)).result
  | .script registry config forms =>
    (s.write none (({ forms := s.registry registry, config } : Emitter).emitProgram forms)).result
  | .expandOnce registry node =>
    ⟨((s.registry registry).expandOnce s.streams.nextStamp node).map .node, #[],
      { s with streams := s.streams.useStamp }⟩
  | .expand registry limit node =>
    -- one stamp is set aside for each look at the head
    ⟨((s.registry registry).expand limit s.streams.nextStamp node).map .node, #[],
      { s with streams := s.streams.useStamps limit.toNat }⟩

end Session

end FormScript
