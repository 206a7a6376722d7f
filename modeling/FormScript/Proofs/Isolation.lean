/-
Emitters in a session are isolated from its registries. An emitter keeps the forms
that its registry held when it was made, whatever any step does to any registry
afterwards, and a registry keeps its forms until a step writes this very registry.

# The argument

What one step can change is said once: at most one registry, the one it writes
(`Session.step_registries`), and at most one emitter, which it makes or gives other
settings (`Session.step_emitters`). Along a run of steps an emitter is then what it
was, with the settings it was given last (`Session.after_emitter`).

A definition fails exactly if it is a template whose rest marker is misplaced
(`Definition.form_error_iff`), and then the step does nothing at all.
-/
import FormScript.Proofs.Parameters
import FormScript.Registry.Stock
import FormScript.Session

namespace FormScript

-- ================================================================= steps

namespace Step

/-- The registry that a step writes. -/
def written? : Step → Option String
  | .newRegistry registry _ => some registry
  | .define registry _ => some registry
  | .unregister registry _ => some registry
  | .clear registry => some registry
  | _ => none

/-- The emitter that a step makes. -/
def made? : Step → Option String
  | .newEmitter emitter _ _ => some emitter
  | _ => none

/-- The settings that a step gives to the emitter of a name. -/
def settings? (emitter : String) : Step → Option Config
  | .setConfig name config => if name = emitter then some config else none
  | _ => none

end Step

namespace Session

variable (s : Session)

/-- The session after some steps. -/
def after (steps : List Step) : Session := steps.foldl (fun s st => (s.step st).session) s

/-- Writing text leaves registries and emitters alone. -/
theorem write_frame (scope : Option Scope) (act : EmitM String) :
    (s.write scope act).session.registries = s.registries
      ∧ (s.write scope act).session.emitters = s.emitters := by
  unfold write
  split <;> exact ⟨rfl, rfl⟩

/-- So does an emission, which may put a scope back. -/
theorem step_emit_frame (emitter : String) (node : Node) (scope : Option String) :
    (s.step (.emit emitter node scope)).session.registries = s.registries
      ∧ (s.step (.emit emitter node scope)).session.emitters = s.emitters := by
  have hwrite := s.write_frame (scope.map s.scope) ((s.emitter emitter).emit node)
  unfold step
  simp only
  split <;> exact hwrite

/-- A definition that fails does nothing. -/
theorem step_define_error (name : String) {definition : Definition} {err : Error}
    (h : definition.form = .error err) :
    s.step (.define name definition) = ⟨.error err, #[], s⟩ := by
  simp only [step, h]

theorem step_define_ok (name : String) {definition : Definition} {form : CustomForm}
    (h : definition.form = .ok form) :
    s.step (.define name definition)
      = s.changed name ((s.registry name).insert definition.name form)
          #[(s.registry name).registration definition.name] := by
  simp only [step, h]

/-- A step changes no registry but the one it writes. -/
theorem step_registries (st : Step) :
    (s.step st).session.registries = s.registries
      ∨ ∃ name r, st.written? = some name
        ∧ (s.step st).session.registries = putNamed name r s.registries := by
  cases st with
  | newRegistry name copy | unregister name form | clear name => exact .inr ⟨name, _, rfl, rfl⟩
  | define name definition =>
      cases h : definition.form with
      | error err =>
          rw [s.step_define_error name h]
          exact .inl rfl
      | ok form =>
          rw [s.step_define_ok name h]
          exact .inr ⟨name, _, rfl, rfl⟩
  | emit emitter node scope => exact .inl (s.step_emit_frame emitter node scope).1
  | function | program | script => exact .inl (s.write_frame _ _).1
  | _ => exact .inl rfl

/-- A step changes no emitter but the one that it makes or gives other settings. -/
theorem step_emitters (st : Step) :
    (s.step st).session.emitters = match st with
      | .newEmitter name registry config =>
        putNamed name { forms := s.registry registry, config } s.emitters
      | .setConfig name config => putNamed name { s.emitter name with config } s.emitters
      | _ => s.emitters := by
  cases st with
  | define name definition =>
      cases h : definition.form with
      | error err => rw [s.step_define_error name h]
      | ok form =>
          rw [s.step_define_ok name h]
          rfl
  | emit emitter node scope => exact (s.step_emit_frame emitter node scope).2
  | function | program | script => exact (s.write_frame _ _).2
  | _ => rfl

theorem step_emitters_of_written {st : Step} {name : String} (h : st.written? = some name) :
    (s.step st).session.emitters = s.emitters := by
  rw [s.step_emitters]
  cases st with
  | newEmitter | setConfig => cases h
  | _ => rfl

/-- An emitter is made with the forms that its registry holds. -/
theorem step_newEmitter (name registry : String) (config : Config) :
    (s.step (.newEmitter name registry config)).session.emitter name
      = { forms := s.registry registry, config } := by
  rw [emitter, s.step_emitters]
  simp only [lookup_putNamed_self, Option.getD_some]

/-- A registry that is not written keeps its forms. -/
theorem step_registry_of_ne {st : Step} {name : String} (h : st.written? ≠ some name) :
    (s.step st).session.registry name = s.registry name := by
  unfold registry
  rcases s.step_registries st with hsame | ⟨other, r, hwritten, hput⟩
  · rw [hsame]
  · have hne : name ≠ other := fun heq => h (heq ▸ hwritten)
    rw [hput, lookup_putNamed_of_ne hne]

/-- An emitter that is not made anew keeps its forms, and takes the settings that it is
given. -/
theorem step_emitter {st : Step} {name : String} (h : st.made? ≠ some name) :
    (s.step st).session.emitter name
      = { s.emitter name with config := (st.settings? name).getD (s.emitter name).config } := by
  rw [emitter, s.step_emitters]
  cases st with
  | newEmitter other registry config =>
      have hne : name ≠ other := fun heq => h (heq ▸ rfl)
      simp only [lookup_putNamed_of_ne hne]
      rfl
  | setConfig other config =>
      by_cases hother : other = name
      · subst hother
        simp only [lookup_putNamed_self, Step.settings?, if_pos, Option.getD_some]
      · simp only [lookup_putNamed_of_ne (Ne.symm hother), Step.settings?, if_neg hother]
        rfl
  | _ => rfl

/-- The settings of an emitter after some steps. -/
def settingsAfter (name : String) (config : Config) (steps : List Step) : Config :=
  steps.foldl (fun config st => (st.settings? name).getD config) config

/-- An emitter along a run of steps that do not make it anew. -/
theorem after_emitter {steps : List Step} {name : String}
    (h : ∀ st ∈ steps, st.made? ≠ some name) :
    (s.after steps).emitter name
      = { s.emitter name with config := settingsAfter name (s.emitter name).config steps } := by
  induction steps generalizing s with
  | nil => rfl
  | cons st rest ih =>
      have hrest := ih (s.step st).session fun u hu => h u (.tail _ hu)
      rw [s.step_emitter (h st (.head _))] at hrest
      exact hrest

-- ============================================================= emissions

/-- In a session, whatever is asked of the emitter of a name is what this emitter
writes: nodes into scopes or without one, functions, and programs. -/
structure Answers (t : Session) (name : String) (e : Emitter) : Prop where
  emit (node : Node) (scope : Option String) :
    let w := t.write (scope.map t.scope) (e.emit node)
    (t.step (.emit name node scope)).outcome = .ok (.emitted w.outcome (w.scope.map (·.names)))
      ∧ (t.step (.emit name node scope)).events = w.events
  function (label : Option Node) (params : Node) (body : List Node) (declaration : Bool) :
    t.step (.function name label params body declaration)
      = (t.write none (e.emitLayout (functionLayout label params body declaration))).result
  program (forms : List Node) :
    t.step (.program name forms) = (t.write none (e.emitProgram forms)).result

/-- A session answers with the emitter that it has. -/
theorem answers_emitter (t : Session) (name : String) : t.Answers name (t.emitter name) where
  emit _ _ := ⟨rfl, rfl⟩
  function _ _ _ _ := rfl
  program _ := rfl

/-- What is written depends on a session only by what has been read from streams. -/
theorem write_congr {s s' : Session} (h : s.streams = s'.streams) (scope : Option Scope)
    (act : EmitM String) :
    (s.write scope act).outcome = (s'.write scope act).outcome
      ∧ (s.write scope act).events = (s'.write scope act).events := by
  unfold write
  rw [h]
  split <;> exact ⟨rfl, rfl⟩

/-- A script is the program of an emitter that is made for it. -/
theorem step_script (name registry : String) (config : Config) (forms : List Node) :
    let made := (s.step (.newEmitter name registry config)).session
    (s.step (.script registry config forms)).outcome = (made.step (.program name forms)).outcome
      ∧ (s.step (.script registry config forms)).events
        = (made.step (.program name forms)).events := by
  intro made
  have hprogram := (made.answers_emitter name).program forms
  rw [s.step_newEmitter name registry config] at hprogram
  rw [hprogram]
  have hwritten := write_congr (show s.streams = made.streams from rfl) none
    (Emitter.emitProgram { forms := s.registry registry, config } forms)
  exact ⟨congrArg (Except.map Reply.text) hwritten.1, hwritten.2⟩

end Session

-- ============================================================ definitions

/-- Parameters among which the rest marker does not stand, or stands first in the last
place but one. -/
def Params.WellPlaced (names : List String) : Prop :=
  restMarker ∉ names ∨ ∃ fixed rest, names = fixed ++ [restMarker, rest] ∧ restMarker ∉ fixed

theorem Params.parse_ok_iff {names : List String} :
    (∃ params, Params.parse names = .ok params) ↔ Params.WellPlaced names := by
  simp only [Params.parse_eq_ok_iff]
  constructor
  · rintro ⟨⟨fixed, rest⟩, hfixed, rfl⟩
    cases rest with
    | none =>
        rw [Params.listed, List.append_nil]
        exact .inl hfixed
    | some rest => exact .inr ⟨fixed, rest, rfl, hfixed⟩
  · rintro (hnone | ⟨fixed, rest, rfl, hfixed⟩)
    · exact ⟨{ fixed := names }, hnone, List.append_nil names⟩
    · exact ⟨{ fixed, rest := some rest }, hfixed, rfl⟩

/-- A template whose rest marker is misplaced. -/
def Definition.Misplaced (definition : Definition) : Prop :=
  ∃ name params body doc, definition = .template name params body doc ∧ ¬ Params.WellPlaced params

/-- Nothing else fails to be defined. -/
theorem Definition.form_error_iff (definition : Definition) :
    (∃ err, definition.form = .error err) ↔ definition.Misplaced := by
  cases definition with
  | native name form =>
      constructor
      · rintro ⟨err, h⟩
        cases h
      · rintro ⟨_, _, _, _, h, -⟩
        cases h
  | template name params body doc =>
      have hform : (∃ err, form (.template name params body doc) = .error err)
          ↔ ¬ ∃ parsed, Params.parse params = .ok parsed := by
        cases hparse : Params.parse params with
        | ok parsed => simp [form, CustomForm.template, hparse]
        | error err => simp [form, CustomForm.template, hparse]
      rw [hform, Params.parse_ok_iff]
      constructor
      · intro h
        exact ⟨name, params, body, doc, rfl, h⟩
      · rintro ⟨_, _, _, _, h, hplaced⟩
        cases h
        exact hplaced

-- ============================================================== isolation

namespace Session

theorem step_define_error_iff (s : Session) (registry : String) (definition : Definition) :
    (∃ err, (s.step (.define registry definition)).outcome = .error err)
      ↔ definition.Misplaced := by
  rw [← definition.form_error_iff]
  cases h : definition.form with
  | error err => simp [s.step_define_error registry h]
  | ok form => simp [s.step_define_ok registry h, changed]

theorem step_define_of_misplaced (s : Session) (registry : String) {definition : Definition}
    (h : definition.Misplaced) :
    (s.step (.define registry definition)).session = s
      ∧ (s.step (.define registry definition)).events = #[] := by
  obtain ⟨err, herr⟩ := definition.form_error_iff.2 h
  rw [s.step_define_error registry herr]
  exact ⟨rfl, rfl⟩

/-- Registries and emitters of any session are isolated from each other.

- An emitter that is made from a registry answers with the forms that the registry
  holds now, whatever steps are taken later, as long as none of them makes an emitter
  of this name anew; its settings are those it was given last.
- A script is what an emitter made for it would write.
- No step changes a registry but the one that it writes, and a step that writes one
  changes no emitter.
- A definition fails exactly if it is a template whose rest marker is misplaced. Then
  it leaves the session as it is, and notes nothing. -/
theorem emitters_isolated (s : Session) :
    (∀ name registry config later, (∀ st ∈ later, Step.made? st ≠ some name) →
        ((s.step (.newEmitter name registry config)).session.after later).Answers name
          { forms := s.registry registry, config := settingsAfter name config later })
      ∧ (∀ name registry config forms,
        let made := (s.step (.newEmitter name registry config)).session
        (s.step (.script registry config forms)).outcome
            = (made.step (.program name forms)).outcome
          ∧ (s.step (.script registry config forms)).events
            = (made.step (.program name forms)).events)
      ∧ (∀ st name, Step.written? st ≠ some name →
        (s.step st).session.registry name = s.registry name)
      ∧ (∀ st name, Step.written? st = some name →
        ∀ emitter, (s.step st).session.emitter emitter = s.emitter emitter)
      ∧ ∀ registry definition,
        ((∃ err, (s.step (.define registry definition)).outcome = .error err)
            ↔ definition.Misplaced)
          ∧ (definition.Misplaced → (s.step (.define registry definition)).session = s
            ∧ (s.step (.define registry definition)).events = #[]) := by
  refine ⟨?_, s.step_script, fun st name h => s.step_registry_of_ne h, ?_, ?_⟩
  · intro name registry config later hlater
    have hafter := (s.step (.newEmitter name registry config)).session.after_emitter hlater
    rw [s.step_newEmitter name registry config] at hafter
    have hanswers := answers_emitter
      ((s.step (.newEmitter name registry config)).session.after later) name
    rw [hafter] at hanswers
    exact hanswers
  · intro st name hwritten emitter
    unfold Session.emitter
    rw [s.step_emitters_of_written hwritten]
  · intro registry definition
    exact ⟨s.step_define_error_iff registry definition, s.step_define_of_misplaced registry⟩

/-- A session with one form in one registry. -/
def workshop : Session where
  registries := [("forms", Registry.empty.insert "gather" (CustomForm.collect .vector))]

/-- Steps by which the form is replaced, the registry is copied and then cleared, and an
emitter is given other settings. -/
def reworking : List Step :=
  [.define "forms" (.native "gather" CustomForm.count), .newRegistry "copy" (some "forms"),
    .clear "forms", .setConfig "writer" { limit := 1 }]

/-- A call of the form. -/
def gatherCall : Node := .form [.sym ⟨"gather", none⟩, .int 1, .int 2]

theorem workshop_isolated :
    (∀ st ∈ reworking, Step.made? st ≠ some "writer")
      ∧ (let t := (workshop.step (.newEmitter "writer" "forms" {})).session.after reworking
        (t.step (.emit "writer" gatherCall none)).outcome = .ok (.emitted (.ok "[1, 2]") none)
          ∧ (t.step (.script "copy" {} [gatherCall])).outcome = .ok (.text "2")
          ∧ (t.step (.script "forms" {} [gatherCall])).outcome = .ok (.text "gather(1, 2)"))
      ∧ Definition.Misplaced (.template "bad" ["x", restMarker] .nil "")
      ∧ (workshop.step (.define "forms" (.template "bad" ["x", restMarker] .nil ""))).session
        = workshop := by
  have hlater : ∀ st ∈ reworking, Step.made? st ≠ some "writer" := by
    intro st hst
    simp only [reworking, List.mem_cons, List.not_mem_nil, or_false] at hst
    rcases hst with rfl | rfl | rfl | rfl <;> intro hmade <;> cases hmade
  obtain ⟨hmade, -, -, -, hdefine⟩ := emitters_isolated workshop
  obtain ⟨hfails, hleft⟩ := hdefine "forms" (.template "bad" ["x", restMarker] .nil "")
  have hmisplaced := hfails.1 ⟨_, rfl⟩
  exact ⟨hlater, ⟨((hmade "writer" "forms" {} reworking hlater).emit gatherCall none).1, rfl, rfl⟩,
    hmisplaced, (hleft hmisplaced).1⟩

end Session

end FormScript
