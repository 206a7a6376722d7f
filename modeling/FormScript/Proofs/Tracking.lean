/-
Emissions that differ in their scopes only. Two computations may run side by
side, one of them from a run whose scope is changed in some way, and stay so:
after each step the one run is the other with its scope changed in this way, and
both fail at the same point with the same error.

`EmitM.Tracks φ m m' r Q` says so of `m`, started from `r` with its scope changed
by `φ`, beside `m'`, started from `r` itself; `Q` relates the two results and the
run that `m'` leaves. Stamps, streams and notes are the same on both sides, so
custom forms are called alike and make the same trees, whatever they do.
-/
import FormScript.Proofs.Moments

namespace FormScript

/-- A run with its scope changed. -/
def Run.rescope (φ : Option Scope → Option Scope) (r : Run) : Run :=
  { r with scope := φ r.scope }

namespace EmitM

variable {α β : Type} {φ : Option Scope → Option Scope} {m m' : EmitM α} {r : Run}
  {Q : α → α → Run → Prop}

/-- A computation that, from a run with the scope changed, does what another one
does from the run itself, with results that are related. -/
def Tracks (φ : Option Scope → Option Scope) (m m' : EmitM α) (r : Run)
    (Q : α → α → Run → Prop) : Prop :=
  match m' r with
  | .ok a' s => ∃ a, m (r.rescope φ) = .ok a (s.rescope φ) ∧ Q a a' s
  | .error e s => m (r.rescope φ) = .error e (s.rescope φ)

theorem tracks_of_ok {a a' : α} {s : Run} (h' : m' r = .ok a' s)
    (h : m (r.rescope φ) = .ok a (s.rescope φ)) (hQ : Q a a' s) : Tracks φ m m' r Q := by
  rw [Tracks, h']
  exact ⟨a, h, hQ⟩

theorem tracks_of_error {e : Error} {s : Run} (h' : m' r = .error e s)
    (h : m (r.rescope φ) = .error e (s.rescope φ)) : Tracks φ m m' r Q := by
  rw [Tracks, h']
  exact h

theorem Tracks.ok (h : Tracks φ m m' r Q) {a' : α} {s : Run} (h' : m' r = .ok a' s) :
    ∃ a, m (r.rescope φ) = .ok a (s.rescope φ) ∧ Q a a' s := by
  rw [Tracks, h'] at h
  exact h

theorem Tracks.error (h : Tracks φ m m' r Q) {e : Error} {s : Run}
    (h' : m' r = .error e s) : m (r.rescope φ) = .error e (s.rescope φ) := by
  rw [Tracks, h'] at h
  exact h

/-- However the two end, the runs that they leave differ in the scope only. -/
theorem Tracks.after (h : Tracks φ m m' r Q) :
    m.after (r.rescope φ) = (m'.after r).rescope φ := by
  cases h' : m' r with
  | ok a' s =>
      obtain ⟨a, ha, -⟩ := h.ok h'
      rw [after_of_ok ha, after_of_ok h']
  | error e s => rw [after_of_error (h.error h'), after_of_error h']

/-- Computations may be exchanged for ones that do the same from there. -/
theorem Tracks.congr {m₁ m₁' : EmitM α} {r₁ : Run} (h : Tracks φ m m' r Q)
    (hm' : m₁' r₁ = m' r) (hm : m₁ (r₁.rescope φ) = m (r.rescope φ)) :
    Tracks φ m₁ m₁' r₁ Q := by
  rw [Tracks, hm', hm]
  exact h

theorem Tracks.imp {Q' : α → α → Run → Prop} (h : Tracks φ m m' r Q)
    (hQ : ∀ a a' s, m' r = .ok a' s → Q a a' s → Q' a a' s) : Tracks φ m m' r Q' := by
  cases h' : m' r with
  | ok a' s =>
      obtain ⟨a, ha, hrel⟩ := h.ok h'
      exact tracks_of_ok h' ha (hQ a a' s h' hrel)
  | error e s => exact tracks_of_error h' (h.error h')

theorem pure_tracks {a a' : α} (hQ : Q a a' r) :
    Tracks φ (pure a : EmitM α) (pure a') r Q :=
  tracks_of_ok rfl rfl hQ

theorem throw_tracks (e : Error) : Tracks φ (throw e : EmitM α) (throw e) r Q :=
  tracks_of_error rfl rfl

/-- Two sequences run in step if their first steps do and, from where these
lead, the steps that follow. -/
theorem bind_tracks {f f' : α → EmitM β} {Q' : β → β → Run → Prop}
    (hm : Tracks φ m m' r Q)
    (hf : ∀ a a' s, m' r = .ok a' s → Q a a' s → Tracks φ (f a) (f' a') s Q') :
    Tracks φ (m >>= f) (m' >>= f') r Q' := by
  cases h' : m' r with
  | ok a' s =>
      obtain ⟨a, ha, hrel⟩ := hm.ok h'
      exact (hf a a' s h' hrel).congr (bind_ok h') (bind_ok ha)
  | error e s => exact tracks_of_error (bind_error h') (bind_error (hm.error h'))

/-- A last step that only turns the result. -/
theorem map_tracks {Q' : β → β → Run → Prop} (hm : Tracks φ m m' r Q) (g g' : α → β)
    (hQ : ∀ a a' s, m' r = .ok a' s → Q a a' s → Q' (g a) (g' a') s) :
    Tracks φ (m >>= fun a => pure (g a)) (m' >>= fun a => pure (g' a)) r Q' :=
  bind_tracks hm fun a a' s h' hrel => pure_tracks (hQ a a' s h' hrel)

/-- Failures come out of iterations alike. -/
theorem iterated_tracks (h : Tracks φ m m' r Q) :
    Tracks φ (iterated m) (iterated m') r Q := by
  cases h' : m' r with
  | ok a' s =>
      obtain ⟨a, ha, hrel⟩ := h.ok h'
      exact tracks_of_ok (iterated_ok_iff.2 h') (iterated_ok_iff.2 ha) hrel
  | error e s =>
      exact tracks_of_error (iterated_error h') (iterated_error (h.error h'))

/-- A body with a scope of its own does the same whatever the scope around
it is. -/
theorem inScope_tracks (scope : Scope) (body : EmitM String) :
    Tracks φ (inScope scope body) (inScope scope body) r fun t t' _ => t = t' := by
  cases hbody : body { r with scope := some scope } with
  | ok x s =>
      have hrun (outer : Option Scope) : inScope scope body { r with scope := outer }
          = .ok ((s.scope.getD scope).declaration ++ x) { s with scope := outer } := by
        simp only [inScope, hbody]
      exact tracks_of_ok (hrun r.scope) (hrun (φ r.scope)) rfl
  | error e s =>
      have hrun (outer : Option Scope) : inScope scope body { r with scope := outer }
          = .error e { s with scope := outer } := by
        simp only [inScope, hbody]
      exact tracks_of_error (hrun r.scope) (hrun (φ r.scope))

/-- Bodies with scopes of their own run in step if they do from these scopes. -/
theorem inScope_tracks_of_body {scope scope' : Scope} {body body' : EmitM String}
    {Q Q' : String → String → Run → Prop} (hscope : φ (some scope') = some scope)
    (hbody : Tracks φ body body' { r with scope := some scope' } Q)
    (hQ : ∀ t t' s, body' { r with scope := some scope' } = .ok t' s → Q t t' s →
      Q' (((φ s.scope).getD scope).declaration ++ t)
        ((s.scope.getD scope').declaration ++ t') { s with scope := r.scope }) :
    Tracks φ (inScope scope body) (inScope scope' body') r Q' := by
  have hstart : Run.rescope φ { r with scope := some scope' }
      = { r with scope := some scope } := by
    rw [Run.rescope, hscope]
  cases h' : body' { r with scope := some scope' } with
  | ok t' s =>
      obtain ⟨t, h, hrel⟩ := hbody.ok h'
      rw [hstart] at h
      refine tracks_of_ok ?_ ?_ (hQ t t' s h' hrel)
      · simp only [inScope, h']
      · simp only [inScope, Run.rescope, h]
  | error e s =>
      have h := hbody.error h'
      rw [hstart] at h
      refine tracks_of_error (e := e) (s := { s with scope := r.scope }) ?_ ?_
      · simp only [inScope, h']
      · simp only [inScope, Run.rescope, h]

/-- An item that the stream still has is taken on both sides. -/
theorem takeAll_tracks_of_le {write write' : Node → EmitM String} {id : Identity}
    {index : Nat} {n : Node} {rest : List Node} {Q : List String → List String → Run → Prop}
    (hpos : r.streams.position id ≤ index)
    (h : Tracks φ
      (do
        let text ← write n
        let texts ← takeAll write id (index + 1) rest
        return text :: texts)
      (do
        let text ← write' n
        let texts ← takeAll write' id (index + 1) rest
        return text :: texts)
      { r with streams := r.streams.advance id (index + 1) } Q) :
    Tracks φ (takeAll write id index (n :: rest)) (takeAll write' id index (n :: rest)) r Q :=
  h.congr (takeAll_cons_eq_of_le hpos) (takeAll_cons_eq_of_le (r := r.rescope φ) hpos)

/-- An item that has been taken before is passed over on both sides. -/
theorem takeAll_tracks_of_lt {write write' : Node → EmitM String} {id : Identity}
    {index : Nat} {n : Node} {rest : List Node} {Q : List String → List String → Run → Prop}
    (hpos : index < r.streams.position id)
    (h : Tracks φ (takeAll write id (index + 1) rest) (takeAll write' id (index + 1) rest) r Q) :
    Tracks φ (takeAll write id index (n :: rest)) (takeAll write' id index (n :: rest)) r Q :=
  h.congr (takeAll_cons_of_lt hpos) (takeAll_cons_of_lt (r := r.rescope φ) hpos)

end EmitM

/-- Calls of one form are expanded alike, and run in step if the writing of the
expansion does. -/
theorem Call.expandWith_tracks {φ : Option Scope → Option Scope}
    {write write' : Node → EmitM String} {call : Call} {r : Run}
    {Q : String → String → Run → Prop}
    (h : ∀ n, call.form.expand r.streams.nextStamp call.args = .ok n →
      EmitM.Tracks φ (write n) (write' n) (r.expanding call.name) Q) :
    EmitM.Tracks φ (call.expandWith write) (call.expandWith write') r Q := by
  have hbegin (r : Run) : EmitM.beginExpansion call.name r
      = .ok r.streams.nextStamp (r.expanding call.name) := rfl
  refine EmitM.Tracks.congr ?_ (EmitM.bind_ok (hbegin r)) (EmitM.bind_ok (hbegin (r.rescope φ)))
  show EmitM.Tracks φ
    (EmitM.ofExcept (call.form.expand r.streams.nextStamp call.args) >>= write)
    (EmitM.ofExcept (call.form.expand r.streams.nextStamp call.args) >>= write')
    (r.expanding call.name) Q
  cases hexpand : call.form.expand r.streams.nextStamp call.args with
  | ok n => exact h n hexpand
  | error e => exact EmitM.throw_tracks e

/-- A program is written alike whatever the scope around it is. -/
theorem Emitter.emitProgram_tracks (e : Emitter) (forms : List Node)
    (φ : Option Scope → Option Scope) (r : Run) :
    EmitM.Tracks φ (e.emitProgram forms) (e.emitProgram forms) r fun t t' _ => t = t' := by
  unfold emitProgram emitLayout programLayout
  split
  · exact EmitM.pure_tracks rfl
  · exact EmitM.inScope_tracks _ _
  · exact EmitM.inScope_tracks _ _

end FormScript
