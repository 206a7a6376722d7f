/-
Emissions that follow one another. Two runs are alike if they have the same
scope and have read the same from all streams; stamps and notes may differ,
since an expansion uses up a stamp and is noted. A computation `Follows`
another if, from a run alike, it succeeds with the same text and leaves a
run alike whenever the other succeeds.

- `Layout.run_follows`: layouts of one shape whose children follow one
  another do so too.
- `Emitter.emitAt_follows`: where all custom forms are pure, an emission
  with more levels of expansion follows one with fewer.
-/
import FormScript.Proofs.Emission

namespace FormScript

-- ============================================================== alikeness

/-- Two runs that agree on what writing depends on. -/
structure Run.Alike (r s : Run) : Prop where
  scope : r.scope = s.scope
  reads : r.streams.reads = s.streams.reads

theorem Run.alike_refl (r : Run) : r.Alike r := ⟨rfl, rfl⟩

theorem Run.Alike.position {r s : Run} (h : r.Alike s) (id : Identity) :
    r.streams.position id = s.streams.position id := by
  rw [Streams.position, Streams.position, h.reads]

namespace EmitM

variable {α β : Type}

/-- A computation that succeeds whenever another one does, alike. -/
def Follows (m m' : EmitM α) : Prop :=
  ∀ ⦃r s a r'⦄, r.Alike s → m r = .ok a r' → ∃ s', m' s = .ok a s' ∧ r'.Alike s'

theorem pure_follows (a : α) : Follows (pure a : EmitM α) (pure a) := by
  intro r s b r' hrs h
  cases h
  exact ⟨s, rfl, hrs⟩

theorem bind_follows {m m' : EmitM α} {f f' : α → EmitM β}
    (hm : Follows m m') (hf : ∀ a, Follows (f a) (f' a)) :
    Follows (m >>= f) (m' >>= f') := by
  intro r s b r' hrs h
  obtain ⟨a, t, ha, hb⟩ := bind_ok_iff.1 h
  obtain ⟨t', ha', htt⟩ := hm hrs ha
  obtain ⟨s', hb', hrs'⟩ := hf a htt hb
  exact ⟨s', bind_ok_iff.2 ⟨a, t', ha', hb'⟩, hrs'⟩

theorem throw_follows (e : Error) (m : EmitM α) :
    Follows (throw e : EmitM α) m := by
  intro r s a r' _ h
  cases h

theorem declare_follows (names : List String) :
    Follows (declare names) (declare names) := by
  intro r s a r' hrs h
  cases h
  refine ⟨_, rfl, ?_, hrs.reads⟩
  show r.scope.map _ = s.scope.map _
  rw [hrs.scope]

theorem hasScope_follows : Follows hasScope hasScope := by
  intro r s a r' hrs h
  cases h
  refine ⟨s, ?_, hrs⟩
  show EStateM.Result.ok s.scope.isSome s = .ok r.scope.isSome s
  rw [hrs.scope]

theorem iterated_follows {α : Type} {m m' : EmitM α} (h : Follows m m') :
    Follows (iterated m) (iterated m') := by
  intro r s a r' hrs hr
  obtain ⟨s', hm', hrs'⟩ := h hrs (iterated_ok_iff.1 hr)
  exact ⟨s', iterated_ok_iff.2 hm', hrs'⟩

theorem inScope_follows {body body' : EmitM String} (scope : Scope)
    (h : Follows body body') : Follows (inScope scope body) (inScope scope body') := by
  intro r s t r' hrs hr
  obtain ⟨x, u, hx, rfl, rfl⟩ := inScope_ok_iff.1 hr
  have hopen : Run.Alike { r with scope := some scope }
      { s with scope := some scope } := ⟨rfl, hrs.reads⟩
  obtain ⟨u', hx', huu⟩ := h hopen hx
  refine ⟨_, inScope_ok_iff.2 ⟨x, u', hx', ?_, rfl⟩, hrs.scope, huu.reads⟩
  rw [huu.scope]

/-- Items that follow one another are taken from a stream alike. -/
theorem takeAll_follows {write write' : Node → EmitM String} (id : Identity)
    {items : List Node} (h : ∀ n ∈ items, Follows (write n) (write' n))
    (index : Nat) :
    Follows (takeAll write id index items) (takeAll write' id index items) := by
  induction items generalizing index with
  | nil => exact pure_follows []
  | cons n rest ih =>
      have hrest := ih fun m hm => h m (.tail _ hm)
      intro r s texts r' hrs hr
      by_cases hpos : r.streams.position id ≤ index
      · obtain ⟨x, u, xs, hx, hxs, rfl⟩ := (takeAll_cons_of_le hpos).1 hr
        have hadvance : Run.Alike
            { r with streams := r.streams.advance id (index + 1) }
            { s with streams := s.streams.advance id (index + 1) } := by
          refine ⟨hrs.scope, ?_⟩
          show _ :: r.streams.reads = _ :: s.streams.reads
          rw [hrs.reads]
        obtain ⟨u', hx', huu⟩ := h n (.head _) hadvance hx
        obtain ⟨s', hxs', hrs'⟩ := hrest (index + 1) huu hxs
        rw [hrs.position] at hpos
        exact ⟨s', (takeAll_cons_of_le hpos).2 ⟨x, u', xs, hx', hxs', rfl⟩, hrs'⟩
      · rw [takeAll_cons_of_lt (by omega)] at hr
        obtain ⟨s', hxs', hrs'⟩ := hrest (index + 1) hrs hr
        rw [hrs.position] at hpos
        refine ⟨s', ?_, hrs'⟩
        rw [takeAll_cons_of_lt (by omega)]
        exact hxs'

end EmitM

-- ================================================================ layouts

namespace Layout

/-- Layouts of one shape whose children are related. A failure is related to
anything, since nothing is written for it. -/
inductive Sim (R : Node → Node → Prop) : Layout → Layout → Prop
  | text (s : String) : Sim R (.text s) (.text s)
  | node {n n' : Node} (h : R n n') : Sim R (.node n) (.node n')
  | item {n n' : Node} (h : R n n') : Sim R (.item n) (.item n')
  | fail (e : Error) (l : Layout) : Sim R (.fail e) l
  | append {a a' b b' : Layout} (first : Sim R a a') (second : Sim R b b') :
      Sim R (.append a b) (.append a' b')
  | late {a a' b b' : Layout} (front : Sim R a a') (back : Sim R b b') :
      Sim R (.late a b) (.late a' b')
  | twice {a a' : Layout} (part : Sim R a a') (between : String) :
      Sim R (.twice a between) (.twice a' between)
  | statement {a a' : Layout} (part : Sim R a a') :
      Sim R (.statement a) (.statement a')
  | declare (names : List String) : Sim R (.declare names) (.declare names)
  | inline (s : String) : Sim R (.inline s) (.inline s)
  | enclosed {a a' : Layout} (part : Sim R a a') :
      Sim R (.enclosed a) (.enclosed a')
  | stream (id : Identity) {items : List Node} (h : ∀ n ∈ items, R n n) :
      Sim R (.stream id items) (.stream id items)

variable {R : Node → Node → Prop}

/-- A layout is of the same shape as itself. -/
theorem sim_self {l : Layout} (h : l.All fun n => R n n) : Sim R l l := by
  induction l with
  | text s => exact .text s
  | node n => exact .node h
  | item n => exact .item h
  | fail e => exact .fail e _
  | append a b iha ihb => exact .append (iha h.1) (ihb h.2)
  | late a b iha ihb => exact .late (iha h.1) (ihb h.2)
  | twice a between ih => exact .twice (ih h) between
  | statement a ih => exact .statement (ih h)
  | declare names => exact .declare names
  | inline s => exact .inline s
  | enclosed a ih => exact .enclosed (ih h)
  | stream id items => exact .stream id h

/-- Layouts of one shape follow one another if their children do. -/
theorem run_follows {dedupe : Bool} {write write' : Node → EmitM String}
    {l l' : Layout}
    (h : Sim (fun n n' => EmitM.Follows (write n) (write' n')) l l') :
    EmitM.Follows (l.run dedupe write) (l'.run dedupe write') := by
  induction h with
  | text s => exact EmitM.pure_follows s
  | node h => exact h
  | item h => exact EmitM.iterated_follows h
  | fail e l => exact EmitM.throw_follows e _
  | append _ _ iha ihb =>
      exact EmitM.bind_follows iha fun x =>
        EmitM.bind_follows ihb fun y => EmitM.pure_follows (x ++ y)
  | late _ _ iha ihb =>
      exact EmitM.bind_follows ihb fun y =>
        EmitM.bind_follows iha fun x => EmitM.pure_follows (x ++ y)
  | twice _ between ih =>
      exact EmitM.bind_follows ih fun x => EmitM.pure_follows _
  | statement _ ih =>
      exact EmitM.bind_follows ih fun x => EmitM.pure_follows _
  | declare names =>
      exact EmitM.bind_follows (EmitM.declare_follows names) fun _ =>
        EmitM.pure_follows ""
  | inline s =>
      exact EmitM.bind_follows EmitM.hasScope_follows fun _ =>
        EmitM.pure_follows _
  | enclosed _ ih => exact EmitM.inScope_follows _ ih
  | stream id h =>
      have hitems := EmitM.iterated_follows (EmitM.takeAll_follows id h 0)
      exact EmitM.bind_follows hitems fun _ => EmitM.pure_follows _

end Layout

-- ================================================================= levels

/-- A custom form whose expansion depends on the arguments alone. The stamp
it is given does not show: neither its result nor its failure holds anything
that is told apart from a second one like it. -/
def CustomForm.Pure (form : CustomForm) : Prop :=
  ∀ stamp stamp' args, form.expand stamp args = form.expand stamp' args

/-- A registry of pure forms. -/
def Registry.Pure (r : Registry) : Prop :=
  ∀ name form, r.get? name = some form → form.Pure

/-- A registry whose forms make trees with a property from arguments with it. -/
def Registry.Preserves (p : Node → Prop) (registry : Registry) : Prop :=
  ∀ name form, registry.get? name = some form → ∀ stamp args n,
    (∀ m ∈ args, p m) → form.expand stamp args = .ok n → p n

/-- In a registry of one form no other is found. -/
theorem Registry.eq_of_get?_single {name other : String} {form found : CustomForm}
    (h : (Registry.empty.insert name form).get? other = some found) : found = form := by
  change List.lookup other [(name, form)] = some found at h
  rw [List.lookup_cons] at h
  cases hname : other == name with
  | true =>
      rw [hname] at h
      cases h
      rfl
  | false =>
      rw [hname] at h
      cases h

/-- A call of a custom form has a head that is registered, and is no method
call. -/
theorem Registry.customCall?_eq_some {r : Registry} {n : Node} {call : Call}
    (h : r.customCall? n = some call) :
    ∃ id, n = .form (.sym id :: call.args) ∧ methodName? id.name = none
      ∧ r.get? id.name = some call.form := by
  unfold customCall? at h
  split at h
  · rename_i id args
    split at h
    · cases h
    · rename_i hmethod
      obtain ⟨form, hform, rfl⟩ := Option.map_eq_some_iff.1 h
      exact ⟨id, rfl, hmethod, hform⟩
  · cases h

theorem Registry.Pure.call {r : Registry} (hpure : r.Pure) {n : Node}
    {call : Call} (h : r.customCall? n = some call) : call.form.Pure := by
  obtain ⟨id, -, -, hform⟩ := customCall?_eq_some h
  exact hpure id.name call.form hform

/-- Expansions that follow one another make calls do so. -/
theorem Call.expandWith_follows {write write' : Node → EmitM String}
    {call : Call} (hpure : call.form.Pure)
    (h : ∀ n, EmitM.Follows (write n) (write' n)) :
    EmitM.Follows (call.expandWith write) (call.expandWith write') := by
  intro r s t r' hrs hr
  obtain ⟨m, hexpand, hm⟩ := expandWith_ok_iff.1 hr
  have hstamp : Run.Alike
      { r with
        streams := r.streams.useStamp
        events := r.events.push (.expanding call.name) }
      { s with
        streams := s.streams.useStamp
        events := s.events.push (.expanding call.name) } :=
    ⟨hrs.scope, hrs.reads⟩
  obtain ⟨s', hm', hrs'⟩ := h m hstamp hm
  rw [hpure _ s.streams.nextStamp] at hexpand
  exact ⟨s', expandWith_ok_iff.2 ⟨m, hexpand, hm'⟩, hrs'⟩

/-- With more levels of expansion left, whatever was emitted is emitted
alike. -/
theorem Emitter.emitAt_follows {e : Emitter} (hpure : e.forms.Pure)
    {levels levels' : Nat} (hle : levels ≤ levels') (n : Node) :
    EmitM.Follows (e.emitAt levels n) (e.emitAt levels' n) := by
  revert levels'
  refine e.emission_induction (P := fun levels n => ∀ {levels'},
    levels ≤ levels' → EmitM.Follows (e.emitAt levels n) (e.emitAt levels' n))
    ?_ ?_ ?_ levels n
  · intro n call hcall levels' _
    rw [e.emitAt_zero_custom hcall]
    exact EmitM.throw_follows _ _
  · intro levels n call hcall ih levels' hle
    cases levels' with
    | zero => cases hle
    | succ levels' =>
        rw [e.emitAt_succ_custom hcall, e.emitAt_succ_custom hcall]
        exact Call.expandWith_follows (hpure.call hcall) fun m =>
          ih m (Nat.le_of_succ_le_succ hle)
  · intro levels n hcall ih levels' hle
    rw [e.emitAt_of_not_custom hcall, e.emitAt_of_not_custom hcall]
    exact Layout.run_follows (Layout.sim_self (ih.imp fun m hm => hm hle))

end FormScript
