/-
Emission does not depend on which stamps there are. A run that goes on under other
stamps, with the trees restamped accordingly, writes the same text and ends in the
same way.

# The stamps that correspond

Two runs need not hand out the same number of stamps before they get here, so the next
stamp of one may be any stamp of the other. What is asked for is that each stamp that the
one run hands out on its way corresponds to the stamp that the other run hands out in its
place. `EmitM.Carries` says of a pair of computations that under this condition the second
one succeeds, with the same result, whenever the first one does.

# Custom forms

A form can only be carried over if it does not look at stamps itself. It is uniform if it
makes the same tree from restamped arguments under another stamp, restamped in turn
(`CustomForm.Uniform`): it may return values that are new each time, and those that it has
been given. Values that it has kept from before have stamps below some bound, which are
left as they are.
-/
import FormScript.Proofs.Respelling.Emission

namespace FormScript

/-- The next stamp that a run hands out. -/
abbrev Run.nextStamp (r : Run) : Nat := r.streams.nextStamp

-- ======================================================== stamps handed out

namespace EmitM

variable {α β : Type}

/-- A computation that takes no stamp back. -/
def Advances (m : EmitM α) : Prop :=
  ∀ ⦃r a r'⦄, m r = .ok a r' → r.nextStamp ≤ r'.nextStamp

theorem pure_advances (a : α) : Advances (pure a : EmitM α) := by
  intro r b r' h
  cases h
  exact Nat.le_refl _

theorem throw_advances (e : Error) : Advances (throw e : EmitM α) := by
  intro r a r' h
  cases h

theorem bind_advances {m : EmitM α} {f : α → EmitM β} (hm : Advances m)
    (hf : ∀ a, Advances (f a)) : Advances (m >>= f) := by
  intro r b r' h
  obtain ⟨a, t, ha, hb⟩ := bind_ok_iff.1 h
  exact Nat.le_trans (hm ha) (hf a hb)

theorem iterated_advances {m : EmitM α} (h : Advances m) : Advances (iterated m) :=
  fun _ _ _ hr => h (iterated_ok_iff.1 hr)

theorem inScope_advances {body : EmitM String} (scope : Scope) (h : Advances body) :
    Advances (inScope scope body) := by
  intro r t r' hr
  obtain ⟨x, u, hx, -, rfl⟩ := inScope_ok_iff.1 hr
  have hbody := h hx
  exact hbody

theorem takeAll_advances {write : Node → EmitM String} (id : Identity) {items : List Node}
    (h : ∀ n ∈ items, Advances (write n)) (index : Nat) :
    Advances (takeAll write id index items) := by
  induction items generalizing index with
  | nil => exact pure_advances []
  | cons n rest ih =>
      have hrest := ih fun m hm => h m (.tail _ hm)
      intro r texts r' hr
      by_cases hpos : r.streams.position id ≤ index
      · obtain ⟨x, u, xs, hx, hxs, -⟩ := (takeAll_cons_of_le hpos).1 hr
        have htaken := h n (.head _) hx
        exact Nat.le_trans htaken (hrest _ hxs)
      · rw [takeAll_cons_of_lt (by omega)] at hr
        exact hrest _ hr

end EmitM

theorem Layout.run_advances {dedupe : Bool} {write : Node → EmitM String} {l : Layout}
    (h : l.All fun n => EmitM.Advances (write n)) : EmitM.Advances (l.run dedupe write) := by
  induction l with
  | text s => exact EmitM.pure_advances s
  | node n => exact h
  | item n => exact EmitM.iterated_advances h
  | fail e => exact EmitM.throw_advances e
  | append a b iha ihb =>
      exact EmitM.bind_advances (iha h.1) fun x =>
        EmitM.bind_advances (ihb h.2) fun y => EmitM.pure_advances _
  | late a b iha ihb =>
      exact EmitM.bind_advances (ihb h.2) fun y =>
        EmitM.bind_advances (iha h.1) fun x => EmitM.pure_advances _
  | twice a between ih => exact EmitM.bind_advances (ih h) fun x => EmitM.pure_advances _
  | statement a ih => exact EmitM.bind_advances (ih h) fun x => EmitM.pure_advances _
  | declare names =>
      intro r t r' hr
      cases hr
      exact Nat.le_refl _
  | inline s =>
      intro r t r' hr
      cases hr
      exact Nat.le_refl _
  | enclosed a ih => exact EmitM.inScope_advances _ (ih h)
  | stream id items =>
      exact EmitM.bind_advances (EmitM.iterated_advances (EmitM.takeAll_advances id h 0))
        fun texts => EmitM.pure_advances _

theorem Emitter.emitAt_advances (e : Emitter) (levels : Nat) (n : Node) :
    EmitM.Advances (e.emitAt levels n) := by
  refine e.emission_induction (P := fun levels n => EmitM.Advances (e.emitAt levels n))
    ?_ ?_ ?_ levels n
  · intro n call hcall
    rw [e.emitAt_zero_custom hcall]
    exact EmitM.throw_advances _
  · intro levels n call hcall ih
    rw [e.emitAt_succ_custom hcall]
    intro r t r' hr
    obtain ⟨m, -, hm⟩ := Call.expandWith_ok_iff.1 hr
    exact Nat.le_of_succ_le (ih m hm)
  · intro levels n hcall ih
    rw [e.emitAt_of_not_custom hcall]
    exact Layout.run_advances ih

-- ============================================================ other stamps

/-- A run that is another one under other stamps: the same scope is open, and as much has
been read of each stream. -/
structure Run.Restamps (ρ : Respelling) (r s : Run) : Prop where
  scope : r.scope = s.scope
  reads : ∀ id, r.streams.position (ρ.identity id) = s.streams.position id

theorem Run.Restamps.advance {ρ : Respelling} {r s : Run} (h : r.Restamps ρ s) (id : Identity)
    (count : Nat) :
    Run.Restamps ρ { r with streams := r.streams.advance (ρ.identity id) count }
      { s with streams := s.streams.advance id count } := by
  refine ⟨h.scope, fun other => ?_⟩
  by_cases heq : other = id
  · rw [heq]
    simp
  · have hne : ρ.identity other ≠ ρ.identity id := fun hsame => heq (ρ.identity_inj hsame)
    show (r.streams.advance _ count).position _ = (s.streams.advance id count).position other
    rw [Streams.position_advance_of_ne _ hne, Streams.position_advance_of_ne _ heq]
    exact h.reads other

namespace EmitM

variable {α β : Type} {ρ : Respelling}

/-- A computation takes no stamp back, and another one succeeds whenever it does, alike
under other stamps, given that the stamps that the two hand out on the way correspond. -/
structure Carries (ρ : Respelling) (m m' : EmitM α) : Prop where
  advances : Advances m
  carries : ∀ ⦃r s a r'⦄, r.Restamps ρ s → m r = .ok a r' →
    (∀ i, r.nextStamp + i < r'.nextStamp → ρ.stamp (s.nextStamp + i) = r.nextStamp + i) →
    ∃ s', m' s = .ok a s' ∧ r'.Restamps ρ s'
      ∧ s'.nextStamp + r.nextStamp = s.nextStamp + r'.nextStamp

theorem pure_carries (a : α) : Carries ρ (pure a : EmitM α) (pure a) := by
  refine ⟨pure_advances a, ?_⟩
  intro r s b r' hrs h _
  cases h
  exact ⟨s, rfl, hrs, rfl⟩

theorem throw_carries (e : Error) (m : EmitM α) : Carries ρ (throw e : EmitM α) m := by
  refine ⟨throw_advances e, ?_⟩
  intro r s a r' _ h _
  cases h

theorem bind_carries {m m' : EmitM α} {f f' : α → EmitM β} (hm : Carries ρ m m')
    (hf : ∀ a, Carries ρ (f a) (f' a)) : Carries ρ (m >>= f) (m' >>= f') := by
  refine ⟨bind_advances hm.advances fun a => (hf a).advances, ?_⟩
  intro r s b r' hrs h hstamps
  obtain ⟨a, t, ha, hb⟩ := bind_ok_iff.1 h
  have hfirst := hm.advances ha
  have hsecond := (hf a).advances hb
  obtain ⟨t', ha', htt, hcount⟩ := hm.carries hrs ha fun i hi => hstamps i (by omega)
  obtain ⟨s', hb', hrs', hcount'⟩ := (hf a).carries htt hb fun i hi => by
    have hstamp := hstamps (t.nextStamp - r.nextStamp + i) (by omega)
    rwa [show s.nextStamp + (t.nextStamp - r.nextStamp + i) = t'.nextStamp + i by omega,
      show r.nextStamp + (t.nextStamp - r.nextStamp + i) = t.nextStamp + i by omega] at hstamp
  exact ⟨s', bind_ok_iff.2 ⟨a, t', ha', hb'⟩, hrs', by omega⟩

theorem map_carries {m m' : EmitM α} (hm : Carries ρ m m') (g : α → β) :
    Carries ρ (m >>= fun a => pure (g a)) (m' >>= fun a => pure (g a)) :=
  bind_carries hm fun a => pure_carries (g a)

theorem declare_carries (names : List String) : Carries ρ (declare names) (declare names) := by
  constructor
  · intro r a r' h
    cases h
    exact Nat.le_refl _
  · intro r s a r' hrs h _
    cases h
    refine ⟨_, rfl, ⟨?_, hrs.reads⟩, rfl⟩
    show r.scope.map _ = s.scope.map _
    rw [hrs.scope]

theorem hasScope_carries : Carries ρ hasScope hasScope := by
  constructor
  · intro r a r' h
    cases h
    exact Nat.le_refl _
  · intro r s a r' hrs h _
    cases h
    refine ⟨s, ?_, hrs, rfl⟩
    show EStateM.Result.ok s.scope.isSome s = .ok r.scope.isSome s
    rw [hrs.scope]

theorem iterated_carries {m m' : EmitM α} (h : Carries ρ m m') :
    Carries ρ (iterated m) (iterated m') := by
  refine ⟨iterated_advances h.advances, ?_⟩
  intro r s a r' hrs hr hstamps
  obtain ⟨s', hs', hrest⟩ := h.carries hrs (iterated_ok_iff.1 hr) hstamps
  exact ⟨s', iterated_ok_iff.2 hs', hrest⟩

theorem inScope_carries {body body' : EmitM String} (scope : Scope) (h : Carries ρ body body') :
    Carries ρ (inScope scope body) (inScope scope body') := by
  refine ⟨inScope_advances scope h.advances, ?_⟩
  intro r s t r' hrs hr hstamps
  obtain ⟨x, u, hx, rfl, rfl⟩ := inScope_ok_iff.1 hr
  have hopen : Run.Restamps ρ { r with scope := some scope } { s with scope := some scope } :=
    ⟨rfl, hrs.reads⟩
  obtain ⟨u', hx', huu, hcount⟩ := h.carries hopen hx hstamps
  refine ⟨_, inScope_ok_iff.2 ⟨x, u', hx', ?_, rfl⟩, ⟨hrs.scope, huu.reads⟩, hcount⟩
  rw [huu.scope]

/-- Items that are carried over are taken from the restamped stream alike. -/
theorem takeAll_carries {write write' : Node → EmitM String} (id : Identity)
    {items items' : List Node}
    (h : List.Forall₂ (fun n n' => Carries ρ (write' n') (write n)) items items') (index : Nat) :
    Carries ρ (takeAll write' (ρ.identity id) index items') (takeAll write id index items) := by
  induction h generalizing index with
  | nil => exact pure_carries []
  | cons hn _ ih =>
      have htail := ih (index + 1)
      have htaken := bind_carries hn fun text => map_carries htail (text :: ·)
      constructor
      · intro r texts r' hr
        by_cases hpos : r.streams.position (ρ.identity id) ≤ index
        · rw [takeAll_cons_eq_of_le hpos] at hr
          have hcount := htaken.advances hr
          exact hcount
        · rw [takeAll_cons_of_lt (by omega)] at hr
          exact htail.advances hr
      · intro r s texts r' hrs hr hstamps
        by_cases hpos : r.streams.position (ρ.identity id) ≤ index
        · rw [takeAll_cons_eq_of_le hpos] at hr
          rw [hrs.reads] at hpos
          rw [takeAll_cons_eq_of_le hpos]
          have hcarried := htaken.carries (hrs.advance id (index + 1)) hr hstamps
          exact hcarried
        · rw [takeAll_cons_of_lt (by omega)] at hr
          rw [hrs.reads] at hpos
          rw [takeAll_cons_of_lt (by omega)]
          exact htail.carries hrs hr hstamps

end EmitM

/-- Twin layouts are carried over if their children are. -/
theorem Layout.run_carries {ρ : Respelling} {E : Error → Error → Prop} {dedupe : Bool}
    {write write' : Node → EmitM String} {l l' : Layout}
    (h : Twin (fun n n' => EmitM.Carries ρ (write' n') (write n)) (fun i j => j = ρ.identity i) E
      l l') :
    EmitM.Carries ρ (l'.run dedupe write') (l.run dedupe write) := by
  induction h with
  | text s => exact EmitM.pure_carries s
  | node hn => exact hn
  | item hn => exact EmitM.iterated_carries hn
  | fail he => exact EmitM.throw_carries _ _
  | append _ _ iha ihb =>
      exact EmitM.bind_carries iha fun x => EmitM.map_carries ihb (x ++ ·)
  | late _ _ iha ihb =>
      exact EmitM.bind_carries ihb fun y => EmitM.map_carries iha (· ++ y)
  | twice _ between ih => exact EmitM.map_carries ih _
  | statement _ ih => exact EmitM.map_carries ih _
  | declare names => exact EmitM.map_carries (EmitM.declare_carries names) _
  | inline s => exact EmitM.map_carries EmitM.hasScope_carries _
  | enclosed _ ih => exact EmitM.inScope_carries _ ih
  | stream hid hitems =>
      subst hid
      exact EmitM.map_carries (EmitM.iterated_carries (EmitM.takeAll_carries _ hitems 0)) _

-- ============================================================ uniform forms

/-- A custom form that does not look at stamps: from restamped arguments, under another
stamp, it makes the same tree restamped. Stamps below a bound are left as they are. -/
def CustomForm.Uniform (bound : Nat) (form : CustomForm) : Prop :=
  ∀ ρ : Respelling, ρ.OnlyStamps → (∀ k < bound, ρ.stamp k = k) → ∀ stamp args,
    (form.expand (ρ.stamp stamp) (args.map (·.respell ρ))).toOption
      = (form.expand stamp args).toOption.map (·.respell ρ)

/-- A registry of uniform forms. -/
def Registry.Uniform (bound : Nat) (r : Registry) : Prop :=
  ∀ name form, r.get? name = some form → form.Uniform bound

/-- The expansion of restamped arguments is the restamped expansion. -/
theorem CustomForm.Uniform.expand_ok {bound : Nat} {form : CustomForm} (h : form.Uniform bound)
    {ρ : Respelling} (hρ : ρ.OnlyStamps) (hbound : ∀ k < bound, ρ.stamp k = k) {stamp : Nat}
    {args : List Node} {m : Node}
    (hm : form.expand (ρ.stamp stamp) (args.map (·.respell ρ)) = .ok m) :
    ∃ m', form.expand stamp args = .ok m' ∧ m'.respell ρ = m := by
  have hsame := h ρ hρ hbound stamp args
  rw [hm] at hsame
  cases hexpand : form.expand stamp args with
  | error e =>
      rw [hexpand] at hsame
      cases hsame
  | ok m' =>
      rw [hexpand] at hsame
      cases hsame
      exact ⟨m', rfl, rfl⟩

/-- Where all custom forms are uniform, an emission of the restamped tree is carried over
to the tree itself, with as many levels of expansion or more. -/
theorem Emitter.emitAt_carries {e : Emitter} {bound : Nat} (hforms : e.forms.Uniform bound)
    {ρ : Respelling} (hρ : ρ.OnlyStamps) (hbound : ∀ k < bound, ρ.stamp k = k)
    {levels levels' : Nat} (hle : levels ≤ levels') (n : Node) :
    EmitM.Carries ρ (e.emitAt levels (n.respell ρ)) (e.emitAt levels' n) := by
  revert levels'
  refine e.emission_induction (P := fun levels n => ∀ {levels'}, levels ≤ levels' →
    EmitM.Carries ρ (e.emitAt levels (n.respell ρ)) (e.emitAt levels' n)) ?_ ?_ ?_ levels n
  · intro n call hcall levels' _
    have hcall' := e.forms.customCall?_respell (ρ := ρ) n
    rw [hcall] at hcall'
    rw [e.emitAt_zero_custom hcall']
    exact EmitM.throw_carries _ _
  · intro levels n call hcall ih levels' hle
    have hcall' := e.forms.customCall?_respell (ρ := ρ) n
    rw [hcall] at hcall'
    obtain ⟨id, -, -, hform⟩ := Registry.customCall?_eq_some hcall
    refine ⟨e.emitAt_advances _ _, ?_⟩
    cases levels' with
    | zero => cases hle
    | succ levels' =>
        rw [e.emitAt_succ_custom hcall, e.emitAt_succ_custom hcall']
        intro r s t r' hrs hr hstamps
        obtain ⟨m, hexpand, hm⟩ := Call.expandWith_ok_iff.1 hr
        -- the stamp of this expansion is the first of those that are handed out
        have hnext : r.nextStamp + 1 ≤ r'.nextStamp := e.emitAt_advances _ _ hm
        have hstamp : ρ.stamp s.nextStamp = r.nextStamp := hstamps 0 (by omega)
        rw [show r.streams.nextStamp = ρ.stamp s.nextStamp from hstamp.symm] at hexpand
        obtain ⟨m', hexpand', rfl⟩ :=
          (hforms id.name call.form hform).expand_ok hρ hbound hexpand
        have hbegun : Run.Restamps ρ
            { r with
              streams := r.streams.useStamp
              events := r.events.push (.expanding call.name) }
            { s with
              streams := s.streams.useStamp
              events := s.events.push (.expanding call.name) } :=
          ⟨hrs.scope, hrs.reads⟩
        obtain ⟨s', hs', hrs', hcount⟩ := (ih m' (Nat.le_of_succ_le_succ hle)).carries hbegun hm
          fun i hi => by
            have hstamp := hstamps (i + 1) (by
              have hi : r.nextStamp + 1 + i < r'.nextStamp := hi
              omega)
            show ρ.stamp (s.nextStamp + 1 + i) = r.nextStamp + 1 + i
            rwa [show s.nextStamp + 1 + i = s.nextStamp + (i + 1) by omega,
              show r.nextStamp + 1 + i = r.nextStamp + (i + 1) by omega]
        refine ⟨s', Call.expandWith_ok_iff.2 ⟨m', hexpand', hs'⟩, hrs', ?_⟩
        have hcount : s'.nextStamp + (r.nextStamp + 1) = s.nextStamp + 1 + r'.nextStamp := hcount
        omega
  · intro levels n hcall ih levels' hle
    have hcall' := e.forms.customCall?_respell (ρ := ρ) n
    rw [hcall] at hcall'
    rw [e.emitAt_of_not_custom hcall, e.emitAt_of_not_custom hcall']
    have htwin : Layout.Respelt ρ True n.layout (n.respell ρ).layout :=
      Node.layout_respelt (fun _ => hρ.keepsTexts) (.inl hρ)
    refine Layout.run_carries (htwin.imp_all ih (Layout.all_of_forall (fun _ => trivial) _) ?_)
    rintro m _ rfl hm -
    exact hm hle

end FormScript
