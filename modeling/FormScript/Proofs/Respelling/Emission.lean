/-
Emission does not depend on the spelling of trees. Two trees that are the same in
some spelling are emitted side by side: from the same run both emissions succeed
with the same text, or both fail alike, and both leave the same run
(`EmitM.Matches`).

# The argument

The layouts of the two trees are twins of the layout of their common spelling,
so they are twins themselves, and twins whose children match are written alike
(`Layout.run_matches`). A custom form may come between. It is found by the name at
the head, which is the same in every spelling, but what it makes of its arguments
is its own affair: a form respects a spelling if trees that are the same in it are
expanded to such trees, or refused alike (`CustomForm.Respects`). Under forms that
do, emission does (`Emitter.emitAt_matches`).
-/
import FormScript.Proofs.Respelling.Layout
import FormScript.Proofs.Simulation

namespace FormScript

-- ============================================================== matching

namespace EmitM

variable {α β : Type} {E : Error → Error → Prop} {m m' : EmitM α}

/-- Two computations that end alike from every run: with one result, or with
failures that correspond, and in one and the same run. -/
def Matches (E : Error → Error → Prop) (m m' : EmitM α) : Prop :=
  ∀ r, (∃ a s, m r = .ok a s ∧ m' r = .ok a s)
    ∨ ∃ e e' s, m r = .error e s ∧ m' r = .error e' s ∧ E e e'

theorem Matches.imp {E' : Error → Error → Prop} (hE : ∀ e e', E e e' → E' e e')
    (h : Matches E m m') : Matches E' m m' :=
  fun r => (h r).imp id fun ⟨e, e', s, hm, hm', he⟩ => ⟨e, e', s, hm, hm', hE e e' he⟩

/-- A computation that ends with a result does so alike. -/
theorem Matches.ok (h : Matches E m m') {r s : Run} {a : α} (hm : m r = .ok a s) :
    m' r = .ok a s := by
  rcases h r with ⟨b, s', hok, hok'⟩ | ⟨e, e', s', herr, -, -⟩
  · rw [hm] at hok
    cases hok
    exact hok'
  · rw [hm] at herr
    cases herr

theorem pure_matches (a : α) : Matches E (pure a : EmitM α) (pure a) :=
  fun r => .inl ⟨a, r, rfl, rfl⟩

theorem throw_matches {e e' : Error} (h : E e e') :
    Matches E (throw e : EmitM α) (throw e') :=
  fun r => .inr ⟨e, e', r, rfl, rfl, h⟩

theorem bind_matches {f f' : α → EmitM β} (hm : Matches E m m')
    (hf : ∀ a, Matches E (f a) (f' a)) : Matches E (m >>= f) (m' >>= f') := by
  intro r
  rcases hm r with ⟨a, s, h, h'⟩ | ⟨e, e', s, h, h', he⟩
  · rw [bind_ok h, bind_ok h']
    exact hf a s
  · exact .inr ⟨e, e', s, bind_error h, bind_error h', he⟩

theorem map_matches (hm : Matches E m m') (g : α → β) :
    Matches E (m >>= fun a => pure (g a)) (m' >>= fun a => pure (g a)) :=
  bind_matches hm fun a => pure_matches (g a)

theorem inScope_matches {body body' : EmitM String} (scope : Scope)
    (h : Matches E body body') : Matches E (inScope scope body) (inScope scope body') := by
  intro r
  rcases h { r with scope := some scope } with ⟨t, s, ht, ht'⟩ | ⟨e, e', s, he, he', hee⟩
  · exact .inl ⟨_, _, inScope_ok_iff.2 ⟨t, s, ht, rfl, rfl⟩, inScope_ok_iff.2 ⟨t, s, ht', rfl, rfl⟩⟩
  · refine .inr ⟨e, e', { s with scope := r.scope }, ?_, ?_, hee⟩
    · simp only [inScope, he]
    · simp only [inScope, he']

theorem iterated_matches (hE : ∀ e e', E e e' → E e.iterated e'.iterated)
    (h : Matches E m m') : Matches E (iterated m) (iterated m') := by
  intro r
  rcases h r with ⟨a, s, ha, ha'⟩ | ⟨e, e', s, he, he', hee⟩
  · exact .inl ⟨a, s, iterated_ok_iff.2 ha, iterated_ok_iff.2 ha'⟩
  · refine .inr ⟨e.iterated, e'.iterated, s, ?_, ?_, hE e e' hee⟩
    · simp only [iterated, he]
    · simp only [iterated, he']

/-- Items that match are taken from a stream alike. -/
theorem takeAll_matches {write write' : Node → EmitM String} (id : Identity)
    {items items' : List Node}
    (h : List.Forall₂ (fun n n' => Matches E (write n) (write' n')) items items') (index : Nat) :
    Matches E (takeAll write id index items) (takeAll write' id index items') := by
  induction h generalizing index with
  | nil => exact pure_matches []
  | cons hn _ ih =>
      refine bind_matches (fun r => .inl ⟨r, r, rfl, rfl⟩) fun r => ?_
      split
      · refine bind_matches (fun r => .inl ⟨_, _, rfl, rfl⟩) fun _ => ?_
        exact bind_matches hn fun text => map_matches (ih (index + 1)) (text :: ·)
      · exact ih (index + 1)

end EmitM

/-- Twin layouts whose children match are written alike. -/
theorem Layout.run_matches {E : Error → Error → Prop} {dedupe : Bool}
    {write write' : Node → EmitM String} {l l' : Layout}
    (hE : ∀ e e', E e e' → E e.iterated e'.iterated)
    (h : Twin (fun n n' => EmitM.Matches E (write n) (write' n')) Eq E l l') :
    EmitM.Matches E (l.run dedupe write) (l'.run dedupe write') := by
  induction h with
  | text s => exact EmitM.pure_matches s
  | node hn => exact hn
  | item hn => exact EmitM.iterated_matches hE hn
  | fail he => exact EmitM.throw_matches he
  | append _ _ iha ihb =>
      exact EmitM.bind_matches iha fun x => EmitM.map_matches ihb (x ++ ·)
  | late _ _ iha ihb =>
      exact EmitM.bind_matches ihb fun y => EmitM.map_matches iha (· ++ y)
  | twice _ between ih => exact EmitM.map_matches ih _
  | statement _ ih => exact EmitM.map_matches ih _
  | declare names => exact fun r => .inl ⟨_, _, rfl, rfl⟩
  | inline s => exact fun r => .inl ⟨_, _, rfl, rfl⟩
  | enclosed _ ih => exact EmitM.inScope_matches _ ih
  | stream hid hitems =>
      subst hid
      exact EmitM.map_matches (EmitM.iterated_matches hE (EmitM.takeAll_matches _ hitems 0)) _

-- ============================================================== variants

/-- Two trees that are the same in a spelling and have a property at every place. -/
structure Node.Variants (ρ : Respelling) (p : Node → Bool) (n n' : Node) : Prop where
  spelling : n.respell ρ = n'.respell ρ
  left : n.every p
  right : n'.every p

/-- A custom form that makes variants of variants, or refuses them alike. -/
def CustomForm.Respects (ρ : Respelling) (p : Node → Bool) (shown : Prop)
    (form : CustomForm) : Prop :=
  ∀ stamp args args', args.map (·.respell ρ) = args'.map (·.respell ρ) →
    (∀ a ∈ args, a.every p) → (∀ a ∈ args', a.every p) →
      Both (Error.Alike shown) (Node.Variants ρ p) (form.expand stamp args)
        (form.expand stamp args')

/-- The call of a custom form that a node is, in another spelling. -/
theorem Registry.customCall?_respell (r : Registry) {ρ : Respelling} (n : Node) :
    r.customCall? (n.respell ρ)
      = (r.customCall? n).map fun call => { call with args := call.args.map (·.respell ρ) } := by
  cases n with
  | form items =>
      cases items with
      | nil => rfl
      | cons head args =>
          cases head with
          | sym id =>
              simp only [Node.respell_form, List.map_cons, Node.respell_sym, customCall?,
                ρ.name_ident]
              split
              · rfl
              · rw [Option.map_map]
                rfl
          | _ => rfl
  | _ => rfl

theorem Registry.customCall?_variants (r : Registry) {ρ : Respelling} {n n' : Node}
    (h : n.respell ρ = n'.respell ρ) {call : Call} (hcall : r.customCall? n = some call) :
    ∃ args', r.customCall? n' = some { call with args := args' }
      ∧ call.args.map (·.respell ρ) = args'.map (·.respell ρ) := by
  have hboth := r.customCall?_respell (ρ := ρ) n
  rw [h, r.customCall?_respell, hcall] at hboth
  obtain ⟨call', hcall', heq⟩ := Option.map_eq_some_iff.1 hboth
  obtain ⟨name, form, args⟩ := call
  obtain ⟨name', form', args'⟩ := call'
  simp only [Call.mk.injEq] at heq
  obtain ⟨rfl, rfl, hargs⟩ := heq
  exact ⟨args', hcall', hargs.symm⟩

theorem Registry.customCall?_variants_none (r : Registry) {ρ : Respelling} {n n' : Node}
    (h : n.respell ρ = n'.respell ρ) (hcall : r.customCall? n = none) :
    r.customCall? n' = none := by
  have hboth := r.customCall?_respell (ρ := ρ) n
  rw [h, r.customCall?_respell, hcall] at hboth
  exact Option.map_eq_none_iff.1 hboth

/-- Calls of one form are written alike if they are expanded to trees that are, or
refused alike. -/
theorem Call.expandWith_matches {E : Error → Error → Prop} {R : Node → Node → Prop}
    {write : Node → EmitM String} {call : Call} {args' : List Node}
    (hexpand : ∀ stamp, Both E R (call.form.expand stamp call.args)
      (call.form.expand stamp args'))
    (hwrite : ∀ n n', R n n' → EmitM.Matches E (write n) (write n')) :
    EmitM.Matches E (call.expandWith write)
      (Call.expandWith write { call with args := args' }) := by
  unfold Call.expandWith
  refine EmitM.bind_matches (fun r => .inl ⟨_, _, rfl, rfl⟩) fun stamp => ?_
  have hboth := hexpand stamp
  show EmitM.Matches E (EmitM.ofExcept (call.form.expand stamp call.args) >>= write)
    (EmitM.ofExcept (call.form.expand stamp args') >>= write)
  generalize call.form.expand stamp call.args = x at hboth ⊢
  generalize call.form.expand stamp args' = y at hboth ⊢
  cases hboth with
  | ok hR => exact hwrite _ _ hR
  | error he => exact EmitM.throw_matches he

-- ============================================================== emission

variable {ρ : Respelling} {shown : Prop} {p : Node → Bool}

/-- The layouts of variants are twins, with variants as children. -/
theorem Node.Variants.layout_twin (hρ : shown → ρ.KeepsTexts) (hregular : ∀ n, p n → n.isRegular)
    (hnil : p .nil) {n n' : Node} (h : n.Variants ρ p n') :
    Layout.Twin (Node.Variants ρ p) Eq (Error.Alike shown) n.layout n'.layout := by
  have hchildren {n : Node} (hn : n.every p) : n.layout.All fun m => m.every p :=
    layout_all (hereditary_every p) (fun _ => hnil) (every_iff.1 hn).2
  have hleft := layout_respelt hρ (.inr (every_imp hregular h.left))
  have hright := layout_respelt hρ (.inr (every_imp hregular h.right))
  rw [← h.spelling] at hright
  have htwin : Layout.Twin (fun n n' => n.respell ρ = n'.respell ρ) Eq (Error.Alike shown)
      n.layout n'.layout :=
    hleft.meet (fun _ _ _ hn hn' => hn.symm.trans hn')
      (fun _ _ _ hi hi' => ρ.identity_inj (hi.symm.trans hi')) (fun _ _ _ he he' => he.meet he')
      hright
  exact htwin.imp_all (hchildren h.left) (hchildren h.right) fun _ _ => .mk

/-- Under custom forms that respect a spelling, variants are emitted alike. -/
theorem Emitter.emitAt_matches {e : Emitter} (hρ : shown → ρ.KeepsTexts)
    (hregular : ∀ n, p n → n.isRegular) (hnil : p .nil)
    (hforms : ∀ name form, e.forms.get? name = some form → form.Respects ρ p shown)
    (levels : Nat) {n n' : Node} (h : n.Variants ρ p n') :
    EmitM.Matches (Error.Alike shown) (e.emitAt levels n) (e.emitAt levels n') := by
  revert n'
  refine e.emission_induction (P := fun levels n => ∀ {n'}, n.Variants ρ p n' →
    EmitM.Matches (Error.Alike shown) (e.emitAt levels n) (e.emitAt levels n'))
    ?_ ?_ ?_ levels n
  · intro n call hcall n' h
    obtain ⟨args', hcall', -⟩ := e.forms.customCall?_variants h.spelling hcall
    rw [e.emitAt_zero_custom hcall, e.emitAt_zero_custom hcall']
    exact EmitM.throw_matches (Error.alike_refl _)
  · intro levels n call hcall ih n' h
    obtain ⟨args', hcall', hargs⟩ := e.forms.customCall?_variants h.spelling hcall
    rw [e.emitAt_succ_custom hcall, e.emitAt_succ_custom hcall']
    obtain ⟨id, rfl, -, hform⟩ := Registry.customCall?_eq_some hcall
    obtain ⟨id', rfl, -, -⟩ := Registry.customCall?_eq_some hcall'
    refine Call.expandWith_matches (fun stamp => ?_) fun m m' hm => ih m hm
    exact hforms id.name call.form hform stamp call.args args' hargs
      (fun a ha => (Node.every_iff.1 h.left).2 a (.tail _ ha))
      (fun a ha => (Node.every_iff.1 h.right).2 a (.tail _ ha))
  · intro levels n hcall ih n' h
    have hcall' := e.forms.customCall?_variants_none h.spelling hcall
    rw [e.emitAt_of_not_custom hcall, e.emitAt_of_not_custom hcall']
    have htwin := h.layout_twin hρ hregular hnil
    have hchildren := htwin.imp_all ih (Layout.all_of_forall (fun _ => trivial) _)
      fun m m' hm hmatches _ => hmatches hm
    exact Layout.run_matches (fun _ _ => Error.Alike.iterated) hchildren

end FormScript
