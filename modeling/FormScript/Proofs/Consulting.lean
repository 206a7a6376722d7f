/-
Which entries of a registry an emission depends on: those it looks up. A look-up
happens at every form that is reached and has a symbol at its head, unless the head
spells a method.

# What is reached

`Layout.Writes` says which children of a layout are written and from which run, and
`Emitter.Reaches` follows them down the tree and into expansions. Both are about one
run: what stands behind a failure is not reached, nor are the items that a stream no
longer has.

# What follows

Two registries that agree on what the first one is asked for make the same emission,
with the same text or error and the same effects (`Emitter.emitAt_eq_of_agrees`). So
an entry under the name of a method, which is never asked for, is never felt
(`Emitter.emit_eq_of_consulted`).
-/
import FormScript.Proofs.Moments
import FormScript.Proofs.Simulation
import FormScript.Registry.Stock

namespace FormScript

-- ============================================================== children

/-- While a layout is written from a run, one of its children is written from some
run. -/
inductive Layout.Writes (dedupe : Bool) (write : Node → EmitM String) :
    Layout → Run → Node → Run → Prop
  | node {n : Node} {r : Run} : Writes dedupe write (.node n) r n r
  | item {n : Node} {r : Run} : Writes dedupe write (.item n) r n r
  | first {a b : Layout} {r s : Run} {n : Node} (h : Writes dedupe write a r n s) :
      Writes dedupe write (.append a b) r n s
  | second {a b : Layout} {r u s : Run} {x : String} {n : Node}
      (written : a.run dedupe write r = .ok x u) (h : Writes dedupe write b u n s) :
      Writes dedupe write (.append a b) r n s
  | back {a b : Layout} {r s : Run} {n : Node} (h : Writes dedupe write b r n s) :
      Writes dedupe write (.late a b) r n s
  | front {a b : Layout} {r u s : Run} {y : String} {n : Node}
      (written : b.run dedupe write r = .ok y u) (h : Writes dedupe write a u n s) :
      Writes dedupe write (.late a b) r n s
  | twice {a : Layout} {between : String} {r s : Run} {n : Node}
      (h : Writes dedupe write a r n s) : Writes dedupe write (.twice a between) r n s
  | statement {a : Layout} {r s : Run} {n : Node} (h : Writes dedupe write a r n s) :
      Writes dedupe write (.statement a) r n s
  | inside {a : Layout} {r s : Run} {n : Node}
      (h : Writes dedupe write a { r with scope := some { dedupe } } n s) :
      Writes dedupe write (.enclosed a) r n s
  | taking {id : Identity} {items : List Node} {r s : Run} {n : Node}
      (taken : EmitM.Takes write id 0 items r n s) :
      Writes dedupe write (.stream id items) r n s

theorem EmitM.Takes.mem {write : Node → EmitM String} {id : Identity} {index : Nat}
    {items : List Node} {r s : Run} {n : Node} (h : Takes write id index items r n s) :
    n ∈ items := by
  induction h with
  | now => exact .head _
  | later _ _ _ ih => exact .tail _ ih
  | passed _ _ ih => exact .tail _ ih

/-- What is written of a layout is among its children. -/
theorem Layout.All.of_writes {p : Node → Prop} {dedupe : Bool} {write : Node → EmitM String}
    {l : Layout} {r s : Run} {n : Node} (hp : l.All p) (h : l.Writes dedupe write r n s) :
    p n := by
  induction h with
  | node | item => exact hp
  | first _ ih => exact ih hp.1
  | second _ _ ih => exact ih hp.2
  | back _ ih => exact ih hp.2
  | front _ _ ih => exact ih hp.1
  | twice _ ih => exact ih hp
  | statement _ ih => exact ih hp
  | inside _ ih => exact ih hp
  | taking taken => exact hp _ taken.mem

namespace EmitM

variable {α β : Type}

/-- Two steps are as two others from a run if the first ones are, and the second ones
where the first one leads to. -/
theorem bind_eq_bind {m m' : EmitM α} {f f' : α → EmitM β} {r : Run} (hm : m r = m' r)
    (hf : ∀ a s, m r = .ok a s → f a s = f' a s) : (m >>= f) r = (m' >>= f') r := by
  cases h : m r with
  | ok a s => rw [bind_ok h, bind_ok (hm ▸ h), hf a s h]
  | error e s => rw [bind_error h, bind_error (hm ▸ h)]

/-- Items are taken alike by writers that agree on those that are written. -/
theorem takeAll_eq_of_takes {write write' : Node → EmitM String} {id : Identity}
    {index : Nat} {items : List Node} {r : Run}
    (h : ∀ n s, Takes write id index items r n s → write n s = write' n s) :
    takeAll write id index items r = takeAll write' id index items r := by
  induction items generalizing index r with
  | nil => rfl
  | cons n rest ih =>
      rcases Nat.lt_or_ge index (r.streams.position id) with gone | left
      · rw [takeAll_cons_of_lt gone, takeAll_cons_of_lt gone]
        exact ih fun m s hm => h m s (.passed gone hm)
      · rw [takeAll_cons_eq_of_le left, takeAll_cons_eq_of_le left]
        refine bind_eq_bind (h n _ (.now left)) fun x s hx => ?_
        refine bind_eq_bind (ih fun m u hm => h m u (.later left hx hm)) fun _ _ _ => rfl

end EmitM

/-- A layout is written alike by writers that agree on the children that are
written. -/
theorem Layout.run_eq_of_writes {dedupe : Bool} {write write' : Node → EmitM String}
    {l : Layout} {r : Run} (h : ∀ n s, l.Writes dedupe write r n s → write n s = write' n s) :
    l.run dedupe write r = l.run dedupe write' r := by
  induction l generalizing r with
  | text | fail | declare | inline => rfl
  | node n => exact h n r .node
  | item n => rw [run, run, EmitM.iterated, EmitM.iterated, h n r .item]
  | append a b iha ihb =>
      refine EmitM.bind_eq_bind (iha fun n s hn => h n s (.first hn)) fun x u hx => ?_
      exact EmitM.bind_eq_bind (ihb fun n s hn => h n s (.second hx hn)) fun _ _ _ => rfl
  | late a b iha ihb =>
      refine EmitM.bind_eq_bind (ihb fun n s hn => h n s (.back hn)) fun y u hy => ?_
      exact EmitM.bind_eq_bind (iha fun n s hn => h n s (.front hy hn)) fun _ _ _ => rfl
  | twice a between ih =>
      exact EmitM.bind_eq_bind (ih fun n s hn => h n s (.twice hn)) fun _ _ _ => rfl
  | statement a ih =>
      exact EmitM.bind_eq_bind (ih fun n s hn => h n s (.statement hn)) fun _ _ _ => rfl
  | enclosed a ih =>
      rw [run, run, EmitM.inScope, EmitM.inScope, ih fun n s hn => h n s (.inside hn)]
  | stream id items =>
      refine EmitM.bind_eq_bind ?_ fun _ _ _ => rfl
      rw [EmitM.iterated, EmitM.iterated,
        EmitM.takeAll_eq_of_takes fun n s hn => h n s (.taking hn)]

-- ============================================================= agreement

/-- The name that is looked up at a node: the one at its head, unless it spells a
method. -/
def Node.asked? (n : Node) : Option String :=
  n.callName?.filter fun name => (methodName? name).isNone

/-- Two registries with the same expansion under a name, or with none. -/
def Registry.Agrees (forms forms' : Registry) (name : String) : Prop :=
  (forms.get? name).map (·.expand) = (forms'.get? name).map (·.expand)

/-- What a call comes down to: its name, its expansion and its arguments. -/
def Call.essence (call : Call) : String × (Nat → List Node → Except Error Node) × List Node :=
  (call.name, call.form.expand, call.args)

/-- Registries that agree on what is looked up at a node see the same call in it. -/
theorem Registry.customCall?_agrees {forms forms' : Registry} {n : Node}
    (h : ∀ name, n.asked? = some name → forms.Agrees forms' name) :
    (forms.customCall? n).map Call.essence = (forms'.customCall? n).map Call.essence := by
  cases n with
  | form items =>
      cases items with
      | nil => rfl
      | cons head args =>
          cases head with
          | sym id =>
              cases hmethod : methodName? id.name with
              | some method => simp only [customCall?, hmethod]
              | none =>
                  have hasked : Node.asked? (.form (.sym id :: args)) = some id.name := by
                    simp [Node.asked?, Node.callName?, Node.call?, hmethod]
                  have hcalls := congrArg (Option.map fun expand => (id.name, expand, args))
                    (h id.name hasked)
                  rw [Option.map_map, Option.map_map] at hcalls
                  simp only [customCall?, hmethod, Option.map_map]
                  exact hcalls
          | _ => rfl
  | _ => rfl

/-- A call is written by its essence, and by what is done with its expansion. -/
theorem Call.expandWith_eq {write write' : Node → EmitM String} {call call' : Call} {r : Run}
    (h : call.essence = call'.essence)
    (hwrite : ∀ m, call.form.expand r.streams.nextStamp call.args = .ok m →
      write m (r.expanding call.name) = write' m (r.expanding call.name)) :
    call.expandWith write r = call'.expandWith write' r := by
  obtain ⟨name, form, args⟩ := call
  obtain ⟨name', form', args'⟩ := call'
  simp only [essence, Prod.mk.injEq] at h
  obtain ⟨rfl, hexpand, rfl⟩ := h
  have hbegin : EmitM.beginExpansion name r
      = .ok r.streams.nextStamp (r.expanding name) := rfl
  rw [expandWith, expandWith, EmitM.bind_ok hbegin, EmitM.bind_ok hbegin, hexpand]
  cases hm : form'.expand r.streams.nextStamp args with
  | ok m => exact hwrite m (by rw [hexpand]; exact hm)
  | error err => rfl

namespace Emitter

/-- The nodes that an emitter reaches when it writes a node, with this many levels of
expansion left. -/
inductive Reaches (e : Emitter) : (levels : Nat) → Node → Run → Node → Prop
  | here {levels : Nat} {n : Node} {r : Run} : e.Reaches levels n r n
  | child {levels : Nat} {n m k : Node} {r s : Run} (plain : e.forms.customCall? n = none)
      (written : n.layout.Writes e.config.dedupe (e.emitAt levels) r m s)
      (h : e.Reaches levels m s k) : e.Reaches levels n r k
  | expansion {levels : Nat} {n m k : Node} {call : Call} {r : Run}
      (custom : e.forms.customCall? n = some call)
      (expanded : call.form.expand r.streams.nextStamp call.args = .ok m)
      (h : e.Reaches levels m (r.expanding call.name) k) : e.Reaches (levels + 1) n r k

/-- An emitter with other forms. -/
def withForms (e : Emitter) (forms : Registry) : Emitter := { e with forms }

/-- A node is emitted alike under forms that agree on all that is looked up. -/
theorem emitAt_eq_of_agrees (e : Emitter) (forms : Registry) (levels : Nat) (n : Node) (r : Run)
    (h : ∀ m name, e.Reaches levels n r m → m.asked? = some name → e.forms.Agrees forms name) :
    (e.withForms forms).emitAt levels n r = e.emitAt levels n r := by
  revert r
  refine e.emission_induction (P := fun levels n => ∀ r, (∀ m name, e.Reaches levels n r m →
    m.asked? = some name → e.forms.Agrees forms name) →
      (e.withForms forms).emitAt levels n r = e.emitAt levels n r) ?_ ?_ ?_ levels n
  · intro n call hcall r h
    have hessence := Registry.customCall?_agrees fun name hname => h n name .here hname
    rw [hcall] at hessence
    obtain ⟨call', hcall', heq⟩ := Option.map_eq_some_iff.1 hessence.symm
    have hname : call'.name = call.name := congrArg (·.1) heq
    rw [e.emitAt_zero_custom hcall, (e.withForms forms).emitAt_zero_custom hcall', refuse, refuse,
      hname]
    rfl
  · intro levels n call hcall ih r h
    have hessence := Registry.customCall?_agrees fun name hname => h n name .here hname
    rw [hcall] at hessence
    obtain ⟨call', hcall', heq⟩ := Option.map_eq_some_iff.1 hessence.symm
    rw [e.emitAt_succ_custom hcall, (e.withForms forms).emitAt_succ_custom hcall']
    refine (Call.expandWith_eq heq.symm fun m hm => ?_).symm
    exact (ih m _ fun k name hk => h k name (.expansion hcall hm hk)).symm
  · intro levels n hcall ih r h
    have hessence := Registry.customCall?_agrees fun name hname => h n name .here hname
    rw [hcall] at hessence
    have hcall' := Option.map_eq_none_iff.1 hessence.symm
    rw [e.emitAt_of_not_custom hcall, (e.withForms forms).emitAt_of_not_custom hcall']
    refine (Layout.run_eq_of_writes fun m s hm => ?_).symm
    have hchild := ih.of_writes hm
    exact (hchild s fun k name hk => h k name (.child hcall hm hk)).symm

/-- What is reached has a property at every place if the tree has it and the forms
keep it. -/
theorem Reaches.every {e : Emitter} {p : Node → Bool} (hnil : p .nil)
    (hforms : e.forms.Preserves (·.every p)) {levels : Nat} {n k : Node} {r : Run}
    (h : e.Reaches levels n r k) (hn : n.every p) : k.every p := by
  induction h with
  | here => exact hn
  | child _ written _ ih =>
      have hchildren := Node.layout_all (Node.hereditary_every p) (fun _ => hnil)
        (Node.every_iff.1 hn).2
      exact ih (hchildren.of_writes written)
  | expansion custom expanded _ ih =>
      obtain ⟨id, rfl, -, hform⟩ := Registry.customCall?_eq_some custom
      exact ih (hforms id.name _ hform _ _ _
        (fun a ha => (Node.every_iff.1 hn).2 a (.tail _ ha)) expanded)

-- =============================================================== methods

/-- An entry under the name of a method is never looked up. -/
theorem emit_eq_of_method_entry (e : Emitter) {forms : Registry} {name : String}
    (hname : (methodName? name).isSome)
    (hforms : ∀ other, other ≠ name → forms.get? other = e.forms.get? other) (n : Node) :
    (e.withForms forms).emit n = e.emit n := by
  funext r
  refine e.emitAt_eq_of_agrees forms _ n r fun m other _ hother => ?_
  have hplain : (methodName? other).isNone := (Option.filter_eq_some_iff.1 hother).2
  have hne : other ≠ name := by
    rintro rfl
    rw [Option.isNone_iff_eq_none.1 hplain] at hname
    cases hname
  rw [Registry.Agrees, hforms other hne]

/-- An emission depends on the entries that it looks up alone: under any forms that
agree with its own on the name at the head of every form that it reaches, names of
methods apart, it is the same. In particular, no emission changes when a form is
registered or replaced under the name of a method, or removed. -/
theorem emit_eq_of_consulted (e : Emitter) :
    (∀ (forms : Registry) (n : Node) (r : Run),
        (∀ m name, e.Reaches e.config.limit.toNat n r m → m.asked? = some name →
          e.forms.Agrees forms name) →
        (e.withForms forms).emit n r = e.emit n r)
      ∧ ∀ (name : String) (c : Char) (rest : List Char),
        name.toList = '.' :: c :: rest → c ≠ '.' → ∀ (form : CustomForm) (n : Node),
          (e.withForms (e.forms.insert name form)).emit n = e.emit n
            ∧ (e.withForms (e.forms.erase name)).emit n = e.emit n := by
  refine ⟨fun forms n r h => e.emitAt_eq_of_agrees forms _ n r h, ?_⟩
  intro name c rest hchars hc form n
  have hname : (methodName? name).isSome := by
    simp only [methodName?, hchars, if_neg hc, Option.isSome_some]
  exact ⟨e.emit_eq_of_method_entry hname (fun other hne => Registry.get?_insert_of_ne hne _ _) n,
    e.emit_eq_of_method_entry hname (fun other hne => Registry.get?_erase_of_ne hne _) n⟩

/-- An emitter with one form, which makes an array of its arguments. -/
def gathering : Emitter where
  forms := Registry.empty.insert "gather" (CustomForm.collect .vector)

/-- A registry that describes this form otherwise, and has two more. -/
def furnished : Registry :=
  ((Registry.empty.insert "gather" { CustomForm.collect .vector with doc := "an array" }).insert
    ".len" (CustomForm.collect .list)).insert "h" (CustomForm.collect .list)

/-- A call of the form, with the call of a method and that of a function. -/
def gatheredCalls : Node :=
  .form [.sym ⟨"gather", none⟩, .form [.sym ⟨".len", none⟩, .sym ⟨"h", none⟩],
    .form [.sym ⟨"f", none⟩, .int 1]]

theorem gatheredCalls_consulted :
    (∀ m name, gathering.Reaches gathering.config.limit.toNat gatheredCalls {} m →
        m.asked? = some name → gathering.forms.Agrees furnished name)
      ∧ gathering.emit gatheredCalls {} = .ok "[h.len(), f(1)]"
          { streams := { nextStamp := 1 }, events := #[.expanding "gather"] }
      ∧ (gathering.withForms furnished).emit gatheredCalls {} = .ok "[h.len(), f(1)]"
          { streams := { nextStamp := 1 }, events := #[.expanding "gather"] } := by
  let p : Node → Bool := fun m => m.asked?.all fun name => name == "gather" || name == "f"
  have hforms : gathering.forms.Preserves (·.every p) := by
    intro name form hform stamp args n hargs hexpand
    rw [Registry.eq_of_get?_single hform] at hexpand
    cases hexpand
    exact Node.every_iff.2 ⟨rfl, hargs⟩
  have hagrees : ∀ m name, gathering.Reaches gathering.config.limit.toNat gatheredCalls {} m →
      m.asked? = some name → gathering.forms.Agrees furnished name := by
    intro m name hm hname
    have hp := (Node.every_iff.1 (hm.every (p := p) rfl hforms rfl)).1
    simp only [p, hname, Option.all_some, Bool.or_eq_true, beq_iff_eq] at hp
    rcases hp with rfl | rfl
    · rfl
    · rfl
  have htext : gathering.emit gatheredCalls {} = .ok "[h.len(), f(1)]"
      { streams := { nextStamp := 1 }, events := #[.expanding "gather"] } := rfl
  have hsame := (emit_eq_of_consulted gathering).1 furnished gatheredCalls {} hagrees
  exact ⟨hagrees, htext, hsame.trans htext⟩

end Emitter

end FormScript
