/-
How an emission that succeeds went, step by step. Every layout has one
inversion lemma: a layout is written successfully exactly when its parts
are, one after another, each from the state that the one before it left.
A call of a custom form has one as well. Proofs about emissions take a run
apart with these lemmas and put another one together with them, and never
open the writer itself.

`Emitter.emission_induction` is the induction that all of them use: on the
levels of expansion that are left, and below that on the height of nodes.
-/
import FormScript.Emission.Unfold

namespace FormScript

-- ============================================================ sequencing

namespace EmitM

variable {α β : Type}

theorem bind_ok {m : EmitM α} {f : α → EmitM β} {r s : Run} {a : α}
    (h : m r = .ok a s) : (m >>= f) r = f a s := by
  simp only [bind, EStateM.bind, h]

theorem bind_error {m : EmitM α} {f : α → EmitM β} {r s : Run} {e : Error}
    (h : m r = .error e s) : (m >>= f) r = .error e s := by
  simp only [bind, EStateM.bind, h]

/-- A sequence of two steps succeeds when both steps do. -/
theorem bind_ok_iff {m : EmitM α} {f : α → EmitM β} {r r' : Run} {b : β} :
    (m >>= f) r = .ok b r' ↔ ∃ a s, m r = .ok a s ∧ f a s = .ok b r' := by
  simp only [bind, EStateM.bind]
  cases h : m r with
  | ok a s =>
      constructor
      · intro hf
        exact ⟨a, s, rfl, hf⟩
      · rintro ⟨a', s', hm, hf⟩
        cases hm
        exact hf
  | error e s =>
      constructor
      · intro hf
        cases hf
      · rintro ⟨a', s', hm, -⟩
        cases hm

/-- An iteration changes failures only. -/
theorem iterated_ok_iff {m : EmitM α} {r r' : Run} {a : α} :
    iterated m r = .ok a r' ↔ m r = .ok a r' := by
  unfold iterated
  cases m r with
  | ok b s => rfl
  | error e s => simp

theorem iterated_error {m : EmitM α} {r s : Run} {e : Error}
    (h : m r = .error e s) : iterated m r = .error e.iterated s := by
  simp only [iterated, h]

theorem iterated_error_iff {m : EmitM α} {r r' : Run} {e : Error} :
    iterated m r = .error e r' ↔ ∃ e', m r = .error e' r' ∧ e'.iterated = e := by
  unfold iterated
  cases m r with
  | ok a s => simp
  | error e' s =>
      constructor
      · intro h
        cases h
        exact ⟨e', rfl, rfl⟩
      · rintro ⟨e'', h, rfl⟩
        cases h
        rfl

/-- A sequence of steps inside an iteration is one of steps that each are. -/
theorem iterated_bind (m : EmitM α) (f : α → EmitM β) :
    iterated (m >>= f) = iterated m >>= fun a => iterated (f a) := by
  funext r
  simp only [iterated, bind, EStateM.bind]
  cases m r with
  | ok a s => rfl
  | error e s => rfl

@[simp] theorem iterated_pure (a : α) : iterated (pure a) = pure a := rfl

@[simp] theorem iterated_iterated (m : EmitM α) :
    iterated (iterated m) = iterated m := by
  funext r
  unfold iterated
  cases m r with
  | ok a s => rfl
  | error e s => exact congrArg (EStateM.Result.error · s) e.iterated_iterated

/-- A body in a scope of its own succeeds when the body does from that
scope; the scope around it is open again afterwards. -/
theorem inScope_ok_iff {scope : Scope} {body : EmitM String} {r r' : Run}
    {t : String} :
    inScope scope body r = .ok t r' ↔
      ∃ x s, body { r with scope := some scope } = .ok x s
        ∧ (s.scope.getD scope).declaration ++ x = t
        ∧ { s with scope := r.scope } = r' := by
  unfold inScope
  cases h : body { r with scope := some scope } with
  | ok x s =>
      constructor
      · intro ht
        injection ht with ht hr
        exact ⟨x, s, rfl, ht, hr⟩
      · rintro ⟨x', s', hb, rfl, rfl⟩
        cases hb
        rfl
  | error e s =>
      constructor
      · intro ht
        cases ht
      · rintro ⟨x', s', hb, -⟩
        cases hb

/-- An item that the stream still has is taken, then it is written, then the
items behind it are. -/
theorem takeAll_cons_eq_of_le {write : Node → EmitM String} {id : Identity}
    {index : Nat} {n : Node} {rest : List Node} {r : Run}
    (h : r.streams.position id ≤ index) :
    takeAll write id index (n :: rest) r
      = (do
          let text ← write n
          let texts ← takeAll write id (index + 1) rest
          return text :: texts : EmitM (List String))
        { r with streams := r.streams.advance id (index + 1) } := by
  rw [takeAll]
  show (if r.streams.position id ≤ index then _ else _ : EmitM _) r = _
  rw [if_pos h]
  rfl

/-- An item that the stream still has is taken and written before the
items behind it. -/
theorem takeAll_cons_of_le {write : Node → EmitM String} {id : Identity}
    {index : Nat} {n : Node} {rest : List Node} {r r' : Run}
    {texts : List String} (h : r.streams.position id ≤ index) :
    takeAll write id index (n :: rest) r = .ok texts r' ↔
      ∃ x s xs,
        write n { r with streams := r.streams.advance id (index + 1) }
            = .ok x s
          ∧ takeAll write id (index + 1) rest s = .ok xs r'
          ∧ x :: xs = texts := by
  rw [takeAll_cons_eq_of_le h, bind_ok_iff]
  constructor
  · rintro ⟨x, s, hx, hrest⟩
    obtain ⟨xs, s', hxs, hret⟩ := bind_ok_iff.1 hrest
    cases hret
    exact ⟨x, s, xs, hx, hxs, rfl⟩
  · rintro ⟨x, s, xs, hx, hxs, rfl⟩
    exact ⟨x, s, hx, bind_ok_iff.2 ⟨xs, r', hxs, rfl⟩⟩

/-- An item that has been taken before is passed over. -/
theorem takeAll_cons_of_lt {write : Node → EmitM String} {id : Identity}
    {index : Nat} {n : Node} {rest : List Node} {r : Run}
    (h : index < r.streams.position id) :
    takeAll write id index (n :: rest) r
      = takeAll write id (index + 1) rest r := by
  rw [takeAll]
  show (if r.streams.position id ≤ index then _ else _ : EmitM _) r = _
  rw [if_neg (by omega)]

end EmitM

-- =============================================================== layouts

namespace Layout

variable {dedupe : Bool} {write : Node → EmitM String} {a b : Layout}
  {r r' : Run} {t : String}

theorem run_item_ok_iff {n : Node} :
    (item n).run dedupe write r = .ok t r' ↔ write n r = .ok t r' :=
  EmitM.iterated_ok_iff

theorem run_append_ok_iff :
    (append a b).run dedupe write r = .ok t r' ↔
      ∃ x s y, a.run dedupe write r = .ok x s
        ∧ b.run dedupe write s = .ok y r' ∧ x ++ y = t := by
  rw [run, EmitM.bind_ok_iff]
  constructor
  · rintro ⟨x, s, hx, h⟩
    obtain ⟨y, s', hy, hret⟩ := EmitM.bind_ok_iff.1 h
    cases hret
    exact ⟨x, s, y, hx, hy, rfl⟩
  · rintro ⟨x, s, y, hx, hy, rfl⟩
    exact ⟨x, s, hx, EmitM.bind_ok_iff.2 ⟨y, r', hy, rfl⟩⟩

/-- The back part of a late layout is written first. -/
theorem run_late_ok_iff :
    (late a b).run dedupe write r = .ok t r' ↔
      ∃ y s x, b.run dedupe write r = .ok y s
        ∧ a.run dedupe write s = .ok x r' ∧ x ++ y = t := by
  rw [run, EmitM.bind_ok_iff]
  constructor
  · rintro ⟨y, s, hy, h⟩
    obtain ⟨x, s', hx, hret⟩ := EmitM.bind_ok_iff.1 h
    cases hret
    exact ⟨y, s, x, hy, hx, rfl⟩
  · rintro ⟨y, s, x, hy, hx, rfl⟩
    exact ⟨y, s, hy, EmitM.bind_ok_iff.2 ⟨x, r', hx, rfl⟩⟩

theorem run_twice_ok_iff {between : String} :
    (twice a between).run dedupe write r = .ok t r' ↔
      ∃ x, a.run dedupe write r = .ok x r' ∧ x ++ between ++ x = t := by
  rw [run, EmitM.bind_ok_iff]
  constructor
  · rintro ⟨x, s, hx, hret⟩
    cases hret
    exact ⟨x, hx, rfl⟩
  · rintro ⟨x, hx, rfl⟩
    exact ⟨x, r', hx, rfl⟩

theorem run_statement_ok_iff :
    (statement a).run dedupe write r = .ok t r' ↔
      ∃ x, a.run dedupe write r = .ok x r' ∧ terminate x = t := by
  rw [run, EmitM.bind_ok_iff]
  constructor
  · rintro ⟨x, s, hx, hret⟩
    cases hret
    exact ⟨x, hx, rfl⟩
  · rintro ⟨x, hx, rfl⟩
    exact ⟨x, r', hx, rfl⟩

theorem run_enclosed_ok_iff :
    (enclosed a).run dedupe write r = .ok t r' ↔
      ∃ x s, a.run dedupe write { r with scope := some { dedupe } } = .ok x s
        ∧ (s.scope.getD { dedupe }).declaration ++ x = t
        ∧ { s with scope := r.scope } = r' :=
  EmitM.inScope_ok_iff

theorem run_stream_ok_iff {id : Identity} {items : List Node} :
    (stream id items).run dedupe write r = .ok t r' ↔
      ∃ xs, EmitM.takeAll write id 0 items r = .ok xs r'
        ∧ "[" ++ ", ".intercalate xs ++ "]" = t := by
  rw [run, EmitM.bind_ok_iff]
  simp only [EmitM.iterated_ok_iff]
  constructor
  · rintro ⟨xs, s, hxs, hret⟩
    cases hret
    exact ⟨xs, hxs, rfl⟩
  · rintro ⟨xs, hxs, rfl⟩
    exact ⟨xs, r', hxs, rfl⟩

/-- Whether a layout holds no failure. -/
def Sound : Layout → Prop
  | .fail _ => False
  | .append a b | .late a b => a.Sound ∧ b.Sound
  | .twice a _ | .statement a | .enclosed a => a.Sound
  | _ => True

/-- All parts of a layout are written, so one that is written holds no
failure. -/
theorem sound_of_run_ok {l : Layout}
    (h : l.run dedupe write r = .ok t r') : l.Sound := by
  induction l generalizing r t r' with
  | text | node | item | declare | inline | stream => trivial
  | fail err => cases h
  | append a b iha ihb =>
      obtain ⟨x, s, y, hx, hy, -⟩ := run_append_ok_iff.1 h
      exact ⟨iha hx, ihb hy⟩
  | late a b iha ihb =>
      obtain ⟨y, s, x, hy, hx, -⟩ := run_late_ok_iff.1 h
      exact ⟨iha hx, ihb hy⟩
  | twice a between ih =>
      obtain ⟨x, hx, -⟩ := run_twice_ok_iff.1 h
      exact ih hx
  | statement a ih =>
      obtain ⟨x, hx, -⟩ := run_statement_ok_iff.1 h
      exact ih hx
  | enclosed a ih =>
      obtain ⟨x, s, hx, -⟩ := run_enclosed_ok_iff.1 h
      exact ih hx

end Layout

-- ============================================================== emission

/-- A call is written when its form expands, and then its expansion. The
expansion is noted and uses up a stamp. -/
theorem Call.expandWith_ok_iff {write : Node → EmitM String} {call : Call}
    {r r' : Run} {t : String} :
    call.expandWith write r = .ok t r' ↔
      ∃ m, call.form.expand r.streams.nextStamp call.args = .ok m
        ∧ write m { r with
              streams := r.streams.useStamp
              events := r.events.push (.expanding call.name) } = .ok t r' := by
  have hbegin : EmitM.beginExpansion call.name r
      = .ok r.streams.nextStamp { r with
          streams := r.streams.useStamp
          events := r.events.push (.expanding call.name) } := rfl
  unfold Call.expandWith
  rw [EmitM.bind_ok_iff]
  constructor
  · rintro ⟨stamp, s, hstamp, h⟩
    rw [hbegin] at hstamp
    cases hstamp
    obtain ⟨m, s', hm, hw⟩ := EmitM.bind_ok_iff.1 h
    cases hexp : call.form.expand r.streams.nextStamp call.args with
    | ok m' =>
        rw [hexp] at hm
        cases hm
        exact ⟨m, rfl, hw⟩
    | error err =>
        rw [hexp] at hm
        cases hm
  · rintro ⟨m, hexp, hw⟩
    refine ⟨_, _, hbegin, EmitM.bind_ok_iff.2 ⟨m, _, ?_, hw⟩⟩
    rw [hexp]
    rfl

/-- A special form is no method. -/
theorem special_ordinary {name : String} {form : SpecialForm}
    (h : SpecialForm.ofName? name = some form) : methodName? name = none := by
  unfold SpecialForm.ofName? at h
  split at h
  case h_28 => cases h
  all_goals rfl

namespace Emitter

variable (e : Emitter) {levels : Nat} {n : Node} {call : Call}

theorem emitAt_zero_custom (h : e.forms.customCall? n = some call) :
    e.emitAt 0 n = e.refuse call := by
  rw [emitAt_eq, writeWith, h]
  rfl

theorem emitAt_succ_custom (h : e.forms.customCall? n = some call) :
    e.emitAt (levels + 1) n = call.expandWith (e.emitAt levels) := by
  rw [emitAt_eq, writeWith, h]
  rfl

theorem emitAt_of_not_custom (h : e.forms.customCall? n = none) :
    e.emitAt levels n = n.layout.run e.config.dedupe (e.emitAt levels) := by
  rw [emitAt_eq, writeWith, h]

/-- A special form whose name is no custom form's is written by its own layout. -/
theorem emitAt_special (id : Ident) {special : SpecialForm}
    (hspecial : SpecialForm.ofName? id.name = some special)
    (hforms : e.forms.get? id.name = none) (args : List Node) :
    e.emitAt levels (.form (.sym id :: args))
      = (special.layout args).run e.config.dedupe (e.emitAt levels) := by
  have hmethod := special_ordinary hspecial
  have hcall : e.forms.customCall? (.form (.sym id :: args)) = none := by
    simp only [Registry.customCall?, hmethod, hforms, Option.map_none]
  rw [e.emitAt_of_not_custom hcall]
  show (Layout.symbolForm id args).run _ _ = _
  simp only [Layout.symbolForm, hmethod, hspecial]

/-- Induction along emission: a call with no level left, a call whose
expansion has one level less, and a node whose children are lower. -/
theorem emission_induction {P : Nat → Node → Prop}
    (refused : ∀ n call, e.forms.customCall? n = some call → P 0 n)
    (expanded : ∀ levels n call, e.forms.customCall? n = some call →
      (∀ m, P levels m) → P (levels + 1) n)
    (written : ∀ levels n, e.forms.customCall? n = none →
      n.layout.All (P levels) → P levels n) (levels : Nat) :
    ∀ n, P levels n := by
  -- at a fixed number of levels, calls are settled before any node is
  have below (levels : Nat)
      (calls : ∀ n call, e.forms.customCall? n = some call → P levels n) :
      ∀ k n, n.height < k → P levels n := by
    intro k
    induction k with
    | zero => intro n hn; cases hn
    | succ k ih =>
        intro n hn
        cases hcall : e.forms.customCall? n with
        | some call => exact calls n call hcall
        | none =>
            refine written levels n hcall (n.layout_below.imp fun m hm => ?_)
            exact ih m (by omega)
  induction levels with
  | zero =>
      intro n
      exact below 0 refused _ n (Nat.lt_succ_self _)
  | succ levels ih =>
      intro n
      refine below (levels + 1) ?_ _ n (Nat.lt_succ_self _)
      intro n call hcall
      exact expanded levels n call hcall ih

end Emitter

end FormScript
