/-
Custom forms are transparent where nodes are evaluated. A call of a custom
form may be replaced by its expansion without any change to the emitted
text or to the declared names, in every evaluated position of a tree.

# The argument

Two nodes in one evaluated position give layouts that differ in one child
(`Frame.layout_marked`). The call itself is emitted by emitting its expansion with
one level of expansion less, and an emission with more levels follows that. From
there the frames are walked outwards.

# Forms that return something new

If all custom forms are pure, the expansion that the call makes in the run is the one
that replaces it (`Emitter.context_follows`). A form may also return a value that is
new each time, such as a stream. Then the two expansions are equal up to stamps: the
one that replaces the call has been made under an earlier stamp, and the run makes its
own under the stamp `k` that it has come to, and hands out one stamp more from there
on. `Respelling.moving` is this correspondence. It leaves the stamps as they are that
were handed out before `k`, and so what is written before the call is written in the
same way, and what is written after it in the same way one stamp further
(`Emitter.context_replaces`).
-/
import FormScript.Expansion
import FormScript.Proofs.Context
import FormScript.Proofs.Restamping
import FormScript.Proofs.Simulation
import FormScript.Registry.Stock

namespace FormScript

-- =================================================================== calls

/-- The expansion of a call with a registered head. -/
theorem Registry.expandOnce_call {r : Registry} {id : Ident}
    {args : List Node} {form : CustomForm} (h : r.get? id.name = some form)
    (stamp : Nat) :
    r.expandOnce stamp (.form (.sym id :: args)) = form.expand stamp args := by
  have hcall : r.call? (.form (.sym id :: args)) = some (form, args) := by
    show (r.get? id.name).map (·, args) = _
    rw [h]
    rfl
  rw [expandOnce, hcall]

theorem Registry.customCall?_call {r : Registry} {id : Ident}
    {form : CustomForm} (hmethod : methodName? id.name = none)
    (h : r.get? id.name = some form) (args : List Node) :
    r.customCall? (.form (.sym id :: args)) = some ⟨id.name, form, args⟩ := by
  simp only [customCall?, hmethod, h, Option.map_some]

-- ============================================================ pure forms

/-- Layouts that differ in one child are of one shape. -/
theorem Layout.Marked.sim {R : Node → Node → Prop} (hR : ∀ n, R n n) {a b : Node} (hab : R a b)
    {l l' : Layout} (h : Marked a b l l') : Sim R l l' := by
  have hself (x : Layout) : Sim R x x := sim_self (all_of_forall hR x)
  induction h with
  | node => exact .node hab
  | item => exact .item hab
  | fail e l => exact .fail e l
  | front _ y ih => exact .append ih (hself y)
  | back x _ ih => exact .append (hself x) ih
  | late x _ ih => exact .late (hself x) ih
  | statement _ ih => exact .statement ih
  | enclosed _ ih => exact .enclosed ih

namespace Emitter

variable {e : Emitter}

/-- The expansion of a call follows the call: emitting the call is emitting
the expansion with one level less. -/
theorem expansion_follows (hpure : e.forms.Pure) {id : Ident}
    {args : List Node} {form : CustomForm} (hmethod : methodName? id.name = none)
    (hform : e.forms.get? id.name = some form) {stamp : Nat} {m : Node}
    (hm : form.expand stamp args = .ok m) (levels : Nat) :
    EmitM.Follows (e.emitAt levels (.form (.sym id :: args)))
      (e.emitAt levels m) := by
  have hcall := Registry.customCall?_call hmethod hform args
  cases levels with
  | zero =>
      rw [e.emitAt_zero_custom hcall]
      exact EmitM.throw_follows _ _
  | succ levels =>
      rw [e.emitAt_succ_custom hcall]
      intro r s t r' hrs hr
      obtain ⟨m', hexpand, hm'⟩ := Call.expandWith_ok_iff.1 hr
      have hsame : m' = m := by
        have heq := hpure id.name form hform r.streams.nextStamp stamp args
        rw [hm, hexpand] at heq
        injection heq
      subst hsame
      have hstamp : Run.Alike
          { r with
            streams := r.streams.useStamp
            events := r.events.push (.expanding id.name) } s :=
        ⟨hrs.scope, hrs.reads⟩
      exact emitAt_follows hpure (Nat.le_succ levels) m' hstamp hm'

/-- What follows at the marked position of a context follows in the whole
tree. -/
theorem context_follows (hpure : e.forms.Pure) {c : Context}
    (hc : c.Evaluated e.forms) {a b : Node} {levels : Nat}
    (hab : EmitM.Follows (e.emitAt levels a) (e.emitAt levels b)) :
    EmitM.Follows (e.emitAt levels (c.plug a)) (e.emitAt levels (c.plug b)) := by
  induction c with
  | nil => exact hab
  | cons frame rest ih =>
      have hframe := hc frame (.head _)
      have hrest := ih fun f hf => hc f (.tail _ hf)
      show EmitM.Follows (e.emitAt levels (frame.plug (Context.plug rest a)))
        (e.emitAt levels (frame.plug (Context.plug rest b)))
      rw [e.emitAt_of_not_custom (frame.customCall?_plug hframe _),
        e.emitAt_of_not_custom (frame.customCall?_plug hframe _)]
      refine Layout.run_follows ((frame.layout_marked hframe _ _).sim (fun n => ?_) hrest)
      exact emitAt_follows hpure (Nat.le_refl levels) n

end Emitter

-- ==================================================== stamps that are moved

namespace Respelling

/-- A stamp that becomes `k`, with the stamps from `k` on moved out of its way. -/
def moving (stamp k : Nat) : Respelling :=
  restamping (fun j => if j = stamp then k else if j < k then j else j + 1) (by
    intro i j h
    split_ifs at h <;> omega)

variable {stamp k j : Nat}

theorem moving_onlyStamps : (moving stamp k).OnlyStamps :=
  restamping_onlyStamps (moving stamp k).stamp_inj

theorem moving_self : (moving stamp k).stamp stamp = k := if_pos rfl

theorem moving_of_lt (hne : j ≠ stamp) (h : j < k) : (moving stamp k).stamp j = j := by
  show (if j = stamp then k else if j < k then j else j + 1) = j
  rw [if_neg hne, if_pos h]

theorem moving_of_le (hne : j ≠ stamp) (h : k ≤ j) : (moving stamp k).stamp j = j + 1 := by
  show (if j = stamp then k else if j < k then j else j + 1) = j + 1
  rw [if_neg hne, if_neg (Nat.not_lt.2 h)]

end Respelling

/-- Whether all values in a tree have stamps below a bound, other than one that is left out. -/
def Node.StampedBelow (bound stamp : Nat) (n : Node) : Prop :=
  n.every fun m => m.stamp?.all fun j => j < bound && j != stamp

/-- Stamps that are not moved are those below, but for the one that is left out. -/
theorem Node.StampedBelow.respell_moving {bound stamp k : Nat} {n : Node}
    (h : n.StampedBelow bound stamp) (hk : bound ≤ k) :
    n.respell (.moving stamp k) = n := by
  refine Node.respell_eq_self Respelling.moving_onlyStamps (Node.every_imp (fun m hm => ?_) h)
  cases hstamp : m.stamp? with
  | none => rfl
  | some j =>
      have hj : j < bound ∧ j ≠ stamp := by simpa [hstamp] using hm
      exact beq_iff_eq.2 (Respelling.moving_of_lt hj.2 (Nat.lt_of_lt_of_le hj.1 hk))

-- =================================================== calls that are replaced

namespace EmitM

variable {α β : Type} {stamp base : Nat}

/-- A computation that expands a call on its way, and one with the expansion in place of the
call, which has been made under an earlier stamp. From runs that correspond they succeed
alike, and the second one hands out one stamp less: the one, between those handed out before
and after the call, that the stamp of the expansion corresponds to. -/
def Replaces (stamp base : Nat) (m m' : EmitM α) : Prop :=
  ∀ ⦃r a r'⦄, base ≤ r.nextStamp → m r = .ok a r' →
    ∃ k, r.nextStamp ≤ k ∧ k < r'.nextStamp ∧
      ∀ s, r.Restamps (.moving stamp k) s → s.nextStamp = r.nextStamp →
        ∃ s', m' s = .ok a s' ∧ r'.Restamps (.moving stamp k) s'
          ∧ s'.nextStamp + 1 = r'.nextStamp

/-- What is written in the same way wherever the stamp is moved to. -/
def Stays (stamp base : Nat) (m : EmitM α) : Prop :=
  ∀ k, base ≤ k → Carries (.moving stamp k) m m

theorem throw_replaces (e : Error) (m : EmitM α) : Replaces stamp base (throw e : EmitM α) m := by
  intro r a r' _ h
  cases h

theorem iterated_replaces {m m' : EmitM α} (h : Replaces stamp base m m') :
    Replaces stamp base (iterated m) (iterated m') := by
  intro r a r' hbase hr
  obtain ⟨k, hle, hlt, hcarry⟩ := h hbase (iterated_ok_iff.1 hr)
  refine ⟨k, hle, hlt, fun s hrs hnext => ?_⟩
  obtain ⟨s', hs', hrest⟩ := hcarry s hrs hnext
  exact ⟨s', iterated_ok_iff.2 hs', hrest⟩

theorem inScope_replaces {body body' : EmitM String} (scope : Scope)
    (h : Replaces stamp base body body') :
    Replaces stamp base (inScope scope body) (inScope scope body') := by
  intro r t r' hbase hr
  obtain ⟨x, u, hx, rfl, rfl⟩ := inScope_ok_iff.1 hr
  have hopened : base ≤ Run.nextStamp { r with scope := some scope } := hbase
  obtain ⟨k, hle, hlt, hcarry⟩ := h hopened hx
  refine ⟨k, hle, hlt, fun s hrs hnext => ?_⟩
  obtain ⟨u', hx', huu, hcount⟩ :=
    hcarry { s with scope := some scope } ⟨rfl, hrs.reads⟩ hnext
  refine ⟨_, inScope_ok_iff.2 ⟨x, u', hx', ?_, rfl⟩, ⟨hrs.scope, huu.reads⟩, hcount⟩
  rw [huu.scope]

section Sequence

variable (hstamp : stamp < base)
include hstamp

/-- The call comes first. What comes after it is one stamp further. -/
theorem bind_replaces_first {m m' : EmitM α} {f : α → EmitM β} (hm : Replaces stamp base m m')
    (hf : ∀ a, Stays stamp base (f a)) : Replaces stamp base (m >>= f) (m' >>= f) := by
  intro r b r' hbase h
  obtain ⟨a, t, ha, hb⟩ := bind_ok_iff.1 h
  obtain ⟨k, hle, hlt, hcarry⟩ := hm hbase ha
  have hrest := hf a k (Nat.le_trans hbase hle)
  have hnext := hrest.advances hb
  refine ⟨k, hle, by omega, fun s hrs hs => ?_⟩
  obtain ⟨t', ha', htt, hcount⟩ := hcarry s hrs hs
  obtain ⟨s', hb', hrs', hcount'⟩ := hrest.carries htt hb fun i _ => by
    rw [Respelling.moving_of_le (by omega) (by omega)]
    omega
  exact ⟨s', bind_ok_iff.2 ⟨a, t', ha', hb'⟩, hrs', by omega⟩

/-- The call comes second. What comes before it hands out the same stamps. -/
theorem bind_replaces_second {m : EmitM α} {f f' : α → EmitM β} (hm : Stays stamp base m)
    (hf : ∀ a, Replaces stamp base (f a) (f' a)) : Replaces stamp base (m >>= f) (m >>= f') := by
  intro r b r' hbase h
  obtain ⟨a, t, ha, hb⟩ := bind_ok_iff.1 h
  have hnext := (hm base (Nat.le_refl base)).advances ha
  obtain ⟨k, hle, hlt, hcarry⟩ := hf a (Nat.le_trans hbase hnext) hb
  refine ⟨k, Nat.le_trans hnext hle, hlt, fun s hrs hs => ?_⟩
  obtain ⟨t', ha', htt, hcount⟩ := (hm k (by omega)).carries hrs ha fun i _ => by
    rw [Respelling.moving_of_lt (by omega) (by omega)]
    omega
  obtain ⟨s', hb', hrs', hcount'⟩ := hcarry t' htt (by omega)
  exact ⟨s', bind_ok_iff.2 ⟨a, t', ha', hb'⟩, hrs', hcount'⟩

theorem map_replaces {m m' : EmitM α} (h : Replaces stamp base m m') (g : α → β) :
    Replaces stamp base (m >>= fun a => pure (g a)) (m' >>= fun a => pure (g a)) :=
  bind_replaces_first hstamp h fun a _ _ => pure_carries (g a)

end Sequence

end EmitM

/-- A call that is replaced in one child is replaced in the whole layout, if the layout is
written in the same way wherever the stamp is moved to. -/
theorem Layout.run_replaces {stamp base : Nat} (hstamp : stamp < base) {dedupe : Bool}
    {write : Node → EmitM String} {a b : Node} {E : Error → Error → Prop} {l l' : Layout}
    (h : Marked a b l l') (hab : EmitM.Replaces stamp base (write a) (write b))
    (hstays : ∀ k, base ≤ k →
      Twin (fun n n' => EmitM.Carries (.moving stamp k) (write n') (write n))
        (fun i j => j = (Respelling.moving stamp k).identity i) E l l) :
    EmitM.Replaces stamp base (l.run dedupe write) (l'.run dedupe write) := by
  induction h with
  | node => exact hab
  | item => exact EmitM.iterated_replaces hab
  | fail e l => exact EmitM.throw_replaces e _
  | front h y ih =>
      have hparts k hk := (hstays k hk).of_append
      have hy : EmitM.Stays stamp base (y.run dedupe write) := fun k hk =>
        run_carries (hparts k hk).2
      refine EmitM.bind_replaces_first hstamp (ih fun k hk => (hparts k hk).1) fun x k hk => ?_
      exact EmitM.map_carries (hy k hk) (x ++ ·)
  | back x h ih =>
      have hparts k hk := (hstays k hk).of_append
      have hx : EmitM.Stays stamp base (x.run dedupe write) := fun k hk =>
        run_carries (hparts k hk).1
      refine EmitM.bind_replaces_second hstamp hx fun t => ?_
      exact EmitM.map_replaces hstamp (ih fun k hk => (hparts k hk).2) (t ++ ·)
  | late x h ih =>
      have hparts k hk := (hstays k hk).of_late
      have hx : EmitM.Stays stamp base (x.run dedupe write) := fun k hk =>
        run_carries (hparts k hk).1
      refine EmitM.bind_replaces_first hstamp (ih fun k hk => (hparts k hk).2) fun t k hk => ?_
      exact EmitM.map_carries (hx k hk) (· ++ t)
  | statement h ih =>
      exact EmitM.map_replaces hstamp (ih fun k hk => (hstays k hk).of_statement) _
  | enclosed h ih =>
      exact EmitM.inScope_replaces _ (ih fun k hk => (hstays k hk).of_enclosed)

namespace Emitter

variable {e : Emitter} {stamp base : Nat}

/-- The call itself is replaced by its expansion. -/
theorem expansion_replaces (hforms : e.forms.Uniform stamp) (hstamp : stamp < base) {id : Ident}
    {args : List Node} {form : CustomForm} (hmethod : methodName? id.name = none)
    (hform : e.forms.get? id.name = some form) {m : Node}
    (hm : form.expand stamp args = .ok m)
    (hargs : ∀ n ∈ args, n.StampedBelow base stamp) (levels : Nat) :
    EmitM.Replaces stamp base (e.emitAt levels (.form (.sym id :: args)))
      (e.emitAt levels m) := by
  have hcall := Registry.customCall?_call hmethod hform args
  cases levels with
  | zero =>
      rw [e.emitAt_zero_custom hcall]
      exact EmitM.throw_replaces _ _
  | succ levels =>
      rw [e.emitAt_succ_custom hcall]
      intro r t r' hbase hr
      obtain ⟨m', hexpand, hm'⟩ := Call.expandWith_ok_iff.1 hr
      have hnext : r.nextStamp + 1 ≤ r'.nextStamp := e.emitAt_advances _ _ hm'
      have hρ : (Respelling.moving stamp r.nextStamp).OnlyStamps := Respelling.moving_onlyStamps
      have hbound k (hk : k < stamp) : (Respelling.moving stamp r.nextStamp).stamp k = k :=
        Respelling.moving_of_lt (by omega) (by omega)
      have hsame : m.respell (.moving stamp r.nextStamp) = m' := by
        have hkept : args.map (·.respell (.moving stamp r.nextStamp)) = args :=
          (List.map_congr_left fun n hn => (hargs n hn).respell_moving hbase).trans (List.map_id _)
        have heq := hforms id.name form hform _ hρ hbound stamp args
        rw [Respelling.moving_self, hkept, hm, hexpand] at heq
        exact (Option.some.inj heq).symm
      subst hsame
      refine ⟨r.nextStamp, Nat.le_refl _, by omega, fun s hrs hs => ?_⟩
      have hbegun : Run.Restamps (.moving stamp r.nextStamp)
          { r with
            streams := r.streams.useStamp
            events := r.events.push (.expanding id.name) } s :=
        ⟨hrs.scope, hrs.reads⟩
      obtain ⟨s', hs', hrs', hcount⟩ :=
        (emitAt_carries hforms hρ hbound (Nat.le_succ levels) m).carries hbegun hm'
          fun i _ => by
            show _ = r.nextStamp + 1 + i
            rw [Respelling.moving_of_le (by omega) (by omega)]
            omega
      have hcount : s'.nextStamp + (r.nextStamp + 1) = s.nextStamp + r'.nextStamp := hcount
      exact ⟨s', hs', hrs', by omega⟩

/-- A call that is replaced at the marked position of a context is replaced in the whole
tree. -/
theorem context_replaces (hforms : e.forms.Uniform stamp) (hstamp : stamp < base) {c : Context}
    (hc : c.Evaluated e.forms) {a b : Node} (ha : (c.plug a).StampedBelow base stamp)
    {levels : Nat} (hab : EmitM.Replaces stamp base (e.emitAt levels a) (e.emitAt levels b)) :
    EmitM.Replaces stamp base (e.emitAt levels (c.plug a)) (e.emitAt levels (c.plug b)) := by
  induction c with
  | nil => exact hab
  | cons frame rest ih =>
      have hframe := hc frame (.head _)
      have hrest := ih (fun f hf => hc f (.tail _ hf))
        ((Node.every_iff.1 ha).2 _ (frame.mem_children_plug _))
      show EmitM.Replaces stamp base (e.emitAt levels (frame.plug (Context.plug rest a)))
        (e.emitAt levels (frame.plug (Context.plug rest b)))
      rw [e.emitAt_of_not_custom (frame.customCall?_plug hframe _),
        e.emitAt_of_not_custom (frame.customCall?_plug hframe _)]
      refine Layout.run_replaces hstamp (frame.layout_marked hframe _ _) hrest
        (E := Error.Alike True) fun k hk => ?_
      have hρ : (Respelling.moving stamp k).OnlyStamps := Respelling.moving_onlyStamps
      have hbound j (hj : j < stamp) : (Respelling.moving stamp k).stamp j = j :=
        Respelling.moving_of_lt (by omega) (by omega)
      have htwin : Layout.Respelt (.moving stamp k) True (frame.plug (Context.plug rest a)).layout
          ((frame.plug (Context.plug rest a)).respell (.moving stamp k)).layout :=
        Node.layout_respelt (fun _ => hρ.keepsTexts) (.inl hρ)
      have hkept := Node.StampedBelow.respell_moving ha hk
      rw [show (frame.plug (Context.plug rest a)).respell (.moving stamp k) = _ from hkept] at htwin
      have hcarries := Layout.all_of_forall (emitAt_carries hforms hρ hbound (Nat.le_refl levels))
        (frame.plug (Context.plug rest a)).layout
      refine htwin.imp_all hcarries hcarries ?_
      rintro n _ rfl hn -
      exact hn

end Emitter

-- =========================================================== transparency

/-- What custom forms make under a stamp is new: they do not look at stamps, this one has
been used, and nothing that was made under it stands in the tree or has been read in the run,
nor has anything that is yet to be made. -/
structure Registry.NewUnder (forms : Registry) (stamp : Nat) (r : Run) (n : Node) : Prop where
  uniform : forms.Uniform stamp
  used : stamp < r.nextStamp
  unread : ∀ id, id.stamp = stamp ∨ r.nextStamp ≤ id.stamp → r.streams.position id = 0
  absent : n.StampedBelow r.nextStamp stamp

/-- A run corresponds to itself if nothing has been read under the stamps that are moved. -/
theorem Registry.NewUnder.restamps {forms : Registry} {stamp : Nat} {r : Run} {n : Node}
    (h : forms.NewUnder stamp r n) {k : Nat} (hk : r.nextStamp ≤ k) :
    r.Restamps (.moving stamp k) r := by
  refine ⟨rfl, fun id => ?_⟩
  by_cases hmoved : id.stamp = stamp ∨ k ≤ id.stamp
  · have htarget : k ≤ (Respelling.moving stamp k).stamp id.stamp := by
      rcases eq_or_ne id.stamp stamp with heq | hne
      · exact Nat.le_of_eq (heq ▸ Respelling.moving_self.symm)
      · have hle := hmoved.resolve_left hne
        rw [Respelling.moving_of_le hne hle]
        omega
    rw [h.unread id (hmoved.imp_right (Nat.le_trans hk)),
      h.unread _ (.inr (Nat.le_trans hk htarget))]
  · obtain ⟨hne, hlt⟩ := not_or.1 hmoved
    have hkept : (Respelling.moving stamp k).identity id = id :=
      congrArg ({ id with stamp := · }) (Respelling.moving_of_lt hne (Nat.not_le.1 hlt))
    rw [hkept]

namespace Emitter

variable {e : Emitter}

/-- Replacing a call of a custom form by its expansion, in an evaluated
position of any tree, keeps a successful emission: the same text comes out,
and the same names are declared. The custom forms are pure, or what they return is new. -/
theorem emitAt_plug_expansion {id : Ident}
    {args : List Node} (hmethod : methodName? id.name = none)
    (hhead : e.forms.contains id.name) {stamp : Nat} {m : Node}
    (hm : e.forms.expandOnce stamp (.form (.sym id :: args)) = .ok m)
    {c : Context} (hc : c.Evaluated e.forms) {levels : Nat} {r r' : Run}
    {t : String}
    (hforms : e.forms.Pure ∨ e.forms.NewUnder stamp r (c.plug (.form (.sym id :: args))))
    (h : e.emitAt levels (c.plug (.form (.sym id :: args))) r = .ok t r') :
    ∃ s, e.emitAt levels (c.plug m) r = .ok t s ∧ s.scope = r'.scope := by
  obtain ⟨form, hform⟩ := Option.isSome_iff_exists.1 hhead
  rw [Registry.expandOnce_call hform] at hm
  rcases hforms with hpure | hnew
  · have hfollows := context_follows hpure hc
      (expansion_follows hpure hmethod hform hm levels)
    obtain ⟨s, hs, halike⟩ := hfollows (Run.alike_refl r) h
    exact ⟨s, hs, halike.scope.symm⟩
  · have hargs : ∀ n ∈ args, n.StampedBelow r.nextStamp stamp := fun n hn =>
      (Node.every_iff.1 (Context.every_of_plug hnew.absent)).2 n (.tail _ hn)
    have hreplaces := context_replaces hnew.uniform hnew.used hc hnew.absent
      (expansion_replaces hnew.uniform hnew.used hmethod hform hm hargs levels)
    obtain ⟨k, hle, -, hcarry⟩ := hreplaces (Nat.le_refl _) h
    obtain ⟨s, hs, hrs, -⟩ := hcarry r (hnew.restamps hle) rfl
    exact ⟨s, hs, hrs.scope.symm⟩

/-- An emitter with one custom form, which stands for its argument. -/
def echoing : Emitter where
  forms := Registry.empty.insert "echo" (CustomForm.argument 0)

theorem echoing_pure : echoing.forms.Pure := by
  intro name form h stamp stamp' args
  rw [Registry.eq_of_get?_single h]
  rfl

/-- An emitter with one custom form, which returns a new stream of its arguments. -/
def streaming : Emitter where
  forms := Registry.empty.insert "each"
    { expand := fun stamp args => .ok (.stream ⟨stamp, 0⟩ args) }

theorem streaming_uniform (bound : Nat) : streaming.forms.Uniform bound := by
  intro name form h ρ _ _ stamp args
  rw [Registry.eq_of_get?_single h]
  exact congrArg some (Node.respell_stream ⟨stamp, 0⟩ args).symm

/-- The body of a named function that declares a variable, with the marked
position inside its value. -/
def declaringContext : Context :=
  [.argument (.sym ⟨"fn", none⟩) [.sym ⟨"f", none⟩, .seq .vector []] [],
    .argument (.sym ⟨"var", none⟩) [.sym ⟨"x", none⟩] [],
    .item .vector [] [.sym ⟨"y", none⟩]]

theorem declaringContext_evaluated {forms : Registry} (hfn : forms.get? "fn" = none)
    (hvar : forms.get? "var" = none) : declaringContext.Evaluated forms := by
  intro frame hframe
  simp only [declaringContext, List.mem_cons, List.not_mem_nil,
    or_false] at hframe
  rcases hframe with rfl | rfl | rfl
  · refine .inr ⟨rfl, hfn, fun special hspecial => ?_⟩
    cases hspecial
    exact List.cons_ne_nil _ _
  · refine .inr ⟨rfl, hvar, fun special hspecial => ?_⟩
    cases hspecial
    rfl
  · trivial

/-- A call and its expansion are emitted alike in the body of the function: an expansion
that is a call again, and a stream that was made under the stamp before. -/
theorem declaringContext_plug_expansion :
    (∃ s, echoing.emitAt 2
        (declaringContext.plug (.form [.sym ⟨"echo", none⟩, .int 1]))
        { scope := some { names := ["z"] } }
      = .ok "f = function () \x7b\nvar x;\nx = [1, y];\n \x7d" s
      ∧ s.scope = some { names := ["z", "f"] })
    ∧ ∃ s, streaming.emitAt 1
        (declaringContext.plug (.stream ⟨0, 0⟩ [.int 1, .int 2]))
        { scope := some { names := ["z"] }, streams := { nextStamp := 1 } }
      = .ok "f = function () \x7b\nvar x;\nx = [[1, 2], y];\n \x7d" s
      ∧ s.scope = some { names := ["z", "f"] } := by
  constructor
  · have hm : echoing.forms.expandOnce 7
        (.form [.sym ⟨"echo", none⟩, .form [.sym ⟨"echo", none⟩, .int 1]])
        = .ok (.form [.sym ⟨"echo", none⟩, .int 1]) := rfl
    have h : echoing.emitAt 2
        (declaringContext.plug
          (.form [.sym ⟨"echo", none⟩, .form [.sym ⟨"echo", none⟩, .int 1]]))
        { scope := some { names := ["z"] } }
        = .ok "f = function () \x7b\nvar x;\nx = [1, y];\n \x7d"
            { scope := some { names := ["z", "f"] }
              streams := { nextStamp := 2 }
              events := #[.expanding "echo", .expanding "echo"] } := rfl
    exact emitAt_plug_expansion rfl rfl hm (declaringContext_evaluated rfl rfl)
      (.inl echoing_pure) h
  · have hm : streaming.forms.expandOnce 0 (.form [.sym ⟨"each", none⟩, .int 1, .int 2])
        = .ok (.stream ⟨0, 0⟩ [.int 1, .int 2]) := rfl
    have h : streaming.emitAt 1
        (declaringContext.plug (.form [.sym ⟨"each", none⟩, .int 1, .int 2]))
        { scope := some { names := ["z"] }, streams := { nextStamp := 1 } }
        = .ok "f = function () \x7b\nvar x;\nx = [[1, 2], y];\n \x7d"
            { scope := some { names := ["z", "f"] }
              streams := { nextStamp := 2, reads := [(⟨1, 0⟩, 2), (⟨1, 0⟩, 1)] }
              events := #[.expanding "each"] } := rfl
    exact emitAt_plug_expansion rfl rfl hm (declaringContext_evaluated rfl rfl)
      (.inr ⟨streaming_uniform 0, Nat.zero_lt_one, fun _ _ => rfl, rfl⟩) h

end Emitter

end FormScript
