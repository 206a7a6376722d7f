/-
The limits of head expansion and of emission. Both bound how many expansions are made
one after another at the head of a node, and they do not agree on what is within the
bound. An emitter with limit `k` makes `k` expansions and writes the node that they lead
to. Head expansion with limit `k` makes `k` expansions as well, but it has no look left
to see that the node they lead to is in head normal form, and fails; it needs a limit of
`k + 1` for `k` expansions, and a limit of one to leave a node alone.

`Registry.Overruns` tells a failure for want of looks from an expansion that fails with
the same error: the limit that is passed along is a label, which only the former shows.
-/
import FormScript.Proofs.HeadExpansion.NormalForm

namespace FormScript

-- ========================================================== head expansion

namespace Registry

variable {r : Registry} {j k stamp : Nat} {limit : Int} {n u : Node}

/-- Head expansion ends in a failure of its own: with as many looks, it names whichever
limit it is given to name. -/
def Overruns (r : Registry) (limit : Int) (stamp : Nat) (n : Node) : Prop :=
  ∃ name, ∀ label, r.expandWithin label limit.toNat stamp n
    = .error (.form (.depthExceeded name label))

/-- A chain has a beginning of every shorter length. -/
theorem Leads.exists_of_le (h : r.Leads k stamp n u) (hj : j ≤ k) :
    ∃ m, r.Leads j stamp n m := by
  induction h generalizing j with
  | refl stamp n =>
      cases Nat.le_zero.1 hj
      exact ⟨n, .refl stamp n⟩
  | @step k stamp n m u form args hcall hexpand hmore ih =>
      cases j with
      | zero => exact ⟨n, .refl stamp n⟩
      | succ j =>
          obtain ⟨m', hm'⟩ := ih (Nat.le_of_succ_le_succ hj)
          exact ⟨m', .step hcall hexpand hm'⟩

/-- Head expansion runs out of looks exactly if it has made as many expansions as the
limit says, wherever they lead. -/
theorem overruns_iff_leads : r.Overruns limit stamp n ↔ ∃ u, r.Leads limit.toNat stamp n u := by
  constructor
  · rintro ⟨name, hlabel⟩
    rcases r.exists_outcome limit.toNat stamp n with ⟨k, u, hk, hsettles⟩ | hleads
      | ⟨k, e, hk, hfails⟩
    · have hself := hlabel 0
      rw [hsettles.expandWithin_eq hk] at hself
      cases hself
    · exact hleads
    · -- the error of an expansion is the same under every label
      have hzero := hlabel 0
      have hone := hlabel 1
      rw [hfails.expandWithin_eq hk] at hzero hone
      cases hzero
      cases hone
  · rintro ⟨u, hleads⟩
    exact ⟨u.callName?, hleads.expandWithin_eq⟩

/-- A chain that settles leaves no choice of its length: with more looks head expansion
succeeds, with as many looks or fewer it runs out of them. -/
theorem Settles.overruns_iff (h : r.Settles k stamp n u) :
    r.Overruns limit stamp n ↔ limit ≤ k := by
  rw [overruns_iff_leads]
  constructor
  · rintro ⟨m, hleads⟩
    by_contra hlimit
    have hlooks : k < limit.toNat := by omega
    have hok := h.expandWithin_eq hlooks limit
    rw [hleads.expandWithin_eq] at hok
    cases hok
  · intro hlimit
    exact h.leads.exists_of_le (by omega)

theorem Settles.expand_ok_iff (h : r.Settles k stamp n u) :
    r.expand limit stamp n = .ok u ↔ (k : Int) < limit := by
  constructor
  · intro hok
    by_contra hlimit
    obtain ⟨name, hlabel⟩ := h.overruns_iff.2 (Int.not_lt.1 hlimit)
    have herror : r.expand limit stamp n = .error _ := hlabel limit
    rw [hok] at herror
    cases herror
  · intro hlimit
    exact expand_ok_iff_settles.2 ⟨k, hlimit, h⟩

end Registry

-- =============================================================== emission

/-- A call whose form expands is written as its expansion, once the expansion is
noted. -/
theorem Call.expandWith_of_ok {call : Call} {write : Node → EmitM String} {run : Run} {m : Node}
    (h : call.form.expand run.streams.nextStamp call.args = .ok m) :
    call.expandWith write run = write m (run.expanded call.name) := by
  have hbegin : EmitM.beginExpansion call.name run
      = .ok run.streams.nextStamp (run.expanded call.name) := rfl
  unfold Call.expandWith
  rw [EmitM.bind_ok hbegin, h]
  rfl

namespace Emitter

variable {e : Emitter} {k stamp : Nat} {n u : Node}

/-- An emitter goes along a chain of heads that name no methods. It notes one name after
another and uses up a level with each; with enough levels it writes the end of the chain,
otherwise it refuses the first call that it has no level for. -/
theorem exists_names_of_leads (h : e.forms.Leads k stamp n u)
    (hplain : ∀ j < k, ∀ m, e.forms.Leads j stamp n m → ¬ e.forms.Shadowed m) :
    ∃ names : List String, names.length = k ∧ ∀ run : Run, run.streams.nextStamp = stamp →
      (∀ levels, e.emitAt (k + levels) n run
          = e.emitAt levels u (names.foldl Run.expanded run))
      ∧ ∀ levels name, names[levels]? = some name →
          e.emitAt levels n run = .error (EmitM.refusal name e.config.limit)
            ((names.take levels).foldl Run.expanded run) := by
  induction h with
  | refl stamp n =>
      refine ⟨[], rfl, fun run _ => ⟨fun levels => ?_, fun levels name hname => ?_⟩⟩
      · rw [Nat.zero_add, List.foldl_nil]
      · cases hname
  | @step k stamp n m u form args hcall hexpand hmore ih =>
      obtain ⟨names, hlength, hnames⟩ := ih fun j hj m' hm' =>
        hplain (j + 1) (Nat.succ_lt_succ hj) m' (.step hcall hexpand hm')
      have hvisible := hplain 0 (Nat.zero_lt_succ k) n (.refl stamp n)
      obtain ⟨name, hcustom⟩ := (Registry.call?_agrees_iff.2 hvisible form args).1 hcall
      refine ⟨name :: names, by rw [List.length_cons, hlength], fun run hrun => ?_⟩
      -- one level is used up by the first call, and the rest is that of its expansion
      have hfirst (levels : Nat) :
          e.emitAt (levels + 1) n run = e.emitAt levels m (run.expanded name) := by
        rw [e.emitAt_succ_custom hcustom]
        rw [← hrun] at hexpand
        exact Call.expandWith_of_ok hexpand
      have hstamp : (run.expanded name).streams.nextStamp = stamp + 1 := congrArg (· + 1) hrun
      obtain ⟨hwritten, hrefused⟩ := hnames (run.expanded name) hstamp
      refine ⟨fun levels => ?_, fun levels name' hname => ?_⟩
      · have hlevels : k + 1 + levels = k + levels + 1 := by omega
        rw [hlevels, hfirst, hwritten, List.foldl_cons]
      · cases levels with
        | zero =>
            cases hname
            rw [e.emitAt_zero_custom hcustom]
            rfl
        | succ levels =>
            rw [hfirst, List.take_succ_cons, List.foldl_cons]
            exact hrefused levels name' hname

/-- Head expansion needs a limit above the number of expansions, and an emitter a limit
of this number. Head expansion fails for want of looks exactly when it has made as many
expansions as its limit says, whether or not the node that they lead to calls a custom
form. So for a node that is in head normal form after `k` expansions it succeeds with
limits above `k` and runs out of looks with `k` and below, while an emitter, unless a
method shadows a form on the way, writes that normal form with a limit of `k` and above,
after `k` notes, and refuses a call with limits below `k`. -/
theorem expand_needs_another_look (e : Emitter) (limit : Int) (stamp : Nat) (n : Node) :
    (e.forms.Overruns limit stamp n ↔ ∃ u, e.forms.Leads limit.toNat stamp n u)
    ∧ ∀ k u, e.forms.Settles k stamp n u →
      (e.forms.expand limit stamp n = .ok u ↔ (k : Int) < limit)
      ∧ (e.forms.Overruns limit stamp n ↔ limit ≤ k)
      ∧ ((∀ j < k, ∀ m, e.forms.Leads j stamp n m → ¬ e.forms.Shadowed m) →
          ∃ names : List String, names.length = k ∧ ∀ run : Run, run.streams.nextStamp = stamp →
            (k ≤ e.config.limit.toNat → e.emit n run
              = e.emitAt (e.config.limit.toNat - k) u (names.foldl Run.expanded run))
            ∧ (e.config.limit.toNat < k → ∃ name, e.emit n run
              = .error (EmitM.refusal name e.config.limit)
                  ((names.take e.config.limit.toNat).foldl Run.expanded run))) := by
  refine ⟨Registry.overruns_iff_leads, fun k u hsettles =>
    ⟨hsettles.expand_ok_iff, hsettles.overruns_iff, fun hplain => ?_⟩⟩
  obtain ⟨names, hlength, hnames⟩ := exists_names_of_leads hsettles.leads hplain
  refine ⟨names, hlength, fun run hrun => ?_⟩
  obtain ⟨hwritten, hrefused⟩ := hnames run hrun
  refine ⟨fun hlimit => ?_, fun hlimit => ?_⟩
  · have hlevels : e.config.limit.toNat = k + (e.config.limit.toNat - k) := by omega
    rw [← hwritten, ← hlevels]
    rfl
  · have hshort : e.config.limit.toNat < names.length := by omega
    exact ⟨names[e.config.limit.toNat], hrefused _ _ (List.getElem?_eq_getElem hshort)⟩

/-- An emitter with the two forms that hand their arguments on, and with room for two
expansions. -/
def handingOn : Emitter where
  forms := Registry.relaying
  config := { limit := 2 }

theorem relayedCall_settles :
    Registry.relaying.Settles 2 0 Registry.relayedCall Registry.deliveredCall := by
  have hnormal : Registry.relaying.HeadNormal Registry.deliveredCall :=
    Registry.headNormal_iff.2 rfl
  exact ⟨.step rfl rfl (.step rfl rfl (.refl 2 _)), hnormal⟩

/-- Neither of the two forms has the name of a method. -/
theorem relaying_not_shadowed (m : Node) : ¬ Registry.relaying.Shadowed m := by
  rintro ⟨id, args, -, hmethod, hcontains⟩
  by_cases hsecond : id.name = "second"
  · rw [hsecond] at hmethod
    exact absurd hmethod (by decide)
  by_cases hfirst : id.name = "first"
  · rw [hfirst] at hmethod
    exact absurd hmethod (by decide)
  rw [Registry.contains, Registry.relaying, Registry.get?_insert_of_ne hsecond,
    Registry.get?_insert_of_ne hfirst] at hcontains
  cases hcontains

/-- After two expansions the call is in head normal form. With a limit of two it is
written so, and head expansion with this limit runs out of looks. -/
theorem relayedCall_within_limit :
    Registry.relaying.Overruns 2 0 Registry.relayedCall
      ∧ ∃ names : List String, names.length = 2
        ∧ handingOn.emit Registry.relayedCall {}
          = handingOn.emitAt 0 Registry.deliveredCall (names.foldl Run.expanded {}) := by
  obtain ⟨-, hsettled⟩ := expand_needs_another_look handingOn 2 0 Registry.relayedCall
  obtain ⟨-, hoverruns, hemitted⟩ := hsettled 2 Registry.deliveredCall relayedCall_settles
  obtain ⟨names, hlength, hnames⟩ := hemitted fun _ _ m _ => relaying_not_shadowed m
  have hroom : 2 ≤ handingOn.config.limit.toNat := by decide
  exact ⟨hoverruns.2 (by decide), names, hlength, (hnames {} rfl).1 hroom⟩

/-- Two expansions are more than head expansion with a limit of two can finish, although
no custom form is left then, and as many as an emitter with this limit makes. -/
theorem relayedCall_exceeds_limit :
    Registry.relaying.HeadNormal Registry.deliveredCall
      ∧ Registry.relaying.iterate 2 0 Registry.relayedCall = .ok Registry.deliveredCall
      ∧ Registry.relaying.expand 2 0 Registry.relayedCall
        = .error (.form (.depthExceeded (some "third") 2))
      ∧ handingOn.emit Registry.relayedCall {}
        = .ok "third(1)" (["first", "second"].foldl Run.expanded {}) :=
  ⟨Registry.headNormal_iff.2 rfl, rfl, rfl, rfl⟩

end Emitter

end FormScript
