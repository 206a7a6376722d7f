/-
Head expansion ends in a head normal form. Expanding the head of a node goes through a
chain of nodes, each the expansion of the one before it, as far as heads are custom
forms. Bounded expansion (`Registry.expandWithin`) walks along this chain and looks at
one node after another.

# The argument

`Registry.Leads` says that some number of expansions leads from one node to another.
A walk that has come along a chain has as many looks left as the chain has not used
(`Registry.Leads.expandWithin_add`), so how a walk ends is settled by where its chain
does: at a node whose head is no custom form, at an expansion that fails, or at the last
look (`Registry.exists_outcome`). The first of these is the only success, and nothing in
it depends on the bound.
-/
import FormScript.Proofs.HeadExpansion

namespace FormScript.Registry

variable {r : Registry} {k left stamp : Nat} {limit : Int} {n m u : Node} {form : CustomForm}
  {args : List Node}

-- ================================================================= chains

/-- A node that is in head normal form: it is no call of a registered form. -/
def HeadNormal (r : Registry) (n : Node) : Prop :=
  ∀ id args, n = .form (.sym id :: args) → r.get? id.name = none

theorem headNormal_iff : r.HeadNormal n ↔ r.call? n = none := by
  constructor
  · intro h
    cases hcall : r.call? n with
    | none => rfl
    | some call =>
        obtain ⟨id, hn, hget⟩ := call?_eq_some_iff.1 hcall
        rw [h id call.2 hn] at hget
        cases hget
  · rintro h id args rfl
    cases hget : r.get? id.name with
    | none => rfl
    | some form =>
        rw [call?_eq_some_iff.2 ⟨id, rfl, hget⟩] at h
        cases h

theorem exists_call_of_not_headNormal (h : ¬ r.HeadNormal n) :
    ∃ form args, r.call? n = some (form, args) := by
  rw [headNormal_iff] at h
  obtain ⟨⟨form, args⟩, hcall⟩ := Option.ne_none_iff_exists'.1 h
  exact ⟨form, args, hcall⟩

/-- The node after this many single expansions of its head, the first of them with this
stamp and each other one with the next. -/
def iterate (r : Registry) : (k stamp : Nat) → Node → Except Error Node
  | 0, _, n => .ok n
  | k + 1, stamp, n => do iterate r k (stamp + 1) (← r.expandOnce stamp n)

/-- This many expansions of heads lead from a node to another one. -/
inductive Leads (r : Registry) : (k stamp : Nat) → Node → Node → Prop where
  | refl (stamp : Nat) (n : Node) : Leads r 0 stamp n n
  | step {k stamp : Nat} {n m u : Node} {form : CustomForm} {args : List Node}
      (call : r.call? n = some (form, args)) (expansion : form.expand stamp args = .ok m)
      (more : Leads r k (stamp + 1) m u) : Leads r (k + 1) stamp n u

theorem iterate_succ (hcall : r.call? n = some (form, args))
    (hexpand : form.expand stamp args = .ok m) :
    r.iterate (k + 1) stamp n = r.iterate k (stamp + 1) m := by
  rw [iterate, expandOnce, hcall]
  show (form.expand stamp args >>= _) = _
  rw [hexpand]
  rfl

/-- A chain of expansions is one of iterates that are calls, all but the last. -/
theorem leads_iff_iterate :
    r.Leads k stamp n u ↔ r.iterate k stamp n = .ok u
      ∧ ∀ j < k, ∃ m, r.iterate j stamp n = .ok m ∧ ¬ r.HeadNormal m := by
  induction k generalizing stamp n with
  | zero =>
      constructor
      · rintro ⟨⟩
        exact ⟨rfl, fun j hj => absurd hj (Nat.not_lt_zero j)⟩
      · rintro ⟨hu, -⟩
        cases hu
        exact .refl stamp _
  | succ k ih =>
      constructor
      · intro h
        cases h with
        | step hcall hexpand hmore =>
            obtain ⟨hu, hbefore⟩ := ih.1 hmore
            refine ⟨(iterate_succ hcall hexpand).trans hu, fun j hj => ?_⟩
            cases j with
            | zero =>
                refine ⟨n, rfl, fun hnormal => ?_⟩
                rw [headNormal_iff.1 hnormal] at hcall
                cases hcall
            | succ j =>
                rw [iterate_succ hcall hexpand]
                exact hbefore j (Nat.lt_of_succ_lt_succ hj)
      · rintro ⟨hu, hbefore⟩
        obtain ⟨n', hn', hhead⟩ := hbefore 0 (Nat.zero_lt_succ k)
        cases hn'
        obtain ⟨form, args, hcall⟩ := exists_call_of_not_headNormal hhead
        cases hexpand : form.expand stamp args with
        | error e =>
            rw [iterate, expandOnce, hcall] at hu
            simp only [hexpand] at hu
            cases hu
        | ok m =>
            refine .step hcall hexpand (ih.2 ⟨?_, fun j hj => ?_⟩)
            · rw [← iterate_succ hcall hexpand]
              exact hu
            · rw [← iterate_succ hcall hexpand]
              exact hbefore (j + 1) (Nat.succ_lt_succ hj)

-- ================================================================== walks

theorem expandWithin_succ (hcall : r.call? n = some (form, args))
    (hexpand : form.expand stamp args = .ok m) :
    r.expandWithin limit (left + 1) stamp n = r.expandWithin limit left (stamp + 1) m := by
  rw [expandWithin, hcall]
  show (form.expand stamp args >>= _) = _
  rw [hexpand]
  rfl

/-- Along a chain, each expansion takes one look. -/
theorem Leads.expandWithin_add (h : r.Leads k stamp n u) (limit : Int) (left : Nat) :
    r.expandWithin limit (k + left) stamp n = r.expandWithin limit left (stamp + k) u := by
  induction h with
  | refl stamp n => rw [Nat.zero_add, Nat.add_zero]
  | @step k stamp n m u form args hcall hexpand hmore ih =>
      have hlooks : k + 1 + left = k + left + 1 := by omega
      have hstamp : stamp + (k + 1) = stamp + 1 + k := by omega
      rw [hlooks, hstamp, expandWithin_succ hcall hexpand, ih]

/-- The chain of a node ends in head normal form after this many expansions. -/
structure Settles (r : Registry) (k stamp : Nat) (n u : Node) : Prop where
  leads : r.Leads k stamp n u
  normal : r.HeadNormal u

/-- The chain of a node breaks off after this many expansions, since the next one
fails. -/
def Fails (r : Registry) (k stamp : Nat) (n : Node) (e : Error) : Prop :=
  ∃ u form args, r.Leads k stamp n u ∧ r.call? u = some (form, args)
    ∧ form.expand (stamp + k) args = .error e

theorem Settles.expandWithin_eq (h : r.Settles k stamp n u) (hk : k < left) (limit : Int) :
    r.expandWithin limit left stamp n = .ok u := by
  have hleft : left = k + (left - k - 1 + 1) := by omega
  rw [hleft, h.leads.expandWithin_add, expandWithin, headNormal_iff.1 h.normal]

theorem Fails.expandWithin_eq {e : Error} (h : r.Fails k stamp n e) (hk : k < left)
    (limit : Int) : r.expandWithin limit left stamp n = .error e := by
  obtain ⟨u, form, args, hleads, hcall, hexpand⟩ := h
  have hleft : left = k + (left - k - 1 + 1) := by omega
  rw [hleft, hleads.expandWithin_add, expandWithin, hcall]
  show (form.expand (stamp + k) args >>= _) = _
  rw [hexpand]
  rfl

/-- A chain that uses up all looks ends a walk without a last look at the node that it
has led to. -/
theorem Leads.expandWithin_eq (h : r.Leads left stamp n u) (limit : Int) :
    r.expandWithin limit left stamp n = .error (.form (.depthExceeded u.callName? limit)) := by
  have hwalk := h.expandWithin_add limit 0
  rw [Nat.add_zero] at hwalk
  rw [hwalk, expandWithin]

/-- A chain settles within some number of looks, or uses them all up, or fails within
them. -/
theorem exists_outcome (r : Registry) (left stamp : Nat) (n : Node) :
    (∃ k u, k < left ∧ r.Settles k stamp n u)
      ∨ (∃ u, r.Leads left stamp n u)
      ∨ ∃ k e, k < left ∧ r.Fails k stamp n e := by
  induction left generalizing stamp n with
  | zero => exact .inr (.inl ⟨n, .refl stamp n⟩)
  | succ left ih =>
      by_cases hnormal : r.HeadNormal n
      · exact .inl ⟨0, n, Nat.zero_lt_succ left, .refl stamp n, hnormal⟩
      · obtain ⟨form, args, hcall⟩ := exists_call_of_not_headNormal hnormal
        cases hexpand : form.expand stamp args with
        | error e =>
            exact .inr (.inr ⟨0, e, Nat.zero_lt_succ left, n, form, args, .refl stamp n, hcall,
              hexpand⟩)
        | ok m =>
            rcases ih (stamp + 1) m with ⟨k, u, hk, hleads, hu⟩ | ⟨u, hleads⟩
              | ⟨k, e, hk, u, form', args', hleads, hcall', hfails⟩
            · exact .inl ⟨k + 1, u, Nat.succ_lt_succ hk, .step hcall hexpand hleads, hu⟩
            · exact .inr (.inl ⟨u, .step hcall hexpand hleads⟩)
            · have hstamp : stamp + (k + 1) = stamp + 1 + k := by omega
              refine .inr (.inr ⟨k + 1, e, Nat.succ_lt_succ hk, u, form', args',
                .step hcall hexpand hleads, hcall', ?_⟩)
              rw [hstamp]
              exact hfails

-- ============================================================ normal form

/-- Head expansion succeeds exactly with the end of a chain that settles before the
limit. -/
theorem expand_ok_iff_settles :
    r.expand limit stamp n = .ok u ↔ ∃ k : Nat, (k : Int) < limit ∧ r.Settles k stamp n u := by
  unfold expand
  constructor
  · intro h
    rcases r.exists_outcome limit.toNat stamp n with ⟨k, u', hk, hsettles⟩ | ⟨u', hleads⟩
      | ⟨k, e, hk, hfails⟩
    · rw [hsettles.expandWithin_eq hk] at h
      cases h
      exact ⟨k, by omega, hsettles⟩
    · rw [hleads.expandWithin_eq] at h
      cases h
    · rw [hfails.expandWithin_eq hk] at h
      cases h
  · rintro ⟨k, hk, hsettles⟩
    exact hsettles.expandWithin_eq (by omega) limit

/-- Forms that do not look at stamps are expanded alike with all of them. -/
theorem expandWithin_eq_of_pure (hpure : r.Pure) (limit : Int) (left stamp stamp' : Nat)
    (n : Node) : r.expandWithin limit left stamp n = r.expandWithin limit left stamp' n := by
  induction left generalizing stamp stamp' n with
  | zero => rfl
  | succ left ih =>
      cases hcall : r.call? n with
      | none => simp only [expandWithin, hcall]
      | some call =>
          obtain ⟨id, -, hget⟩ := call?_eq_some_iff.1 hcall
          simp only [expandWithin, hcall, hpure id.name call.1 hget stamp stamp' call.2]
          exact bind_congr fun m => ih (stamp + 1) (stamp' + 1) m

/-- Head expansion returns the head normal form. It succeeds exactly with the first
iterate of single expansion whose head is no registered form, if there is one before the
limit. Then expanding this node again changes nothing, and the same comes out under every
higher limit, with the same stamps, and with any stamps if no form looks at them. -/
theorem expand_returns_normal_form (r : Registry) (limit : Int) (stamp : Nat) (n u : Node) :
    (r.expand limit stamp n = .ok u ↔ ∃ k : Nat, (k : Int) < limit
        ∧ r.iterate k stamp n = .ok u ∧ r.HeadNormal u
        ∧ ∀ j < k, ∃ m, r.iterate j stamp n = .ok m ∧ ¬ r.HeadNormal m)
    ∧ (r.expand limit stamp n = .ok u →
        (∀ stamp', r.expand limit stamp' u = .ok u)
        ∧ ∀ limit' stamp', limit ≤ limit' → stamp' = stamp ∨ r.Pure →
          r.expand limit' stamp' n = .ok u) := by
  constructor
  · rw [expand_ok_iff_settles]
    constructor
    · rintro ⟨k, hk, hleads, hnormal⟩
      obtain ⟨hu, hbefore⟩ := leads_iff_iterate.1 hleads
      exact ⟨k, hk, hu, hnormal, hbefore⟩
    · rintro ⟨k, hk, hu, hnormal, hbefore⟩
      exact ⟨k, hk, leads_iff_iterate.2 ⟨hu, hbefore⟩, hnormal⟩
  · intro h
    obtain ⟨k, hk, hsettles⟩ := expand_ok_iff_settles.1 h
    refine ⟨fun stamp' => ?_, fun limit' stamp' hle hstamp => ?_⟩
    · exact expand_ok_iff_settles.2 ⟨0, by omega, .refl stamp' u, hsettles.normal⟩
    · have hhigher : r.expand limit' stamp n = .ok u :=
        expand_ok_iff_settles.2 ⟨k, by omega, hsettles⟩
      rcases hstamp with rfl | hpure
      · exact hhigher
      · rw [← hhigher]
        exact expandWithin_eq_of_pure hpure _ _ _ _ _

/-- Two forms that hand their arguments on, the first one to the second. -/
def relaying : Registry :=
  (Registry.empty.insert "first" (.forward fun _ => .ok (.symbol "second"))).insert "second"
    (.forward fun _ => .ok (.symbol "third"))

/-- A call of the first form. -/
def relayedCall : Node := .form [.sym ⟨"first", none⟩, .int 1]

/-- What the second form makes of it. -/
def deliveredCall : Node := .form [.sym ⟨"third", none⟩, .int 1]

theorem relayedCall_normal_form :
    (∃ k : Nat, (k : Int) < 3 ∧ relaying.iterate k 0 relayedCall = .ok deliveredCall
        ∧ relaying.HeadNormal deliveredCall
        ∧ ∀ j < k, ∃ m, relaying.iterate j 0 relayedCall = .ok m ∧ ¬ relaying.HeadNormal m)
      ∧ (∀ stamp, relaying.expand 3 stamp deliveredCall = .ok deliveredCall)
      ∧ relaying.expand 100 0 relayedCall = .ok deliveredCall := by
  have h : relaying.expand 3 0 relayedCall = .ok deliveredCall := rfl
  obtain ⟨hiff, hstable⟩ := expand_returns_normal_form relaying 3 0 relayedCall deliveredCall
  obtain ⟨hagain, hhigher⟩ := hstable h
  exact ⟨hiff.1 h, hagain, hhigher 100 0 (by decide) (.inl rfl)⟩

end FormScript.Registry
