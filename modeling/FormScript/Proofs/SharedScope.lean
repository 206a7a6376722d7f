/-
Emissions that share a scope. A scope may be handed to any number of emissions,
of any nodes and by any emitters, one after another; each of them may succeed
or fail, and what it declared stays. A scope that starts empty and dedupes then
holds valid names, each of them once, and the names are never taken back or put
into another order: this is true between the emissions and at every moment of
each of them (`Emission.shared_scope_tidy`).

# The argument

One emission only makes the scope grow by valid names, up to each of its moments
and from there to its end (`Emitter.Passes.grows`), and growth keeps a deduping
scope tidy. So every scope that a history of emissions leads to is tidy, by
induction on the history (`Emission.Shared.tidy`).

A declaration looks at all its names before it declares any of them, so one with
an invalid name among them leaves the whole run as it was
(`Emitter.emitAt_invalid_declaration`).
-/
import FormScript.Proofs.Moments
import FormScript.Registry.Stock

namespace FormScript

-- ================================================================== tidy

/-- A scope that holds valid names, each of them once. -/
structure Scope.Tidy (s : Scope) : Prop where
  nodup : s.names.Nodup
  valid : ∀ x ∈ s.names, isIdentifier x

/-- A tidy scope that dedupes grows to tidy scopes, which have its names in
front. -/
theorem Scope.GrowsTo.tidy {s : Scope} {t : Option Scope} (h : GrowsTo (some s) t)
    (hdedupe : s.dedupe) (hs : s.Tidy) :
    ∃ s', t = some s' ∧ s'.dedupe ∧ s'.Tidy ∧ s.names <+: s'.names := by
  obtain ⟨s', rfl, hprefix, hflag⟩ := h.exists_some
  exact ⟨s', rfl, hflag ▸ hdedupe, ⟨h.nodup hdedupe hs.nodup, h.valid hs.valid⟩, hprefix⟩

-- =============================================================== histories

/-- One emission among others: who writes what, with how many levels of
expansion left, and what has been read and noted by then. -/
structure Emission where
  emitter : Emitter
  levels : Nat
  node : Node
  streams : Streams := {}
  events : Array Event := #[]

namespace Emission

/-- The run from which an emission into a scope starts. -/
def into (em : Emission) (s : Scope) : Run := ⟨some s, em.streams, em.events⟩

/-- An emission into a scope leaves a scope, be it by a success or by a
failure. -/
def Turns (em : Emission) (s s' : Scope) : Prop :=
  ((em.emitter.emitAt em.levels em.node).after (em.into s)).scope = some s'

/-- The moments of an emission into a scope. -/
def Passes (em : Emission) (s : Scope) (m : Moment) : Prop :=
  em.emitter.Passes em.levels (.node em.node) (em.into s) m

/-- The scopes that emissions into one scope lead to. The scope starts empty and
dedupes. -/
inductive Shared : Scope → Prop
  | fresh : Shared { names := [], dedupe := true }
  | emitted {s s' : Scope} (h : Shared s) (em : Emission) (turn : em.Turns s s') : Shared s'

/-- One emission makes its scope grow. -/
theorem Turns.grows {em : Emission} {s s' : Scope} (h : em.Turns s s') :
    Scope.GrowsTo (some s) (some s') := by
  have hdeclares := em.emitter.emitAt_declares em.levels em.node (em.into s)
  rw [h] at hdeclares
  exact hdeclares

/-- A history of emissions keeps its scope tidy. -/
theorem Shared.tidy {s : Scope} (h : Shared s) : s.dedupe ∧ s.Tidy := by
  induction h with
  | fresh => exact ⟨rfl, List.nodup_nil, fun x hx => absurd hx List.not_mem_nil⟩
  | emitted _ em turn ih =>
      obtain ⟨s', hs', hdedupe, htidy, -⟩ := turn.grows.tidy ih.1 ih.2
      cases hs'
      exact ⟨hdedupe, htidy⟩

end Emission

-- ============================================================ declarations

/-- A declaration with an invalid name, or with something that is no name where
a name should stand, fails before it does anything. -/
theorem Emitter.emitAt_invalid_declaration {e : Emitter} {levels : Nat} {id : Ident}
    {args : List Node} (hid : id.name = "var") (hforms : e.forms.get? "var" = none)
    (hinvalid : ∃ n ∈ Layout.evens args, ¬ n.isName) (r : Run) :
    ∃ err, e.emitAt levels (.form (.sym id :: args)) r = .error err r := by
  have hspecial : SpecialForm.ofName? id.name = some .declaration := by
    rw [hid]
    rfl
  rw [e.emitAt_special id hspecial (hid ▸ hforms)]
  show ∃ err, (Layout.declaration args).run _ _ r = .error err r
  rw [Layout.declaration]
  cases hnames : Layout.declaredNames (Layout.evens args) with
  | error err => exact ⟨.form err, rfl⟩
  | ok names =>
      obtain ⟨n, hn, hname⟩ := hinvalid
      exact absurd (Layout.declaredNames_ok_iff.1 ⟨names, hnames⟩ n hn) hname

-- ========================================================== shared scopes

namespace Emission

/-- A scope that any emissions, failed ones included, have been made into is
tidy, if it started empty and dedupes. Every further emission leaves a scope
that has the old names in front; at each of its moments the scope is tidy, has
the old names in front and is itself in front of what the emission leaves. And
a declaration with an invalid name, made from whatever run, leaves the run as
it was. -/
theorem shared_scope_tidy {s : Scope} (h : Shared s) :
    s.Tidy
      ∧ (∀ em : Emission, ∃ s', em.Turns s s' ∧ s.names <+: s'.names
          ∧ ∀ m, em.Passes s m → ∃ u, m.outermost = some u ∧ u.Tidy
              ∧ s.names <+: u.names ∧ u.names <+: s'.names)
      ∧ ∀ (e : Emitter) (levels : Nat) (id : Ident) (args : List Node) (r : Run),
          id.name = "var" → e.forms.get? "var" = none →
            (∃ n ∈ Layout.evens args, ¬ n.isName) →
              ∃ err, e.emitAt levels (.form (.sym id :: args)) r = .error err r := by
  obtain ⟨hdedupe, htidy⟩ := h.tidy
  refine ⟨htidy, fun em => ?_, fun e levels id args r hid hforms hinvalid =>
    Emitter.emitAt_invalid_declaration hid hforms hinvalid r⟩
  have hdeclares := em.emitter.emitAt_declares em.levels em.node (em.into s)
  obtain ⟨s', hs', -, -, hprefix⟩ := Scope.GrowsTo.tidy hdeclares hdedupe htidy
  refine ⟨s', hs', hprefix, fun m hm => ?_⟩
  obtain ⟨hbefore, hbehind⟩ := Emitter.Passes.grows hm trivial
  obtain ⟨u, hu, -, hutidy, hprefix'⟩ := Scope.GrowsTo.tidy hbefore hdedupe htidy
  rw [hu] at hbehind
  obtain ⟨v, hv, hlast, -⟩ := hbehind.exists_some
  have hend : some v = some s' := hv.symm.trans hs'
  cases hend
  exact ⟨u, hu, hutidy, hprefix', hlast⟩

open Node in
/-- Two declarations of which the second one fails at its value. -/
def failingDeclarations : Emission where
  emitter := {}
  levels := 0
  node := call "do" [call "var" [symbol "a", .int 1, symbol "b"],
    call "var" [symbol "c", call "if" []]]

open Node in
/-- A declaration in the argument of a custom form, with a name that the
emission above declares. -/
def expandedDeclaration : Emission where
  emitter := { forms := Registry.empty.insert "m" (CustomForm.argument 0) }
  levels := 1
  node := call "m" [call "var" [symbol "b", .int 2, symbol "d"]]

/-- What the failed emission declared stays, and the next one adds to it. -/
theorem failingDeclarations_shared :
    Shared { names := ["a", "b", "c", "d"] }
      ∧ ({ names := ["a", "b", "c", "d"] } : Scope).Tidy
      ∧ ∃ err, Emitter.emitAt {} 0
          (.form [.sym ⟨"var", none⟩, .sym ⟨"a", none⟩, .int 1, .sym ⟨"2", none⟩]) {}
            = .error err {} := by
  have hfirst : Shared { names := ["a", "b", "c"] } := .emitted .fresh failingDeclarations rfl
  have hsecond : Shared { names := ["a", "b", "c", "d"] } :=
    .emitted hfirst expandedDeclaration rfl
  obtain ⟨htidy, -, hinvalid⟩ := shared_scope_tidy hsecond
  refine ⟨hsecond, htidy, hinvalid {} 0 ⟨"var", none⟩ _ {} rfl rfl ?_⟩
  exact ⟨.sym ⟨"2", none⟩, by simp [Layout.evens], by decide⟩

end Emission

end FormScript
