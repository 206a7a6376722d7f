/-
Emission without a scope beside emission with one. Where no scope is open,
declared names are written in place and not collected; all else is the same. So
an emission fails without a scope exactly if it fails with one, and with the
same error, and if both succeed and nothing was declared, their texts are equal
(`Emitter.emitAt_unscoped_agrees`).

# The argument

Both emissions run in step (`EmitM.Tracks`), the one without its scope. They
write different texts only where a layout has a text that is needed in place,
and a layout that has one is not quiet: it declares a name before
(`Layout.Announced`), and a scope only grows, so the scope is not empty at the
end. Bodies of functions have scopes of their own on both sides.
-/
import FormScript.Proofs.Tracking

namespace FormScript

open EmitM

/-- The change that takes the scope away. -/
def Scope.without (_ : Option Scope) : Option Scope := none

/-- A run with a scope in which nothing has been declared. -/
def Run.Undeclared (r : Run) : Prop := ∃ s, r.scope = some s ∧ s.names = []

/-- What is undeclared after a computation was so before it. -/
theorem EmitM.Declares.undeclared {α : Type} {m : EmitM α} (hm : m.Declares) {r s : Run} {a : α}
    (h : m r = .ok a s) (hs : s.Undeclared) : r.Undeclared :=
  (hm.of_ok h).empty hs

/-- After a declaration of some name there is no empty scope. -/
theorem not_undeclared_of_declare {names : List String} (hnames : names ≠ []) {r : Run} :
    ¬ Run.Undeclared { r with scope := r.scope.map (·.declareAll names) } := by
  rintro ⟨s, hs, hempty⟩
  obtain ⟨u, -, rfl⟩ := Option.map_eq_some_iff.1 hs
  obtain ⟨x, hx⟩ := List.exists_mem_of_ne_nil names hnames
  have hmem := Scope.mem_declareAll.2 (.inr hx : x ∈ u.names ∨ x ∈ names)
  rw [hempty] at hmem
  cases hmem

-- ================================================================ layouts

/-- Two texts that are equal if nothing has been declared. -/
def EqualUndeclared {α : Type} (t t' : α) (s : Run) : Prop := s.Undeclared → t = t'

theorem EmitM.takeAll_unscoped {write : Node → EmitM String} (id : Identity)
    {items : List Node} (hwrite : ∀ n, (write n).Declares)
    (h : ∀ n ∈ items, ∀ r, Tracks Scope.without (write n) (write n) r EqualUndeclared)
    (index : Nat) (r : Run) :
    Tracks Scope.without (takeAll write id index items) (takeAll write id index items) r
      EqualUndeclared := by
  induction items generalizing index r with
  | nil => exact pure_tracks fun _ => rfl
  | cons n rest ih =>
      have hrest := ih fun m hm => h m (.tail _ hm)
      by_cases hpos : r.streams.position id ≤ index
      · refine takeAll_tracks_of_le hpos (bind_tracks (h n (.head _) _) fun x x' s _ hx => ?_)
        refine map_tracks (hrest (index + 1) s) _ _ fun xs xs' s' htexts hxs hs' => ?_
        have hs := (takeAll_declares id (fun m _ => hwrite m) (index + 1)).undeclared htexts hs'
        rw [hx hs, hxs hs']
      · exact takeAll_tracks_of_lt (by omega) (hrest (index + 1) r)

/-- A layout is written in step with and without a scope, if its children are.
A quiet one has the same text on both sides if nothing has been declared. -/
theorem Layout.run_unscoped {dedupe : Bool} {write : Node → EmitM String}
    (hwrite : ∀ n, (write n).Declares) {l : Layout} (hl : l.NamesValid)
    (h : l.All fun n => ∀ r, Tracks Scope.without (write n) (write n) r EqualUndeclared)
    (r : Run) :
    Tracks Scope.without (l.run dedupe write) (l.run dedupe write) r
      fun t t' s => l.Quiet → EqualUndeclared t t' s := by
  have hdeclares {l : Layout} (hl : l.NamesValid) : (l.run dedupe write).Declares :=
    run_declares hl (all_of_forall hwrite l)
  induction l generalizing r with
  | text s => exact pure_tracks fun _ _ => rfl
  | node n => exact (h r).imp fun t t' s _ heq _ => heq
  | item n => exact (iterated_tracks (h r)).imp fun t t' s _ heq _ => heq
  | fail e => exact throw_tracks e
  | append a b iha ihb =>
      refine bind_tracks (iha hl.1 h.1 r) fun x x' s _ hx => ?_
      refine map_tracks (ihb hl.2 h.2 s) _ _ fun y y' s' hb hy hquiet hs' => ?_
      rw [hx hquiet.1 ((hdeclares hl.2).undeclared hb hs'), hy hquiet.2 hs']
  | late a b iha ihb =>
      refine bind_tracks (ihb hl.2 h.2 r) fun y y' s _ hy => ?_
      refine map_tracks (iha hl.1 h.1 s) _ _ fun x x' s' ha hx hquiet hs' => ?_
      rw [hy hquiet.2 ((hdeclares hl.1).undeclared ha hs'), hx hquiet.1 hs']
  | twice a between ih =>
      refine map_tracks (ih hl h r) _ _ fun x x' s _ hx hquiet hs => ?_
      rw [hx hquiet hs]
  | statement a ih =>
      refine map_tracks (ih hl h r) _ _ fun x x' s _ hx hquiet hs => ?_
      rw [hx hquiet hs]
  | declare names => exact tracks_of_ok rfl rfl fun _ _ => rfl
  | inline s => exact tracks_of_ok rfl rfl fun hquiet => hquiet.elim
  | enclosed a _ =>
      exact (inScope_tracks _ _).imp fun t t' s _ heq _ _ => heq
  | stream id items =>
      have hitems := iterated_tracks (takeAll_unscoped id hwrite h 0 r)
      refine map_tracks hitems _ _ fun xs xs' s _ hxs _ hs => ?_
      rw [hxs hs]

-- =============================================================== emission

namespace Emitter

/-- An emission runs in step with and without a scope, and writes the same text
if nothing is declared. -/
theorem emitAt_unscoped (e : Emitter) (levels : Nat) (n : Node) :
    ∀ r, Tracks Scope.without (e.emitAt levels n) (e.emitAt levels n) r EqualUndeclared := by
  refine e.emission_induction (P := fun levels n => ∀ r,
    Tracks Scope.without (e.emitAt levels n) (e.emitAt levels n) r EqualUndeclared)
    ?_ ?_ ?_ levels n
  · intro n call hcall r
    rw [e.emitAt_zero_custom hcall]
    exact throw_tracks _
  · intro levels n call hcall ih r
    rw [e.emitAt_succ_custom hcall]
    exact Call.expandWith_tracks fun m _ => ih m _
  · intro levels n hcall ih r
    rw [e.emitAt_of_not_custom hcall]
    have hdeclares := e.emitAt_declares levels
    refine (Layout.run_unscoped hdeclares n.layout_announced.namesValid ih r).imp
      fun t t' s hrun heq hs => ?_
    have hlayout := n.layout_announced
    generalize n.layout = l at hlayout hrun heq
    cases hlayout with
    | quiet hquiet => exact heq hquiet hs
    | declares some _ behind =>
        -- the names are in the scope before anything behind them is written
        obtain ⟨x, u, y, hnames, hrest, -⟩ := Layout.run_append_ok_iff.1 hrun
        have hu := (e.run_declares levels behind).undeclared hrest hs
        cases hnames
        exact absurd hu (not_undeclared_of_declare some)

/-- A node is emitted without a scope and into a fresh one from the same run.
Either both emissions fail with the same error, or both succeed; and if the
scope is still empty then, their texts are the same. The runs that they leave
differ in the scope only. -/
theorem emitAt_unscoped_agrees (e : Emitter) (levels : Nat) (n : Node) (dedupe : Bool)
    (r : Run) :
    (∃ err s, e.emitAt levels n { r with scope := none } = .error err { s with scope := none }
        ∧ e.emitAt levels n { r with scope := some { dedupe } } = .error err s)
      ∨ ∃ t t' s scope,
          e.emitAt levels n { r with scope := none } = .ok t { s with scope := none }
            ∧ e.emitAt levels n { r with scope := some { dedupe } } = .ok t' s
            ∧ s.scope = some scope ∧ (scope.names = [] → t = t') := by
  have htracks := e.emitAt_unscoped levels n { r with scope := some { dedupe } }
  cases hscoped : e.emitAt levels n { r with scope := some { dedupe } } with
  | error err s => exact .inl ⟨err, s, htracks.error hscoped, rfl⟩
  | ok t' s =>
      obtain ⟨t, hbare, heq⟩ := htracks.ok hscoped
      obtain ⟨scope, hscope, -⟩ := ((e.emitAt_declares levels n).of_ok hscoped).exists_some
      exact .inr ⟨t, t', s, scope, hbare, rfl, hscope, fun hempty => heq ⟨scope, hscope, hempty⟩⟩

end Emitter

end FormScript
