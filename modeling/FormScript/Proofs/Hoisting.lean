/-
Hoisting equals the reference collection: an emission with an open scope
declares exactly the names that `Emitter.hoisted` collects, in that order,
and neither they nor the text depend on what the scope already holds.

# The argument

`Hoists m c` says so of one computation `m` and one collection `c`: a
success from one open scope is a success from every open scope, with the
same text and the same effect on streams, and the scope afterwards is the
old one with the names of `c` declared. The proof has two halves that meet
in `Layout.collect`, the names that writing a layout declares.

- Writing a layout hoists `Layout.collect` (`Layout.run_hoists`): one case
  for each way of putting layouts together.
- The layout of a node collects what the reference says about the node
  (`Node.layout_collect`), form by form.
-/
import FormScript.Proofs.Hoisting.Forms
import FormScript.Registry.Stock

namespace FormScript

open Collection Layout

-- ======================================================== what is hoisted

/-- From whichever open scope a computation succeeds, it has the same
outcome from all of them, and it declares what the collection holds. -/
def Hoists {α : Type} (m : EmitM α) (c : Collection) : Prop :=
  ∀ ⦃s : Scope⦄ ⦃streams : Streams⦄ ⦃events : Array Event⦄ ⦃a : α⦄ ⦃r' : Run⦄,
    m ⟨some s, streams, events⟩ = .ok a r' →
      ∃ events', ∀ s' : Scope,
        m ⟨some s', streams, events⟩ = .ok a
          ⟨some (s'.declareAll (c streams).1), (c streams).2, events'⟩

/-- Taking the items of a stream hoists what its untaken items do. -/
theorem EmitM.takeAll_hoists {write : Node → EmitM String}
    {f : Node → Collection} {id : Identity} {items : List Node}
    (h : ∀ n ∈ items, Hoists (write n) (f n)) (index : Nat) :
    Hoists (EmitM.takeAll write id index items) (untaken f id index items) := by
  induction items generalizing index with
  | nil =>
      intro s streams events texts r' hrun
      cases hrun
      exact ⟨events, fun s' => rfl⟩
  | cons n rest ih =>
      intro s streams events texts r' hrun
      have ih' := ih (fun m hm => h m (.tail _ hm)) (index + 1)
      by_cases hpos : streams.position id ≤ index
      · obtain ⟨x, r₁, xs, hx, hxs, rfl⟩ := (takeAll_cons_of_le hpos).1 hrun
        obtain ⟨events₁, hx'⟩ := h n (.head _) hx
        rw [hx' s] at hx
        cases hx
        obtain ⟨events₂, hxs'⟩ := ih' hxs
        refine ⟨events₂, fun s' => ?_⟩
        refine (takeAll_cons_of_le (r := ⟨some s', streams, events⟩) hpos).2
          ⟨x, _, xs, hx' s', ?_, rfl⟩
        rw [hxs' _]
        simp only [untaken, if_pos hpos, andThen, Scope.declareAll_append]
      · have hlt : index < streams.position id := by omega
        rw [takeAll_cons_of_lt (r := ⟨some s, streams, events⟩) hlt] at hrun
        obtain ⟨events₁, hrun'⟩ := ih' hrun
        refine ⟨events₁, fun s' => ?_⟩
        rw [takeAll_cons_of_lt (r := ⟨some s', streams, events⟩) hlt, hrun' s']
        simp only [untaken, if_neg hpos]

/-- Writing a layout hoists what the layout collects, if its children do
so. -/
theorem Layout.run_hoists {dedupe : Bool} {write : Node → EmitM String}
    {f : Node → Collection} {l : Layout}
    (h : l.All fun n => Hoists (write n) (f n)) :
    Hoists (l.run dedupe write) (l.collect f) := by
  induction l with
  | text x =>
      intro s streams events t r' hrun
      cases hrun
      exact ⟨events, fun s' => rfl⟩
  | node n => exact h
  | item n =>
      intro s streams events t r' hrun
      obtain ⟨events₁, hn⟩ := h (run_item_ok_iff.1 hrun)
      exact ⟨events₁, fun s' => run_item_ok_iff.2 (hn s')⟩
  | fail err =>
      intro s streams events t r' hrun
      cases hrun
  | append a b iha ihb =>
      intro s streams events t r' hrun
      obtain ⟨x, r₁, y, hx, hy, rfl⟩ := run_append_ok_iff.1 hrun
      obtain ⟨events₁, hx'⟩ := iha h.1 hx
      rw [hx' s] at hx
      cases hx
      obtain ⟨events₂, hy'⟩ := ihb h.2 hy
      refine ⟨events₂, fun s' => run_append_ok_iff.2 ⟨x, _, y, hx' s', ?_, rfl⟩⟩
      rw [hy' _, ← Scope.declareAll_append]
      rfl
  | late a b iha ihb =>
      intro s streams events t r' hrun
      obtain ⟨y, r₁, x, hy, hx, rfl⟩ := run_late_ok_iff.1 hrun
      obtain ⟨events₁, hy'⟩ := ihb h.2 hy
      rw [hy' s] at hy
      cases hy
      obtain ⟨events₂, hx'⟩ := iha h.1 hx
      refine ⟨events₂, fun s' => run_late_ok_iff.2 ⟨y, _, x, hy' s', ?_, rfl⟩⟩
      rw [hx' _, ← Scope.declareAll_append]
      rfl
  | twice a between ih =>
      intro s streams events t r' hrun
      obtain ⟨x, hx, rfl⟩ := run_twice_ok_iff.1 hrun
      obtain ⟨events₁, hx'⟩ := ih h hx
      exact ⟨events₁, fun s' => run_twice_ok_iff.2 ⟨x, hx' s', rfl⟩⟩
  | statement a ih =>
      intro s streams events t r' hrun
      obtain ⟨x, hx, rfl⟩ := run_statement_ok_iff.1 hrun
      obtain ⟨events₁, hx'⟩ := ih h hx
      exact ⟨events₁, fun s' => run_statement_ok_iff.2 ⟨x, hx' s', rfl⟩⟩
  | declare xs =>
      intro s streams events t r' hrun
      cases hrun
      exact ⟨events, fun s' => rfl⟩
  | inline x =>
      intro s streams events t r' hrun
      cases hrun
      exact ⟨events, fun s' => rfl⟩
  | enclosed a ih =>
      intro s streams events t r' hrun
      obtain ⟨x, r₁, hx, rfl, -⟩ := run_enclosed_ok_iff.1 hrun
      obtain ⟨events₁, hx'⟩ := ih h hx
      -- the body starts from the same fresh scope, whatever is open around it
      rw [hx' _] at hx
      cases hx
      exact ⟨events₁, fun s' =>
        run_enclosed_ok_iff.2 ⟨x, _, hx' _, rfl, rfl⟩⟩
  | stream id items =>
      intro s streams events t r' hrun
      obtain ⟨xs, hxs, rfl⟩ := run_stream_ok_iff.1 hrun
      obtain ⟨events₁, hxs'⟩ := EmitM.takeAll_hoists h 0 hxs
      exact ⟨events₁, fun s' => run_stream_ok_iff.2 ⟨xs, hxs' s', rfl⟩⟩

-- =============================================================== emission

namespace Emitter

/-- Emission hoists the reference collection. -/
theorem emitAt_hoists (e : Emitter) (levels : Nat) (n : Node) :
    Hoists (e.emitAt levels n) (e.hoisted levels n) := by
  refine e.emission_induction
    (P := fun levels n => Hoists (e.emitAt levels n) (e.hoisted levels n))
    ?_ ?_ ?_ levels n
  · intro n call hcall s streams events t r' hrun
    rw [e.emitAt_zero_custom hcall] at hrun
    cases hrun
  · intro levels n call hcall ih s streams events t r' hrun
    rw [e.emitAt_succ_custom hcall] at hrun ⊢
    obtain ⟨m, hexp, hm⟩ := Call.expandWith_ok_iff.1 hrun
    obtain ⟨events', hm'⟩ := ih m hm
    refine ⟨events', fun s' => Call.expandWith_ok_iff.2 ⟨m, hexp, ?_⟩⟩
    rw [e.hoisted_custom hcall hexp]
    exact hm' s'
  · intro levels n hcall hchildren s streams events t r' hrun
    have hnil : e.hoisted levels .nil = nothing := e.hoisted_of_not_custom rfl
    rw [e.emitAt_of_not_custom hcall] at hrun ⊢
    rw [e.hoisted_of_not_custom hcall,
      ← Node.layout_collect hnil (sound_of_run_ok hrun)]
    exact run_hoists hchildren hrun

/-- A successful emission leaves its scope with the reference collection
declared, name by name, and has the same text and declares the same names
from every other scope. -/
theorem emitAt_scope_eq_hoisted (e : Emitter) (levels : Nat) (n : Node)
    (r : Run) (s : Scope) (hs : r.scope = some s) {t : String} {r' : Run}
    (h : e.emitAt levels n r = .ok t r') :
    r'.scope = some (s.declareAll (e.hoisted levels n r.streams).1)
      ∧ ∀ s' : Scope, ∃ r'',
          e.emitAt levels n { r with scope := some s' } = .ok t r''
            ∧ r''.scope
                = some (s'.declareAll (e.hoisted levels n r.streams).1) := by
  obtain ⟨scope, streams, events⟩ := r
  subst hs
  obtain ⟨events', hall⟩ := e.emitAt_hoists levels n h
  have hself := hall s
  rw [h] at hself
  cases hself
  exact ⟨rfl, fun s' => ⟨_, hall s', rfl⟩⟩

/-- A loop whose binding declares a name through a custom form, around a
declaration and a named function with a declaration of its own. -/
def declaringLoop : Node :=
  let sym (name : String) : Node := .sym ⟨name, none⟩
  .form [sym "doseq",
    .seq .vector [.form [sym "m", .form [sym "var", sym "i"]], sym "xs"],
    .form [sym "var", sym "z"],
    .form [sym "fn", sym "f", .seq .vector [], .form [sym "var", sym "y"]]]

/-- An emitter with one custom form, which stands for its argument. -/
def withIdentityForm : Emitter where
  forms := Registry.empty.insert "m" (CustomForm.argument 0)

theorem declaringLoop_scope :
    ({ names := ["x", "z", "f", "i"] } : Scope)
      = Scope.declareAll { names := ["x"] }
          (withIdentityForm.hoisted 1 declaringLoop {}).1 := by
  have h : withIdentityForm.emitAt 1 declaringLoop
      { scope := some { names := ["x"] } }
      = .ok "for ( in xs) \x7b \n;\nf = function () \x7b\nvar y;\n;\n \x7d;\n\n \x7d"
          { scope := some { names := ["x", "z", "f", "i"] }
            streams := { nextStamp := 1 }
            events := #[.expanding "m"] } := rfl
  exact Option.some.inj (emitAt_scope_eq_hoisted _ 1 declaringLoop _ _ rfl h).1

end Emitter

end FormScript
