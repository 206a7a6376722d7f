/-
Which formulas keep their meaning without parentheses. A formula is
`Faithful` if every conjunction and disjunction in it stands under an even
number of negations, and no disjunction stands inside a conjunction.

# The argument

The text of a formula means what its clauses mean, so the question is when
the clauses have the value of the formula. Both directions are inductions
on the formula that carry along whether the number of negations above is
odd (`Agrees`): a sign in front of the text flips the first name only,
and two of them cancel.

- `FaithfulAt.agrees`: the clauses of a faithful formula mean what it
  means. Inside a conjunction there is just one clause, and joining two of
  those is a conjunction.
- `faithfulAt_of_agrees`: if the names of a formula are all different, the
  converse holds. The two sides of a connective can then be given values
  apart from each other (`exists_merge`), and both a formula and its clauses
  take both truth values.
-/
import FormScript.Proofs.Precedence.Formula

namespace FormScript

open Clauses

namespace Formula

-- ============================================================== faithful

/-- A formula under an odd or even number of negations, inside a
conjunction or not, whose connectives survive without parentheses. -/
def FaithfulAt : (odd within : Bool) → Formula → Prop
  | _, _, symbol _ => True
  | odd, within, negation f => FaithfulAt (!odd) within f
  | odd, _, conjunction f g =>
    odd = false ∧ FaithfulAt false true f ∧ FaithfulAt false true g
  | odd, within, disjunction f g =>
    odd = false ∧ within = false
      ∧ FaithfulAt false false f ∧ FaithfulAt false false g

/-- Every connective stands under an even number of negations, and no
disjunction stands inside a conjunction. -/
def Faithful (f : Formula) : Prop := FaithfulAt false false f

/-- The clauses of a formula mean what it means; under an odd number of
negations, with the sign of the last of them in front. -/
def Agrees (ρ : String → Bool) : Bool → Formula → Prop
  | false, f => f.clauses.value ρ = f.value ρ
  | true, f => (bang f.clauses).value ρ = !f.value ρ

theorem agrees_negation (ρ : String → Bool) (odd : Bool) (f : Formula) :
    Agrees ρ odd (negation f) ↔ Agrees ρ (!odd) f := by
  cases odd with
  | false => exact Iff.rfl
  | true =>
      show (bang (bang f.clauses)).value ρ = !!f.value ρ ↔ _
      rw [bang_bang_value, Bool.not_not]
      exact Iff.rfl

-- ============================================================ sufficient

/-- Inside a conjunction a faithful formula shows one clause. -/
theorem FaithfulAt.exists_clause {odd : Bool} {f : Formula}
    (h : FaithfulAt odd true f) : ∃ C, f.clauses = [C] := by
  induction f generalizing odd with
  | symbol name => exact ⟨_, rfl⟩
  | negation f ih =>
      obtain ⟨C, hC⟩ := ih h
      rw [clauses, hC]
      cases C with
      | nil => exact ⟨_, rfl⟩
      | cons l C => exact ⟨_, rfl⟩
  | conjunction f g ihf ihg =>
      obtain ⟨C, hC⟩ := ihf h.2.1
      obtain ⟨D, hD⟩ := ihg h.2.2
      rw [clauses, hC, hD]
      exact ⟨C ++ D, rfl⟩
  | disjunction f g ihf ihg => exact absurd h.2.1 (by decide)

/-- The clauses of a faithful formula mean what it means. -/
theorem FaithfulAt.agrees {odd within : Bool} {f : Formula}
    (h : FaithfulAt odd within f) (ρ : String → Bool) : Agrees ρ odd f := by
  induction f generalizing odd within with
  | symbol name =>
      cases odd with
      | false =>
          show Clauses.value ρ [[⟨0, name⟩]] = ρ name
          rw [Clauses.value_singleton, Clause.value_singleton]
          rfl
      | true =>
          show Clauses.value ρ [[⟨1, name⟩]] = !ρ name
          rw [Clauses.value_singleton, Clause.value_singleton]
          rfl
  | negation f ih => exact (agrees_negation ρ odd f).2 (ih h)
  | conjunction f g ihf ihg =>
      obtain ⟨rfl, hf, hg⟩ := h
      obtain ⟨C, hC⟩ := hf.exists_clause
      obtain ⟨D, hD⟩ := hg.exists_clause
      have hvf : f.clauses.value ρ = f.value ρ := ihf hf
      have hvg : g.clauses.value ρ = g.value ρ := ihg hg
      rw [hC, Clauses.value_singleton] at hvf
      rw [hD, Clauses.value_singleton] at hvg
      show (glue f.clauses g.clauses).value ρ = (f.value ρ && g.value ρ)
      rw [hC, hD, ← hvf, ← hvg, ← Clause.value_append]
      exact Clauses.value_singleton ρ (C ++ D)
  | disjunction f g ihf ihg =>
      obtain ⟨rfl, -, hf, hg⟩ := h
      have hvf : f.clauses.value ρ = f.value ρ := ihf hf
      have hvg : g.clauses.value ρ = g.value ρ := ihg hg
      show (f.clauses ++ g.clauses).value ρ = (f.value ρ || g.value ρ)
      rw [Clauses.value_append, hvf, hvg]

end Formula

-- =========================================================== assignments

/-- Assignments to different names can be put together. -/
theorem exists_merge {xs ys : List String} (h : ∀ x ∈ xs, x ∉ ys)
    (ρ σ : String → Bool) :
    ∃ τ : String → Bool, (∀ x ∈ xs, τ x = ρ x) ∧ ∀ y ∈ ys, τ y = σ y := by
  refine ⟨fun x => if x ∈ xs then ρ x else σ x, ?_, ?_⟩
  · intro x hx
    exact if_pos hx
  · intro y hy
    exact if_neg fun hx => h y hx hy

theorem Literal.value_congr {ρ σ : String → Bool} {l : Literal}
    (h : ρ l.name = σ l.name) : l.value ρ = l.value σ := by
  rw [Literal.value, Literal.value, h]

theorem Clause.value_congr {ρ σ : String → Bool} {C : Clause}
    (h : ∀ x ∈ C.map Literal.name, ρ x = σ x) : C.value ρ = C.value σ := by
  rw [Bool.eq_iff_iff, Clause.value, Clause.value, List.all_eq_true,
    List.all_eq_true]
  have hl : ∀ l ∈ C, l.value ρ = l.value σ := fun l hl =>
    Literal.value_congr (h l.name (List.mem_map_of_mem hl))
  constructor
  · intro hC l hm
    rw [← hl l hm]
    exact hC l hm
  · intro hC l hm
    rw [hl l hm]
    exact hC l hm

theorem Clauses.value_congr {ρ σ : String → Bool} {cs : Clauses}
    (h : ∀ x ∈ cs.names, ρ x = σ x) : cs.value ρ = cs.value σ := by
  induction cs with
  | nil => rfl
  | cons C cs ih =>
      rw [names_cons, List.forall_mem_append] at h
      rw [value_cons, value_cons, Clause.value_congr h.1, ih h.2]

theorem repeat_not_not (k : Nat) (b : Bool) :
    Nat.repeat not k (!b) = !Nat.repeat not k b := by
  induction k with
  | zero => rfl
  | succ k ih =>
      show (!Nat.repeat not k (!b)) = !!Nat.repeat not k b
      rw [ih]

theorem repeat_not_repeat_not (k : Nat) (b : Bool) :
    Nat.repeat not k (Nat.repeat not k b) = b := by
  induction k with
  | zero => rfl
  | succ k ih =>
      show (!Nat.repeat not k (!Nat.repeat not k b)) = b
      rw [repeat_not_not, ih, Bool.not_not]

/-- Literals of different names can be given any values. -/
theorem exists_values (ps : List (Literal × Bool))
    (h : (ps.map fun p => p.1.name).Nodup) :
    ∃ ρ : String → Bool, ∀ p ∈ ps, p.1.value ρ = p.2 := by
  induction ps with
  | nil => exact ⟨fun _ => false, fun p hp => by cases hp⟩
  | cons p ps ih =>
      rw [List.map_cons, List.nodup_cons] at h
      obtain ⟨ρ, hρ⟩ := ih h.2
      refine ⟨fun x => if x = p.1.name then Nat.repeat not p.1.bangs p.2
        else ρ x, fun q hq => ?_⟩
      rcases List.mem_cons.1 hq with rfl | hq
      · rw [Literal.value, if_pos rfl, repeat_not_repeat_not]
      · have hne : q.1.name ≠ p.1.name := by
          intro heq
          exact h.1 (heq ▸ List.mem_map_of_mem hq)
        rw [Literal.value, if_neg hne]
        exact hρ q hq

/-- One clause can hold without any of the others. -/
theorem Clauses.exists_only {C : Clause} {cs : Clauses}
    (h : (C.map Literal.name ++ cs.names).Nodup) (hcs : ∀ D ∈ cs, D ≠ []) :
    ∃ ρ, C.value ρ = true ∧ cs.value ρ = false := by
  obtain ⟨ρ, hρ⟩ := exists_values
    (C.map (·, true) ++ cs.flatten.map (·, false)) (by
      simpa [Clauses.names, Function.comp_def] using h)
  refine ⟨ρ, ?_, ?_⟩
  · rw [Clause.value, List.all_eq_true]
    intro l hl
    exact hρ (l, true) (List.mem_append_left _ (List.mem_map_of_mem hl))
  · rw [Clauses.value, List.any_eq_false]
    intro D hD
    cases D with
    | nil => exact absurd rfl (hcs [] hD)
    | cons l D =>
        have hl : l ∈ cs.flatten := List.mem_flatten.2 ⟨_, hD, .head _⟩
        have hvalue : l.value ρ = false :=
          hρ (l, false) (List.mem_append_right _ (List.mem_map_of_mem hl))
        simp [Clause.value, hvalue]

/-- Clauses of different names take both truth values. -/
theorem Clauses.Proper.exists_value {cs : Clauses} (hcs : cs.Proper)
    (h : cs.names.Nodup) (b : Bool) : ∃ ρ, cs.value ρ = b := by
  cases b with
  | false =>
      obtain ⟨ρ, -, hρ⟩ := exists_only (C := []) h hcs.clauses
      exact ⟨ρ, hρ⟩
  | true =>
      obtain ⟨l, C, rest, rfl⟩ := hcs.exists_cons
      rw [names_cons] at h
      obtain ⟨ρ, hρ, -⟩ := exists_only h
        fun D hD => hcs.clauses D (.tail _ hD)
      refine ⟨ρ, ?_⟩
      rw [value_cons, hρ, Bool.true_or]

/-- Clauses of different names that never hold are none at all. -/
theorem Clauses.eq_nil_of_value {cs : Clauses} (hcs : ∀ D ∈ cs, D ≠ [])
    (hnodup : cs.names.Nodup) (h : ∀ ρ, cs.value ρ = false) : cs = [] := by
  cases cs with
  | nil => rfl
  | cons C cs =>
      have hproper : Proper (C :: cs) := ⟨List.cons_ne_nil C cs, hcs⟩
      obtain ⟨ρ, hρ⟩ := hproper.exists_value hnodup true
      rw [h ρ] at hρ
      cases hρ

namespace Formula

theorem value_congr {ρ σ : String → Bool} {f : Formula}
    (h : ∀ x ∈ f.names, ρ x = σ x) : f.value ρ = f.value σ := by
  induction f with
  | symbol name => exact h name (.head _)
  | negation f ih => rw [value, value, ih h]
  | conjunction f g ihf ihg =>
      rw [value, value, ihf fun x hx => h x (List.mem_append_left _ hx),
        ihg fun x hx => h x (List.mem_append_right _ hx)]
  | disjunction f g ihf ihg =>
      rw [value, value, ihf fun x hx => h x (List.mem_append_left _ hx),
        ihg fun x hx => h x (List.mem_append_right _ hx)]

theorem names_apart {f g : Formula} (h : (f.names ++ g.names).Nodup) :
    ∀ x ∈ f.names, x ∉ g.names := by
  intro x hx hy
  exact (List.nodup_append.1 h).2.2 x hx x hy rfl

theorem clauses_nodup {f : Formula} (h : f.names.Nodup) :
    f.clauses.names.Nodup := by
  rw [f.clauses_names]
  exact h

theorem bang_clauses_nodup {f : Formula} (h : f.names.Nodup) :
    (bang f.clauses).names.Nodup := by
  rw [bang_names]
  exact clauses_nodup h

/-- A formula of different names takes both truth values. -/
theorem exists_value {f : Formula} (h : f.names.Nodup) (b : Bool) :
    ∃ ρ, f.value ρ = b := by
  induction f generalizing b with
  | symbol name => exact ⟨fun _ => b, rfl⟩
  | negation f ih =>
      obtain ⟨ρ, hρ⟩ := ih h (!b)
      exact ⟨ρ, by rw [value, hρ, Bool.not_not]⟩
  | conjunction f g ihf ihg =>
      obtain ⟨ρ, hρ⟩ := ihf (List.nodup_append.1 h).1 b
      obtain ⟨σ, hσ⟩ := ihg (List.nodup_append.1 h).2.1 b
      obtain ⟨τ, hf, hg⟩ := exists_merge (names_apart h) ρ σ
      exact ⟨τ, by rw [value, value_congr hf, value_congr hg, hρ, hσ,
        Bool.and_self]⟩
  | disjunction f g ihf ihg =>
      obtain ⟨ρ, hρ⟩ := ihf (List.nodup_append.1 h).1 b
      obtain ⟨σ, hσ⟩ := ihg (List.nodup_append.1 h).2.1 b
      obtain ⟨τ, hf, hg⟩ := exists_merge (names_apart h) ρ σ
      exact ⟨τ, by rw [value, value_congr hf, value_congr hg, hρ, hσ,
        Bool.or_self]⟩

-- ============================================================= necessary

section Apart

variable {f g : Formula} (op : Bool → Bool → Bool)

/-- Clauses one after another, over different names, get their values apart
from each other. -/
theorem append_apart (hnodup : (f.names ++ g.names).Nodup) {cs ds : Clauses}
    (hcs : cs.names = f.names) (hds : ds.names = g.names)
    (h : ∀ τ, (cs ++ ds).value τ = op (f.value τ) (g.value τ))
    (ρ σ : String → Bool) :
    (cs.value ρ || ds.value σ) = op (f.value ρ) (g.value σ) := by
  obtain ⟨τ, hf, hg⟩ := exists_merge (names_apart hnodup) ρ σ
  have hτ := h τ
  have hτcs : ∀ x ∈ cs.names, τ x = ρ x := hcs ▸ hf
  have hτds : ∀ x ∈ ds.names, τ x = σ x := hds ▸ hg
  rw [Clauses.value_append, value_congr hf, value_congr hg,
    Clauses.value_congr hτcs, Clauses.value_congr hτds] at hτ
  exact hτ

/-- So do clauses that are joined in the middle: the parts on both sides of
the place, and the two clauses that meet there. -/
theorem glue_apart (hnodup : (f.names ++ g.names).Nodup) {cs ds : Clauses}
    (hcs : cs.Proper) (hds : ds.Proper) (hf : cs.names = f.names)
    (hg : ds.names = g.names)
    (h : ∀ τ, (glue cs ds).value τ = op (f.value τ) (g.value τ)) :
    ∃ (init : Clauses) (last first : Clause) (rest : Clauses),
      cs = init ++ [last] ∧ ds = first :: rest
      ∧ (last.map Literal.name ++ init.names).Nodup
      ∧ (first.map Literal.name ++ rest.names).Nodup
      ∧ ∀ ρ σ, (init.value ρ || (last.value ρ && first.value σ || rest.value σ))
          = op (f.value ρ) (g.value σ) := by
  obtain ⟨init, last, first, rest, rfl, rfl, hglue, -, -⟩ :=
    hcs.exists_glue hds
  rw [names_append, names_cons] at hf
  rw [names_cons] at hg
  simp only [Clauses.names, List.flatten_nil, List.map_nil,
    List.append_nil] at hf
  rw [← hf, ← hg, List.nodup_append] at hnodup
  refine ⟨init, last, first, rest, rfl, rfl, ?_, hnodup.2.1, fun ρ σ => ?_⟩
  · exact (List.perm_append_comm.nodup_iff).1 hnodup.1
  · have hapart : ∀ x ∈ f.names, x ∉ g.names := by
      rw [← hf, ← hg]
      exact fun x hx hy => hnodup.2.2 x hx x hy rfl
    obtain ⟨τ, hτf, hτg⟩ := exists_merge hapart ρ σ
    obtain ⟨hinit, hlast⟩ := List.forall_mem_append.1 (hf ▸ hτf)
    obtain ⟨hfirst, hrest⟩ := List.forall_mem_append.1 (hg ▸ hτg)
    have hτ := h τ
    rw [hglue, Clauses.value_append, value_cons, Clause.value_append,
      value_congr hτf, value_congr hτg, Clauses.value_congr hinit,
      Clause.value_congr hlast, Clause.value_congr hfirst,
      Clauses.value_congr hrest] at hτ
    exact hτ

end Apart

theorem bang_append {cs : Clauses} (hcs : cs.Proper) (ds : Clauses) :
    bang (cs ++ ds) = bang cs ++ ds := by
  obtain ⟨l, C, rest, rfl⟩ := hcs.exists_cons
  rfl

theorem bang_glue {cs ds : Clauses} (hcs : cs.Proper) (hds : ds.Proper) :
    bang (glue cs ds) = glue (bang cs) ds := by
  obtain ⟨l, C, rest, rfl⟩ := hcs.exists_cons
  cases ds with
  | nil => exact absurd rfl hds.nonempty
  | cons D ds =>
      cases rest with
      | nil => rfl
      | cons B rest => rfl

variable {f g : Formula}

/-- The two sides of a disjunction agree with their clauses if it does. -/
theorem agrees_of_disjunction (hnodup : (f.names ++ g.names).Nodup)
    (h : ∀ ρ, Agrees ρ false (disjunction f g)) :
    (∀ ρ, Agrees ρ false f) ∧ ∀ ρ, Agrees ρ false g := by
  have apart := append_apart or hnodup f.clauses_names g.clauses_names h
  obtain ⟨hnf, hng, -⟩ := List.nodup_append.1 hnodup
  obtain ⟨ρ, hρ⟩ := f.clauses_proper.exists_value (clauses_nodup hnf) false
  obtain ⟨σ, hσ⟩ := g.clauses_proper.exists_value (clauses_nodup hng) false
  -- where no clause holds, neither side of the formula does
  have hfg : (f.value ρ || g.value σ) = false := by
    rw [← apart ρ σ, hρ, hσ, Bool.or_self]
  obtain ⟨hf, hg⟩ := Bool.or_eq_false_iff.1 hfg
  refine ⟨fun τ => ?_, fun τ => ?_⟩
  · have hτ := apart τ σ
    rwa [hσ, hg, Bool.or_false, Bool.or_false] at hτ
  · have hτ := apart ρ τ
    rwa [hρ, hf, Bool.false_or, Bool.false_or] at hτ

/-- A negated disjunction does not agree with its clauses: the second side
still shows through when the sign has made the first part true. -/
theorem not_agrees_disjunction (hnodup : (f.names ++ g.names).Nodup) :
    ¬ ∀ ρ, Agrees ρ true (disjunction f g) := by
  intro h
  have hbang : ∀ τ, (bang f.clauses ++ g.clauses).value τ
      = !(f.value τ || g.value τ) := by
    intro τ
    rw [← bang_append f.clauses_proper]
    exact h τ
  have apart := append_apart (fun a b => !(a || b)) hnodup
    ((bang_names _).trans f.clauses_names) g.clauses_names hbang
  obtain ⟨hnf, hng, -⟩ := List.nodup_append.1 hnodup
  obtain ⟨ρ, hρ⟩ :=
    f.clauses_proper.bang.exists_value (bang_clauses_nodup hnf) true
  obtain ⟨σ, hσ⟩ := exists_value hng true
  have hρσ := apart ρ σ
  rw [hρ, hσ, Bool.or_true] at hρσ
  cases hρσ

/-- The two sides of a conjunction agree with their clauses if it does, and
each shows only one: a clause that the conjunction does not join would hold
by itself. -/
theorem agrees_of_conjunction (hnodup : (f.names ++ g.names).Nodup)
    (h : ∀ ρ, Agrees ρ false (conjunction f g)) :
    ((∃ C, f.clauses = [C]) ∧ ∀ ρ, Agrees ρ false f)
      ∧ (∃ D, g.clauses = [D]) ∧ ∀ ρ, Agrees ρ false g := by
  obtain ⟨init, last, first, rest, hcs, hds, hleft, hright, apart⟩ :=
    glue_apart and hnodup f.clauses_proper g.clauses_proper f.clauses_names
      g.clauses_names h
  have hproperf := f.clauses_proper.clauses
  have hproperg := g.clauses_proper.clauses
  rw [hcs] at hproperf
  rw [hds] at hproperg
  obtain ⟨hnf, hng, -⟩ := List.nodup_append.1 hnodup
  have hinit : init = [] := by
    refine Clauses.eq_nil_of_value
      (fun D hD => hproperf D (List.mem_append_left _ hD))
      (List.nodup_append.1 hleft).2.1 fun ρ => ?_
    obtain ⟨σ, hσ⟩ := exists_value hng false
    have hρσ := apart ρ σ
    rw [hσ, Bool.and_false] at hρσ
    exact (Bool.or_eq_false_iff.1 hρσ).1
  have hrest : rest = [] := by
    refine Clauses.eq_nil_of_value (fun D hD => hproperg D (.tail _ hD))
      (List.nodup_append.1 hright).2.1 fun σ => ?_
    obtain ⟨ρ, hρ⟩ := exists_value hnf false
    have hρσ := apart ρ σ
    rw [hρ, Bool.false_and, ← Bool.or_assoc] at hρσ
    exact (Bool.or_eq_false_iff.1 hρσ).2
  subst hinit
  subst hrest
  have hboth : ∀ ρ σ, (last.value ρ && first.value σ)
      = (f.value ρ && g.value σ) := by
    intro ρ σ
    have hρσ := apart ρ σ
    simpa [Clauses.value] using hρσ
  obtain ⟨ρ, hρ, -⟩ := exists_only hleft (List.forall_mem_nil _)
  obtain ⟨σ, hσ, -⟩ := exists_only hright (List.forall_mem_nil _)
  have hfg : (f.value ρ && g.value σ) = true := by
    rw [← hboth ρ σ, hρ, hσ, Bool.and_self]
  obtain ⟨hf, hg⟩ := Bool.and_eq_true_iff.1 hfg
  refine ⟨⟨⟨last, hcs⟩, fun τ => ?_⟩, ⟨first, hds⟩, fun τ => ?_⟩
  · have hτ := hboth τ σ
    rw [hσ, hg, Bool.and_true, Bool.and_true] at hτ
    rw [Agrees, hcs]
    exact (Clauses.value_singleton τ last).trans hτ
  · have hτ := hboth ρ τ
    rw [hρ, hf, Bool.true_and, Bool.true_and] at hτ
    rw [Agrees, hds]
    exact (Clauses.value_singleton τ first).trans hτ

/-- A negated conjunction does not agree with its clauses. Each side would
have to be false exactly where a clause of its own holds, but the joined
clause can hold alone. -/
theorem not_agrees_conjunction (hnodup : (f.names ++ g.names).Nodup) :
    ¬ ∀ ρ, Agrees ρ true (conjunction f g) := by
  intro h
  have hbang : ∀ τ, (glue (bang f.clauses) g.clauses).value τ
      = !(f.value τ && g.value τ) := by
    intro τ
    rw [← bang_glue f.clauses_proper g.clauses_proper]
    exact h τ
  obtain ⟨init, last, first, rest, hcs, hds, hleft, hright, apart⟩ :=
    glue_apart (fun a b => !(a && b)) hnodup f.clauses_proper.bang
      g.clauses_proper ((bang_names _).trans f.clauses_names) g.clauses_names
      hbang
  have hproperf := f.clauses_proper.bang.clauses
  have hproperg := g.clauses_proper.clauses
  obtain ⟨hnf, hng, -⟩ := List.nodup_append.1 hnodup
  -- no clause of the first side holds at `ρ`, none of the second at `σ`
  obtain ⟨ρ, hρ⟩ :=
    f.clauses_proper.bang.exists_value (bang_clauses_nodup hnf) false
  obtain ⟨σ, hσ⟩ := g.clauses_proper.exists_value (clauses_nodup hng) false
  rw [hcs] at hproperf hρ
  rw [hds] at hproperg hσ
  rw [Clauses.value_append, Clauses.value_singleton,
    Bool.or_eq_false_iff] at hρ
  rw [value_cons, Bool.or_eq_false_iff] at hσ
  have hfg : (f.value ρ && g.value σ) = true := by
    have hρσ := apart ρ σ
    rw [hρ.1, hρ.2, hσ.2, Bool.false_and, Bool.or_self, Bool.or_self] at hρσ
    exact (Bool.not_eq_eq_eq_not.1 hρσ.symm)
  obtain ⟨hf, hg⟩ := Bool.and_eq_true_iff.1 hfg
  have hleft_only : ∀ τ, init.value τ = !f.value τ := by
    intro τ
    have hτ := apart τ σ
    rwa [hσ.1, hσ.2, hg, Bool.and_false, Bool.or_self, Bool.or_false,
      Bool.and_true] at hτ
  have hright_only : ∀ τ, rest.value τ = !g.value τ := by
    intro τ
    have hτ := apart ρ τ
    rwa [hρ.1, hρ.2, hf, Bool.false_and, Bool.false_or, Bool.false_or,
      Bool.true_and] at hτ
  -- the joined clause holds alone
  obtain ⟨ρ', hlast, hinit⟩ := exists_only hleft
    fun D hD => hproperf D (List.mem_append_left _ hD)
  obtain ⟨σ', hfirst, hrest⟩ := exists_only hright
    fun D hD => hproperg D (.tail _ hD)
  have hjoined := apart ρ' σ'
  have hf' := hleft_only ρ'
  have hg' := hright_only σ'
  rw [hinit] at hf'
  rw [hrest] at hg'
  rw [hlast, hfirst, hinit, hrest, Bool.not_and, ← hf', ← hg'] at hjoined
  cases hjoined

/-- A faithful formula that shows one clause is faithful inside a
conjunction. -/
theorem FaithfulAt.within {odd : Bool} {f : Formula}
    (h : FaithfulAt odd false f) (hone : ∃ C, f.clauses = [C]) :
    FaithfulAt odd true f := by
  induction f generalizing odd with
  | symbol name => trivial
  | negation f ih =>
      refine ih h ?_
      obtain ⟨C, hC⟩ := hone
      obtain ⟨l, D, rest, hf⟩ := f.clauses_proper.exists_cons
      rw [clauses, hf] at hC
      injection hC with _ hrest
      subst hrest
      exact ⟨_, hf⟩
  | conjunction f g _ _ => exact h
  | disjunction f g _ _ =>
      obtain ⟨C, hC⟩ := hone
      obtain ⟨l, A, rest, hf⟩ := f.clauses_proper.exists_cons
      obtain ⟨m, B, rest', hg⟩ := g.clauses_proper.exists_cons
      rw [clauses, hf, hg] at hC
      simp at hC

/-- A formula of different names that agrees with its clauses is
faithful. -/
theorem faithfulAt_of_agrees {odd : Bool} {f : Formula}
    (hnodup : f.names.Nodup) (h : ∀ ρ, Agrees ρ odd f) :
    FaithfulAt odd false f := by
  induction f generalizing odd with
  | symbol name => trivial
  | negation f ih =>
      exact ih hnodup fun ρ => (agrees_negation ρ odd f).1 (h ρ)
  | conjunction f g ihf ihg =>
      cases odd with
      | true => exact absurd h (not_agrees_conjunction hnodup)
      | false =>
          obtain ⟨⟨honef, hf⟩, honeg, hg⟩ := agrees_of_conjunction hnodup h
          obtain ⟨hnf, hng, -⟩ := List.nodup_append.1 hnodup
          exact ⟨rfl, (ihf hnf hf).within honef, (ihg hng hg).within honeg⟩
  | disjunction f g ihf ihg =>
      cases odd with
      | true => exact absurd h (not_agrees_disjunction hnodup)
      | false =>
          obtain ⟨hf, hg⟩ := agrees_of_disjunction hnodup h
          obtain ⟨hnf, hng, -⟩ := List.nodup_append.1 hnodup
          exact ⟨rfl, rfl, ihf hnf hf, ihg hng hg⟩

end Formula

end FormScript
