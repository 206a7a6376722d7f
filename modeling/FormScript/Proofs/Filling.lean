/-
Templates filled with values that correspond. A relation between trees that goes
with building containers and with taking them apart at splices is kept by filling:
one template, filled from two supplies with related values, gives related trees,
or fails for both with the same class of failure (`Supply.fill_both`).

So a template form expands trees that are the same in some spelling to such trees,
whatever the spelling (`CustomForm.IsTemplate.respects`).

Dictionaries are left out of templates here: they are built anew from the filled
pairs, and which of these collapse depends on more than a relation between values.
-/
import FormScript.Proofs.Respelling.Emission

namespace FormScript

/-- A node that is regular and no dictionary. -/
def Node.isUnkeyed : Node → Bool
  | .map .dictionary _ => false
  | n => n.isRegular

-- ============================================================= relations

/-- The items that a node stands for at a splice. -/
def Node.splicedItems? : Node → Option (List Node)
  | .form items => some items
  | .seq _ items => some items
  | _ => none

/-- A relation that containers have if their items do, and that the items of a
splice have if their containers do. -/
structure Node.Congruence (R : Node → Node → Prop) : Prop where
  form {items items' : List Node} : List.Forall₂ R items items' → R (.form items) (.form items')
  seq {kind : SeqKind} {items items' : List Node} :
    List.Forall₂ R items items' → R (.seq kind items) (.seq kind items')
  object {pairs pairs' : List (Node × Node)} :
    List.Forall₂ (fun p q => R p.1 q.1 ∧ R p.2 q.2) pairs pairs' →
      R (.map .object pairs) (.map .object pairs')
  spliced {n n' : Node} : R n n' →
    Option.Rel (List.Forall₂ R) n.splicedItems? n'.splicedItems?

/-- Two ways to fill that use up related values and end alike: with results that
correspond, or with failures of one class. -/
def FillM.Agree {α β : Type} (R : Node → Node → Prop) (S : α → β → Prop)
    (m : FillM α) (m' : FillM β) : Prop :=
  ∀ left left', List.Forall₂ R left left' →
    Both (Error.Alike False) (fun x y => S x.1 y.1 ∧ List.Forall₂ R x.2 y.2) (m left) (m' left')

namespace FillM

variable {α β γ δ : Type} {R : Node → Node → Prop} {S : α → β → Prop} {T : γ → δ → Prop}

theorem pure_agree {a : α} {b : β} (h : S a b) :
    Agree R S (pure a : FillM α) (pure b : FillM β) :=
  fun _ _ hleft => .ok ⟨h, hleft⟩

theorem bind_agree {m : FillM α} {m' : FillM β} {f : α → FillM γ} {f' : β → FillM δ}
    (hm : Agree R S m m') (hf : ∀ a b, S a b → Agree R T (f a) (f' b)) :
    Agree R T (m >>= f) (m' >>= f') :=
  fun left left' hleft => (hm left left' hleft).bind fun x y hxy => hf x.1 y.1 hxy.1 _ _ hxy.2

theorem refuse_agree (cause cause' : TemplateError) :
    Agree R S (Supply.refuse cause : FillM α) (Supply.refuse cause' : FillM β) :=
  fun _ _ _ => .error ⟨rfl, False.elim⟩

end FillM

-- =============================================================== filling

namespace Supply

variable {R : Node → Node → Prop} {s s' : Supply}

/-- Values under the same names that are related. -/
def NamedRelated (R : Node → Node → Prop) : Bindings → Bindings → Prop :=
  List.Forall₂ fun b b' => b.1 = b'.1 ∧ R b.2 b'.2

/-- Two supplies of related values, in the same places and under the same names. -/
structure Related (R : Node → Node → Prop) (s s' : Supply) : Prop where
  positional : List.Forall₂ R s.positional s'.positional
  named : NamedRelated R s.named s'.named

theorem NamedRelated.binds {b b' : Bindings} (h : NamedRelated R b b') (name : String) :
    b.binds name = b'.binds name := by
  unfold Bindings.binds
  induction h with
  | nil => rfl
  | cons hb _ ih => rw [List.any_cons, List.any_cons, hb.1, ih]

theorem NamedRelated.lookup {b b' : Bindings} (h : NamedRelated R b b') (name : String) :
    Option.Rel R (b.lookup name) (b'.lookup name) := by
  induction h with
  | nil => exact .none
  | @cons x y _ _ hxy _ ih =>
      rw [List.lookup_cons, List.lookup_cons, hxy.1]
      split
      · exact .some hxy.2
      · exact ih

theorem NamedRelated.get? {b b' : Bindings} (h : NamedRelated R b b') (name : String) :
    Option.Rel R (b.get? name) (b'.get? name) :=
  NamedRelated.lookup (List.rel_reverse h) name

theorem valueFor_agree (h : Related R s s') (hole : Hole) :
    FillM.Agree R R (s.valueFor hole) (s'.valueFor hole) := by
  unfold valueFor
  cases hole.name with
  | some name =>
      have hget := h.named.get? name
      simp only
      generalize s.named.get? name = value at hget ⊢
      generalize s'.named.get? name = value' at hget ⊢
      cases hget with
      | none => exact FillM.refuse_agree _ _
      | some hvalue => exact FillM.pure_agree hvalue
  | none =>
      intro left left' hleft
      cases hleft with
      | nil => exact .error ⟨rfl, False.elim⟩
      | cons hvalue hrest => exact .ok ⟨hvalue, hrest⟩

theorem spliced_eq (hole : Hole) (n : Node) :
    spliced hole n = match n.splicedItems? with
      | some items => pure items
      | none => refuse (.notSequence hole n) := by
  cases n <;> rfl

theorem spliced_agree (hR : Node.Congruence R) (hole : Hole) {n n' : Node} (h : R n n') :
    FillM.Agree R (List.Forall₂ R) (spliced hole n) (spliced hole n') := by
  have hitems := hR.spliced h
  rw [spliced_eq, spliced_eq]
  generalize n.splicedItems? = items at hitems ⊢
  generalize n'.splicedItems? = items' at hitems ⊢
  cases hitems with
  | none => exact FillM.refuse_agree _ _
  | some hitems => exact FillM.pure_agree hitems

theorem fillItems_agree (hR : Node.Congruence R) (h : Related R s s') {items : List Node}
    (hitems : ∀ n ∈ items, FillM.Agree R R (s.fillNode n) (s'.fillNode n)) :
    FillM.Agree R (List.Forall₂ R) (s.fillItems items) (s'.fillItems items) := by
  induction items with
  | nil => exact FillM.pure_agree .nil
  | cons n rest ih =>
      have hrest := ih fun m hm => hitems m (.tail _ hm)
      cases n with
      | hole hole =>
          refine FillM.bind_agree (valueFor_agree h hole) fun value value' hvalue => ?_
          have hrest' : ∀ ms ms', List.Forall₂ R ms ms' →
              FillM.Agree R (List.Forall₂ R) (s.fillItems rest >>= fun ns => pure (ms ++ ns))
                (s'.fillItems rest >>= fun ns => pure (ms' ++ ns)) := fun ms ms' hms =>
            FillM.bind_agree hrest fun ns ns' hns => FillM.pure_agree (List.rel_append hms hns)
          cases hole.splice with
          | true => exact FillM.bind_agree (spliced_agree hR hole hvalue) hrest'
          | false => exact FillM.bind_agree (FillM.pure_agree (.cons hvalue .nil)) hrest'
      | _ =>
          exact FillM.bind_agree (hitems _ (.head _)) fun m m' hm =>
            FillM.bind_agree hrest fun ms ms' hms => FillM.pure_agree (.cons hm hms)

theorem fillPairs_agree {pairs : List (Node × Node)}
    (hpairs : ∀ q ∈ pairs, FillM.Agree R R (s.fillNode q.1) (s'.fillNode q.1)
      ∧ FillM.Agree R R (s.fillNode q.2) (s'.fillNode q.2)) :
    FillM.Agree R (List.Forall₂ fun q q' => R q.1 q'.1 ∧ R q.2 q'.2)
      (s.fillPairs pairs) (s'.fillPairs pairs) := by
  induction pairs with
  | nil => exact FillM.pure_agree .nil
  | cons q rest ih =>
      obtain ⟨hkey, hvalue⟩ := hpairs q (.head _)
      have hrest := ih fun m hm => hpairs m (.tail _ hm)
      exact FillM.bind_agree hkey fun k k' hk => FillM.bind_agree hvalue fun v v' hv =>
        FillM.bind_agree hrest fun ps ps' hps => FillM.pure_agree (.cons ⟨hk, hv⟩ hps)

/-- Filling a template keeps a congruence that its own nodes have with themselves. -/
theorem fillNode_agree (hR : Node.Congruence R) (hrefl : ∀ n, n.every Node.isUnkeyed → R n n)
    (h : Related R s s') {t : Node} (ht : t.every Node.isUnkeyed) :
    FillM.Agree R R (s.fillNode t) (s'.fillNode t) := by
  induction t using Node.children_induction with
  | step t ih =>
      obtain ⟨hroot, hchildren⟩ := Node.every_iff.1 ht
      have hfilled : ∀ m ∈ t.children, FillM.Agree R R (s.fillNode m) (s'.fillNode m) :=
        fun m hm => ih m hm (hchildren m hm)
      cases t with
      | hole hole =>
          unfold fillNode
          split
          · exact FillM.refuse_agree _ _
          · exact valueFor_agree h hole
      | form items =>
          exact FillM.bind_agree (fillItems_agree hR h hfilled) fun ms ms' hms =>
            FillM.pure_agree (hR.form hms)
      | seq kind items =>
          exact FillM.bind_agree (fillItems_agree hR h hfilled) fun ms ms' hms =>
            FillM.pure_agree (hR.seq hms)
      | map kind pairs =>
          cases kind with
          | object =>
              have hpairs : ∀ q ∈ pairs, FillM.Agree R R (s.fillNode q.1) (s'.fillNode q.1)
                  ∧ FillM.Agree R R (s.fillNode q.2) (s'.fillNode q.2) := fun q hq =>
                ⟨hfilled q.1 (List.mem_flatMap.2 ⟨q, hq, by simp⟩),
                  hfilled q.2 (List.mem_flatMap.2 ⟨q, hq, by simp⟩)⟩
              exact FillM.bind_agree (fillPairs_agree hpairs) fun ps ps' hps =>
                FillM.pure_agree (hR.object hps)
          | dictionary => cases hroot
      | _ => exact FillM.pure_agree (hrefl _ ht)

/-- One template, filled from two related supplies. -/
theorem fill_both (hR : Node.Congruence R) (hrefl : ∀ n, n.every Node.isUnkeyed → R n n)
    (h : Related R s s') {t : Node} (ht : t.every Node.isUnkeyed) :
    Both (Error.Alike False) R (s.fill t) (s'.fill t) := by
  unfold fill
  rw [h.named.binds]
  split
  · exact .error (Error.alike_refl _)
  · refine (fillNode_agree hR hrefl h ht _ _ h.positional).bind ?_
    rintro ⟨t, left⟩ ⟨t', left'⟩ ⟨htrees, hleft⟩
    cases hleft with
    | nil => exact .ok htrees
    | cons => exact .error ⟨rfl, False.elim⟩

end Supply

-- ========================================================= template forms

theorem Params.bind_related {R : Node → Node → Prop} (hR : Node.Congruence R) (params : Params)
    {args args' : List Node} (h : List.Forall₂ R args args') :
    Supply.NamedRelated R (params.bind args) (params.bind args') := by
  have hfixed (names : List String) :
      Supply.NamedRelated R (names.zip args) (names.zip args') := by
    induction names generalizing args args' with
    | nil => exact .nil
    | cons name names ih =>
        cases h with
        | nil => exact .nil
        | cons harg hargs => exact .cons ⟨rfl, harg⟩ (ih hargs)
  refine List.rel_append (hfixed params.fixed) ?_
  cases params.rest with
  | none => exact .nil
  | some rest => exact .cons ⟨rfl, hR.seq (List.forall₂_drop _ h)⟩ .nil

theorem CustomForm.expandTemplate_both {R : Node → Node → Prop} (hR : Node.Congruence R)
    (hrefl : ∀ n, n.every Node.isUnkeyed → R n n) {body : Node} (hbody : body.every Node.isUnkeyed)
    (name : String) (params : Params) {args args' : List Node} (h : List.Forall₂ R args args') :
    Both (Error.Alike False) R (expandTemplate name params body args)
      (expandTemplate name params body args') := by
  unfold expandTemplate
  rw [h.length_eq]
  split
  · exact Supply.fill_both hR hrefl ⟨.nil, params.bind_related hR h⟩ hbody
  · exact .error (Error.alike_refl _)

-- ============================================================== spelling

namespace Node

variable {ρ : Respelling}

theorem splicedItems?_respell (n : Node) :
    (n.respell ρ).splicedItems? = n.splicedItems?.map (·.map (·.respell ρ)) := by
  cases n with
  | form items | seq kind items => simp [splicedItems?]
  | _ => rfl

theorem children_of_splicedItems? {n : Node} {items : List Node}
    (h : n.splicedItems? = some items) : n.children = items := by
  cases n with
  | form | seq => exact Option.some.inj h
  | _ => cases h

/-- Variants of the items of a list, one by one. -/
theorem forall₂_variants {p : Node → Bool} {items items' : List Node}
    (h : items.map (·.respell ρ) = items'.map (·.respell ρ)) (hleft : ∀ n ∈ items, n.every p)
    (hright : ∀ n ∈ items', n.every p) : List.Forall₂ (Variants ρ p) items items' := by
  induction items generalizing items' with
  | nil =>
      rw [List.map_nil, eq_comm, List.map_eq_nil_iff] at h
      rw [h]
      exact .nil
  | cons n rest ih =>
      rw [List.map_cons, eq_comm, List.map_eq_cons_iff] at h
      obtain ⟨n', rest', rfl, hn, hrest⟩ := h
      exact .cons ⟨hn.symm, hleft n (.head _), hright n' (.head _)⟩
        (ih hrest.symm (fun m hm => hleft m (.tail _ hm)) fun m hm => hright m (.tail _ hm))

theorem of_forall₂_variants {p : Node → Bool} {items items' : List Node}
    (h : List.Forall₂ (Variants ρ p) items items') :
    items.map (·.respell ρ) = items'.map (·.respell ρ)
      ∧ (∀ n ∈ items, n.every p) ∧ ∀ n ∈ items', n.every p := by
  induction h with
  | nil => simp
  | cons hn _ ih =>
      obtain ⟨hrest, hleft, hright⟩ := ih
      refine ⟨?_, List.forall_mem_cons.2 ⟨hn.left, hleft⟩,
        List.forall_mem_cons.2 ⟨hn.right, hright⟩⟩
      rw [List.map_cons, List.map_cons, hn.spelling, hrest]

/-- Variants stand for variants at a splice, or neither stands for anything. -/
theorem Variants.splicedItems? {p : Node → Bool} {n n' : Node} (h : n.Variants ρ p n') :
    Option.Rel (List.Forall₂ (Variants ρ p)) n.splicedItems? n'.splicedItems? := by
  have hspelling := n.splicedItems?_respell (ρ := ρ)
  rw [h.spelling, splicedItems?_respell] at hspelling
  cases hitems : n.splicedItems? with
  | none =>
      rw [hitems] at hspelling
      rw [Option.map_eq_none_iff.1 hspelling]
      exact .none
  | some items =>
      rw [hitems] at hspelling
      obtain ⟨items', hitems', heq⟩ := Option.map_eq_some_iff.1 hspelling
      rw [hitems']
      refine .some (forall₂_variants heq.symm ?_ ?_)
      · rw [← children_of_splicedItems? hitems]
        exact (every_iff.1 h.left).2
      · rw [← children_of_splicedItems? hitems']
        exact (every_iff.1 h.right).2

/-- Variants make variants of containers, and containers are variants by having
variants as items. -/
theorem variants_congruence : Congruence (Variants ρ isUnkeyed) where
  form h := by
    obtain ⟨hspelling, hleft, hright⟩ := of_forall₂_variants h
    exact ⟨by simp [hspelling], every_iff.2 ⟨rfl, hleft⟩, every_iff.2 ⟨rfl, hright⟩⟩
  seq h := by
    obtain ⟨hspelling, hleft, hright⟩ := of_forall₂_variants h
    exact ⟨by simp [hspelling], every_iff.2 ⟨rfl, hleft⟩, every_iff.2 ⟨rfl, hright⟩⟩
  object {pairs pairs'} h := by
    have hspelling : pairs.map (fun q => (q.1.respell ρ, q.2.respell ρ))
        = pairs'.map fun q => (q.1.respell ρ, q.2.respell ρ) := by
      induction h with
      | nil => rfl
      | cons hq _ ih =>
          rw [List.map_cons, List.map_cons, hq.1.spelling, hq.2.spelling, ih]
    have hchildren : List.Forall₂ (Variants ρ isUnkeyed) (children (.map .object pairs))
        (children (.map .object pairs')) :=
      List.rel_flatMap h fun q q' hq => .cons hq.1 (.cons hq.2 .nil)
    obtain ⟨-, hleft, hright⟩ := of_forall₂_variants hchildren
    exact ⟨by simp [hspelling], every_iff.2 ⟨rfl, hleft⟩, every_iff.2 ⟨rfl, hright⟩⟩
  spliced h := h.splicedItems?

end Node

/-- A template form: its body has a property at every place. -/
def CustomForm.IsTemplate (p : Node → Bool) (form : CustomForm) : Prop :=
  ∃ name params body doc, template name params body doc = .ok form ∧ body.every p

/-- Template forms without dictionaries respect every spelling. -/
theorem CustomForm.IsTemplate.respects {ρ : Respelling} {form : CustomForm}
    (h : form.IsTemplate Node.isUnkeyed) : form.Respects ρ Node.isUnkeyed False := by
  obtain ⟨name, params, body, doc, hform, hbody⟩ := h
  unfold template at hform
  split at hform
  · cases hform
  · rename_i parsed _
    cases hform
    intro stamp args args' hspelling hleft hright
    exact expandTemplate_both Node.variants_congruence (fun n hn => ⟨rfl, hn, hn⟩) hbody name
      parsed (Node.forall₂_variants hspelling hleft hright)

end FormScript
