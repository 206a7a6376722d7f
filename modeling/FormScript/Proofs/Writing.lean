/-
Writing without effects. Much of a tree is written the same way whatever
the settings, the levels of expansion left and the state of the run are,
and leaves that state as it was: names, literals, operators, calls.
`Node.Written n t` says so of a node `n` and its text `t`, custom forms
aside. The lemmas here carry it from the children of a node to the node,
through the ways in which layouts are put together.

`Node.text` names the text that a node has in this sense; it is only
meaningful for nodes that are written without effects.
-/
import FormScript.Proofs.Emission

namespace FormScript

-- ================================================================= yields

/-- A computation that succeeds from every state with the same text and
changes nothing. -/
def EmitM.Yields (m : EmitM String) (t : String) : Prop :=
  ∀ r, m r = .ok t r

namespace Layout

variable {dedupe : Bool} {write : Node → EmitM String}

theorem text_yields (t : String) : ((text t).run dedupe write).Yields t :=
  fun _ => rfl

theorem item_yields {n : Node} {t : String} (h : (write n).Yields t) :
    ((item n).run dedupe write).Yields t :=
  fun r => run_item_ok_iff.2 (h r)

theorem append_yields {a b : Layout} {x y : String}
    (ha : (a.run dedupe write).Yields x) (hb : (b.run dedupe write).Yields y) :
    ((append a b).run dedupe write).Yields (x ++ y) := by
  intro r
  exact run_append_ok_iff.2 ⟨x, r, y, ha r, hb r, rfl⟩

/-- Parts with a separator between them yield their texts with the
separator between them. -/
theorem join_yields {α : Type} {g : α → Layout} {f : α → String}
    {xs : List α} (h : ∀ x ∈ xs, ((g x).run dedupe write).Yields (f x))
    (sep : String) :
    ((join sep (xs.map g)).run dedupe write).Yields
      (sep.intercalate (xs.map f)) := by
  induction xs with
  | nil => exact text_yields ""
  | cons x xs ih =>
      have hx := h x (.head _)
      have hxs := ih fun y hy => h y (.tail _ hy)
      cases xs with
      | nil =>
          rw [List.map_singleton, List.map_singleton,
            String.intercalate_singleton]
          exact hx
      | cons y xs =>
          simp only [List.map_cons, String.intercalate_cons_cons,
            String.append_assoc] at hxs ⊢
          exact append_yields hx (append_yields (text_yields sep) hxs)

theorem joinNodes_yields {f : Node → String} {ns : List Node}
    (h : ∀ n ∈ ns, (write n).Yields (f n)) (sep : String) :
    ((joinNodes sep ns).run dedupe write).Yields
      (sep.intercalate (ns.map f)) :=
  join_yields (g := .item) (fun n hn => item_yields (h n hn)) sep

/-- A layout between two fixed texts. -/
theorem between_yields {l : Layout} {x : String}
    (h : (l.run dedupe write).Yields x) (opening closing : String) :
    ((seq [.text opening, l, .text closing]).run dedupe write).Yields
      (opening ++ x ++ closing) := by
  rw [String.append_assoc]
  exact append_yields (text_yields opening)
    (append_yields h (text_yields closing))

end Layout

-- ================================================================ written

namespace Node

/-- The text of a node where there are no custom forms, if it is written
without effects. -/
def text (n : Node) : String :=
  match Emitter.emitAt {} 0 n {} with
  | .ok t _ => t
  | .error _ _ => ""

/-- A node has a text of its own: every emitter without custom forms writes
it so, from every state and without changing it. -/
def Written (n : Node) (t : String) : Prop :=
  ∀ (e : Emitter) (levels : Nat), e.forms = .empty →
    (e.emitAt levels n).Yields t

theorem customCall?_empty (n : Node) : Registry.empty.customCall? n = none := by
  unfold Registry.customCall?
  split
  · split <;> rfl
  · rfl

/-- A node has the text that its layout yields. -/
theorem written_of_layout {n : Node} {t : String}
    (h : ∀ (e : Emitter) (levels : Nat), e.forms = .empty →
      (n.layout.run e.config.dedupe (e.emitAt levels)).Yields t) :
    n.Written t := by
  intro e levels he
  have hcall : e.forms.customCall? n = none := he ▸ customCall?_empty n
  rw [e.emitAt_of_not_custom hcall]
  exact h e levels he

theorem Written.text_eq {n : Node} {t : String} (h : n.Written t) :
    n.text = t := by
  have hrun : Emitter.emitAt {} 0 n {} = .ok t {} := h {} 0 rfl {}
  rw [text, hrun]

/-- A node that has a text has the text that is named. -/
theorem Written.written_text {n : Node} {t : String} (h : n.Written t) :
    n.Written n.text := by
  rw [h.text_eq]
  exact h

/-- A fixed text is written as it is. -/
theorem written_of_layout_text {n : Node} {t : String}
    (h : n.layout = .text t) : n.Written t := by
  refine written_of_layout fun e levels _ => ?_
  rw [h]
  exact Layout.text_yields t

/-- A symbol with a valid name is written as its name. -/
theorem written_sym {id : Ident} (h : isIdentifier id.name) :
    (sym id).Written id.name := by
  refine written_of_layout_text ?_
  show Layout.ident id.text id = .text id.name
  rw [Layout.ident, if_pos h]

end Node

end FormScript
