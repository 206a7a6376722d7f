/-
Which template forms can be used. A body is made for some parameters (`Node.MadeFor`) if
its holes bear their names and its splices the name of the rest parameter, each among the
items of a form or a sequence. Whatever the names are, also if some are repeated or the
rest parameter is called like a fixed one, such a body is filled by every list of
arguments that the form takes: a hole has at least one argument bound to its name, and of
several values for a name the last counts, which for a splice is the list of the remaining
arguments.

One name is an exception. Filling keeps it for itself, but reading a parameter list does
not refuse it, so a form with a parameter of this name is defined and then fails whatever
it is given (`CustomForm.template_usable_iff`).
-/
import FormScript.Proofs.Filling.TemplateForms

namespace FormScript

-- =================================================================== keys

namespace Supply

variable {s : Supply}

theorem keysIn_eq_nil {items : List Node} (h : ∀ n ∈ items, ∀ index, s.keys index n = [])
    (index : Nat) : s.keysIn index items = [] := by
  induction items generalizing index with
  | nil => rfl
  | cons n rest ih =>
      rw [keysIn, h n (.head _), ih fun m hm => h m (.tail _ hm)]
      rfl

theorem keysInPairs_eq_nil {pairs : List (Node × Node)}
    (h : ∀ q ∈ pairs, ∀ index, s.keys index q.1 = [] ∧ s.keys index q.2 = []) (index : Nat) :
    s.keysInPairs index pairs = [] := by
  induction pairs generalizing index with
  | nil => rfl
  | cons q rest ih =>
      obtain ⟨k, v⟩ := q
      rw [keysInPairs, (h (k, v) (.head _) _).1, (h (k, v) (.head _) _).2,
        ih fun m hm => h m (.tail _ hm)]
      rfl

/-- Without dictionaries there is nothing to be a key. -/
theorem keys_eq_nil {t : Node} (h : t.every (!·.isDictionary)) (index : Nat) :
    s.keys index t = [] := by
  induction t using Node.children_induction generalizing index with
  | step t ih =>
      obtain ⟨hself, hchildren⟩ := Node.every_iff.1 h
      have hbelow : ∀ n ∈ t.children, ∀ index, s.keys index n = [] := fun n hn index =>
        ih n hn (hchildren n hn) index
      cases t with
      | form items => exact keysIn_eq_nil hbelow index
      | seq kind items => exact keysIn_eq_nil hbelow index
      | map kind pairs =>
          cases kind with
          | dictionary => cases hself
          | object =>
              apply keysInPairs_eq_nil
              intro q hq i
              exact ⟨hbelow _ (Node.mem_children_of_mem .object hq).1 i,
                hbelow _ (Node.mem_children_of_mem .object hq).2 i⟩
      | _ => rfl

/-- A supply that serves a template without dictionaries, and has no positional values,
fills it. -/
theorem fill_of_serves {b : Bindings} {t : Node} (hname : b.binds reservedName = false)
    (hserves : b.supply.Serves 0 t.slots) (ht : t.every (!·.isDictionary)) :
    b.supply.fill t = .ok (b.supply.replace 0 t) := by
  have hkeys : Hashable (b.supply.keys 0 t) := by
    rw [keys_eq_nil ht]
    exact List.forall_mem_nil _
  apply fill_ok_iff.2
  refine ⟨hname, (b.supply.replaces t 0 _ _).2 ⟨hserves, hkeys, rfl, ?_⟩⟩
  exact List.drop_nil.symm

theorem fill_of_reserved (h : s.named.binds reservedName) (t : Node) :
    s.fill t = .error (.host .reservedName) := by
  unfold fill
  rw [h]
  rfl

end Supply

-- ============================================================= parameters

namespace Params

variable {p : Params} {args : List Node} {name : String}

theorem binds_bind (h : p.fixed.length ≤ args.length) :
    (p.bind args).binds name ↔ name ∈ p.names := by
  rw [← keys_bind h, Bindings.binds, List.any_eq_true, List.mem_map]
  simp only [beq_iff_eq]

/-- The marker of the rest parameter is no name, so any other name is listed exactly if it
is that of a parameter. -/
theorem mem_listed_iff (h : name ≠ restMarker) : name ∈ p.listed ↔ name ∈ p.names := by
  unfold listed names
  cases p.rest with
  | none => simp
  | some rest => simp [h]

/-- The rest parameter is bound last, so its value is the list of the remaining arguments,
whatever the other names are. -/
theorem get?_bind_last (h : p.rest = some name) :
    (p.bind args).get? name = some (.seq .list (args.drop p.fixed.length)) := by
  rw [bind, h, Bindings.get?, List.reverse_append]
  exact List.lookup_cons_self

end Params

-- ================================================================= bodies

/-- A template made for some parameters: every hole bears the name of one of them, every
splice bears that of the rest parameter and stands among the items of a form or a
sequence, and there is no dictionary. -/
structure Node.MadeFor (p : Params) (body : Node) : Prop where
  named : ∀ slot ∈ body.slots, ∃ name ∈ p.names, slot.hole.name = some name
  splices : ∀ slot ∈ body.slots, slot.hole.splice → slot.listed ∧ slot.hole.name = p.rest
  plain : body.every (!·.isDictionary)

namespace CustomForm

variable {p : Params} {body : Node} {args : List Node}

/-- Each hole of the body is served on its own, all of them being named. -/
theorem serves_of_madeFor (hbody : body.MadeFor p) (h : p.fixed.length ≤ args.length) :
    (p.bind args).supply.Serves 0 body.slots := by
  apply Supply.serves_iff.2
  intro i slot hslot
  have hmem := List.mem_of_getElem? hslot
  obtain ⟨name, hname, hhole⟩ := hbody.named slot hmem
  have hbound : ((p.bind args).get? name).isSome := by
    rw [Bindings.get?_isSome]
    exact (Params.binds_bind h).2 hname
  obtain ⟨value, hvalue⟩ := Option.isSome_iff_exists.1 hbound
  refine ⟨value, ?_, ?_⟩
  · unfold Supply.valueAt
    rw [hhole]
    exact hvalue
  · intro hsplice
    obtain ⟨hlisted, hrest⟩ := hbody.splices slot hmem hsplice
    rw [Params.get?_bind_last (hrest.symm.trans hhole)] at hvalue
    cases hvalue
    exact ⟨hlisted, rfl⟩

/-- A form whose body is made for its parameters is used with any arguments that it takes,
whatever its parameters are called, unless one of them has the reserved name: then it
always fails, although it has been defined. -/
theorem template_usable_iff {names : List String} (hparse : Params.parse names = .ok p)
    (hbody : body.MadeFor p) (name doc : String) :
    ∃ form, template name names body doc = .ok form
      ∧ ∀ stamp args, ¬p.Misfits args.length →
        (reservedName ∉ names →
          form.expand stamp args = .ok ((p.bind args).supply.replace 0 body))
        ∧ (reservedName ∈ names → form.expand stamp args = .error (.host .reservedName)) := by
  have hlisted : reservedName ∈ names ↔ reservedName ∈ p.names := by
    rw [← (Params.parse_eq_ok_iff.1 hparse).2]
    exact Params.mem_listed_iff (by decide)
  refine ⟨_, template_of_parse hparse doc, ?_⟩
  intro stamp args hfits
  have hlength := Params.length_le_of_not_misfits hfits
  have hbinds : (p.bind args).binds reservedName ↔ reservedName ∈ names := by
    rw [Params.binds_bind hlength, hlisted]
  constructor
  · intro hreserved
    have hname : (p.bind args).binds reservedName = false :=
      Bool.eq_false_iff.2 (mt hbinds.1 hreserved)
    exact (expandTemplate_of_not_misfits hfits).trans
      (Supply.fill_of_serves hname (serves_of_madeFor hbody hlength) hbody.plain)
  · intro hreserved
    exact (expandTemplate_of_not_misfits hfits).trans
      (Supply.fill_of_reserved (hbinds.2 hreserved) body)

/-- Two fixed parameters and the rest parameter, all of one name. -/
def namesakes : Params where
  fixed := ["x", "x"]
  rest := some "x"

/-- A call with a hole and, in a vector, a splice of that name. -/
def namesakeBody : Node :=
  .form [.sym ⟨"f", none⟩, .hole ⟨some "x", false⟩, .seq .vector [.hole ⟨some "x", true⟩]]

/-- Both stand for the remaining arguments. -/
theorem namesakes_usable :
    Params.parse ["x", "x", "&rest", "x"] = .ok namesakes ∧ namesakeBody.MadeFor namesakes
      ∧ ∃ form, template "pick" ["x", "x", "&rest", "x"] namesakeBody = .ok form
        ∧ form.expand 0 [.int 1, .int 2, .int 3]
          = .ok (.form [.sym ⟨"f", none⟩, .seq .list [.int 3], .seq .vector [.int 3]]) := by
  have hparse : Params.parse ["x", "x", "&rest", "x"] = .ok namesakes := rfl
  have hbody : namesakeBody.MadeFor namesakes := by
    refine ⟨?_, ?_, rfl⟩
    · exact List.forall_mem_cons.2 ⟨⟨"x", by decide, rfl⟩,
        List.forall_mem_singleton.2 ⟨"x", by decide, rfl⟩⟩
    · exact List.forall_mem_cons.2 ⟨fun h => absurd h Bool.false_ne_true,
        List.forall_mem_singleton.2 fun _ => ⟨rfl, rfl⟩⟩
  obtain ⟨form, hform, hexpand⟩ := template_usable_iff hparse hbody "pick" ""
  exact ⟨hparse, hbody, form, hform,
    (hexpand 0 [.int 1, .int 2, .int 3] (by decide)).1 (by decide)⟩

/-- A call with a hole of the reserved name. -/
def reservedBody : Node := .form [.sym ⟨"f", none⟩, .hole ⟨some "template", false⟩]

/-- Its form is defined, takes one argument and fails when it gets one. -/
theorem reservedParameter_unusable :
    reservedBody.MadeFor { fixed := ["template"] } ∧ ¬Params.Misfits { fixed := ["template"] } 1
      ∧ ∃ form, template "wrap" ["template"] reservedBody = .ok form
        ∧ form.expand 0 [.int 1] = .error (.host .reservedName) := by
  refine ⟨⟨?_, ?_, rfl⟩, by decide, _, rfl, rfl⟩
  · exact List.forall_mem_singleton.2 ⟨"template", by decide, rfl⟩
  · exact List.forall_mem_singleton.2 fun h => absurd h Bool.false_ne_true

end CustomForm

end FormScript
