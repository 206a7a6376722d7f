/-
Holes that are met in writing. A hole cannot be written, and it is the only node whose
own layout fails for a reason of templates: every other layout fails, if it does, for
its shape, its names or its numbers. Each piece of a layout has its lemma, and
`Node.layout_filled` puts them together.

So without custom forms an emission fails for a reason of templates only where it comes
to a hole, and never if there is none in the tree, streams included
(`Emitter.emitProgram_filled`).
-/
import FormScript.Proofs.Emission
import FormScript.Proofs.Writing

namespace FormScript

/-- Whether a failure has a reason of templates. -/
def Error.isTemplate : Error → Bool
  | .form (.template _) => true
  | _ => false

theorem Error.isTemplate_iterated (e : Error) : e.iterated.isTemplate = e.isTemplate := by
  cases e with
  | host cause => cases cause <;> rfl
  | form | load => rfl

/-- Whether a node is a hole. -/
def Node.isHole : Node → Bool
  | .hole _ => true
  | _ => false

-- ================================================================== runs

namespace EmitM

variable {α β : Type}

/-- A computation that never fails for a reason of templates. -/
def Filled (m : EmitM α) : Prop := ∀ r e s, m r = .error e s → e.isTemplate = false

theorem filled_of_ok {m : EmitM α} (h : ∀ r, ∃ a s, m r = .ok a s) : m.Filled := by
  intro r e s herr
  obtain ⟨a, s', hok⟩ := h r
  rw [hok] at herr
  cases herr

theorem pure_filled (a : α) : (pure a : EmitM α).Filled :=
  filled_of_ok fun r => ⟨a, r, rfl⟩

theorem throw_filled {e : Error} (h : e.isTemplate = false) : (throw e : EmitM α).Filled := by
  intro r e' s herr
  cases herr
  exact h

theorem bind_filled {m : EmitM α} {f : α → EmitM β} (hm : m.Filled) (hf : ∀ a, (f a).Filled) :
    (m >>= f).Filled := by
  intro r e s herr
  cases hfirst : m r with
  | ok a u =>
      rw [bind_ok hfirst] at herr
      exact hf a u e s herr
  | error e' u =>
      rw [bind_error hfirst] at herr
      cases herr
      exact hm r e s hfirst

theorem inScope_filled {body : EmitM String} (scope : Scope) (h : body.Filled) :
    (inScope scope body).Filled := by
  intro r e s herr
  unfold inScope at herr
  cases hbody : body { r with scope := some scope } with
  | ok text u =>
      rw [hbody] at herr
      cases herr
  | error e' u =>
      rw [hbody] at herr
      cases herr
      exact h _ e u hbody

theorem iterated_filled {m : EmitM α} (h : m.Filled) : (iterated m).Filled := by
  intro r e s herr
  unfold iterated at herr
  cases hm : m r with
  | ok text u =>
      rw [hm] at herr
      cases herr
  | error e' s' =>
      rw [hm] at herr
      cases herr
      rw [Error.isTemplate_iterated]
      exact h r e' s hm

theorem takeAll_filled {write : Node → EmitM String} (id : Identity) {items : List Node}
    (h : ∀ n ∈ items, (write n).Filled) (index : Nat) :
    (takeAll write id index items).Filled := by
  induction items generalizing index with
  | nil => exact pure_filled []
  | cons n rest ih =>
      have hrest := ih fun m hm => h m (.tail _ hm)
      have htaken := bind_filled (h n (.head _)) fun text =>
        bind_filled (hrest (index + 1)) fun texts => pure_filled (text :: texts)
      intro r e s herr
      by_cases hpos : r.streams.position id ≤ index
      · rw [takeAll_cons_eq_of_le hpos] at herr
        exact htaken _ e s herr
      · rw [takeAll_cons_of_lt (by omega)] at herr
        exact hrest (index + 1) r e s herr

end EmitM

-- =============================================================== layouts

namespace Layout

/-- Whether no failure in a layout has a reason of templates. -/
def Filled : Layout → Prop
  | .fail e => e.isTemplate = false
  | .append a b | .late a b => a.Filled ∧ b.Filled
  | .twice a _ | .statement a | .enclosed a => a.Filled
  | _ => True

/-- A layout is written without such a failure if its children are. -/
theorem run_filled {dedupe : Bool} {write : Node → EmitM String} {l : Layout} (hl : l.Filled)
    (h : l.All fun n => (write n).Filled) : (l.run dedupe write).Filled := by
  induction l with
  | text s => exact EmitM.pure_filled s
  | node n => exact h
  | item n => exact EmitM.iterated_filled h
  | fail e => exact EmitM.throw_filled hl
  | append a b iha ihb =>
      exact EmitM.bind_filled (iha hl.1 h.1) fun x =>
        EmitM.bind_filled (ihb hl.2 h.2) fun y => EmitM.pure_filled (x ++ y)
  | late a b iha ihb =>
      exact EmitM.bind_filled (ihb hl.2 h.2) fun y =>
        EmitM.bind_filled (iha hl.1 h.1) fun x => EmitM.pure_filled (x ++ y)
  | twice a between ih => exact EmitM.bind_filled (ih hl h) fun _ => EmitM.pure_filled _
  | statement a ih => exact EmitM.bind_filled (ih hl h) fun _ => EmitM.pure_filled _
  | declare names => exact EmitM.filled_of_ok fun r => ⟨_, _, rfl⟩
  | inline s => exact EmitM.filled_of_ok fun r => ⟨_, _, rfl⟩
  | enclosed a ih => exact EmitM.inScope_filled _ (ih hl h)
  | stream id items =>
      have hitems := EmitM.iterated_filled (EmitM.takeAll_filled id h 0)
      exact EmitM.bind_filled hitems fun _ => EmitM.pure_filled _

section Constructors

variable (s : String) (a b : Layout)

@[simp] theorem text_filled : (text s).Filled := trivial

@[simp] theorem node_filled (n : Node) : (node n).Filled := trivial

@[simp] theorem item_filled (n : Node) : (item n).Filled := trivial

@[simp] theorem declare_filled (names : List String) : (declare names).Filled := trivial

@[simp] theorem inline_filled : (inline s).Filled := trivial

@[simp] theorem append_filled_iff : (append a b).Filled ↔ a.Filled ∧ b.Filled := Iff.rfl

@[simp] theorem late_filled_iff : (late a b).Filled ↔ a.Filled ∧ b.Filled := Iff.rfl

@[simp] theorem twice_filled_iff : (twice a s).Filled ↔ a.Filled := Iff.rfl

@[simp] theorem statement_filled_iff : (statement a).Filled ↔ a.Filled := Iff.rfl

@[simp] theorem enclosed_filled_iff : (enclosed a).Filled ↔ a.Filled := Iff.rfl

@[simp] theorem malformed_filled (cause : Malformed) : (malformed cause).Filled := rfl

@[simp] theorem empty_filled : empty.Filled := trivial

end Constructors

theorem seq_filled {ls : List Layout} (h : ∀ l ∈ ls, l.Filled) : (seq ls).Filled := by
  induction ls with
  | nil => trivial
  | cons l ls ih =>
      cases ls with
      | nil => exact h l (.head _)
      | cons m ls => exact ⟨h l (.head _), ih fun l hl => h l (.tail _ hl)⟩

theorem join_filled {sep : String} {ls : List Layout} (h : ∀ l ∈ ls, l.Filled) :
    (join sep ls).Filled := by
  induction ls with
  | nil => trivial
  | cons l ls ih =>
      cases ls with
      | nil => exact h l (.head _)
      | cons m ls => exact ⟨h l (.head _), trivial, ih fun l hl => h l (.tail _ hl)⟩

@[simp] theorem joinNodes_filled (sep : String) (ns : List Node) : (joinNodes sep ns).Filled :=
  join_filled (List.forall_mem_map.2 fun n _ => node_filled n)

@[simp] theorem statements_filled (ns : List Node) : (statements ns).Filled :=
  seq_filled (List.forall_mem_map.2 fun n _ => node_filled n)

@[simp] theorem arguments_filled (ns : List Node) : (arguments ns).Filled := by
  simp [arguments, seq]

@[simp] theorem ident_filled (shown : String) (id : Ident) : (ident shown id).Filled := by
  unfold ident
  split
  · trivial
  · rfl

@[simp] theorem call_filled (f : Node) (args : List Node) : (call f args).Filled := by
  unfold call callee
  split <;> simp [seq]

theorem methodCall_filled {object : Node} {method : Layout} {args : List Node}
    (h : method.Filled) : (methodCall object method args).Filled := by
  simp [methodCall, seq, h]

/-- If not all elements can be mapped, one of them is the reason. -/
theorem exists_of_mapM_error {α β ε : Type} {g : α → Except ε β} {xs : List α} {e : ε}
    (h : xs.mapM g = .error e) : ∃ x ∈ xs, g x = .error e := by
  induction xs with
  | nil => cases h
  | cons x xs ih =>
      rw [List.mapM_cons] at h
      cases hx : g x with
      | error e' =>
          rw [hx] at h
          cases h
          exact ⟨x, .head _, hx⟩
      | ok y =>
          cases hxs : xs.mapM g with
          | error e' =>
              rw [hx, hxs] at h
              cases h
              obtain ⟨x', hx', he⟩ := ih hxs
              exact ⟨x', .tail _ hx', he⟩
          | ok ys =>
              rw [hx, hxs] at h
              cases h

theorem declaredNames_filled {ns : List Node} {e : FormError} (h : declaredNames ns = .error e) :
    (Error.form e).isTemplate = false := by
  unfold declaredNames at h
  generalize hnamed : ns.mapM (m := Except FormError) _ = named at h
  cases named with
  | error e' =>
      cases h
      obtain ⟨n, -, hn⟩ := exists_of_mapM_error hnamed
      cases n <;> cases hn <;> rfl
  | ok named =>
      obtain ⟨x, -, hx⟩ := exists_of_mapM_error (e := e) h
      dsimp only at hx
      split at hx
      · cases hx
      · cases hx
        rfl

theorem declaration_filled (args : List Node) : (declaration args).Filled := by
  have hrest : ∀ l ∈ initialisers args, l.Filled := by
    fun_induction initialisers args with
    | case1 => simp
    | case2 n => simp
    | case3 n value rest ih => exact List.forall_mem_cons.2 ⟨by simp [seq], ih⟩
  unfold declaration
  cases hnames : declaredNames (evens args) with
  | error e => exact declaredNames_filled hnames
  | ok names => exact ⟨trivial, seq_filled hrest⟩

theorem assignments_filled (args : List Node) : (seq (assignments args)).Filled := by
  refine seq_filled ?_
  fun_induction assignments args with
  | case1 target value rest ih => exact List.forall_mem_cons.2 ⟨by simp [seq], ih⟩
  | case2 => simp

theorem parameter_filled (n : Node) : (parameter n).Filled := by
  unfold parameter
  split
  · exact ident_filled ..
  · exact ident_filled ..
  · rfl

theorem function_filled {label : Layout} (h : label.Filled) (params : Node) (body : List Node) :
    (function label params body).Filled := by
  unfold function
  split
  · rfl
  · have hparams (items : List Node) : (join ", " (items.map parameter)).Filled :=
      join_filled (List.forall_mem_map.2 fun n _ => parameter_filled n)
    simp [seq, h, hparams]

theorem functionLiteral_filled (args : List Node) : (functionLiteral args).Filled := by
  unfold functionLiteral
  split
  · rfl
  · rfl
  · split
    · exact ⟨trivial, trivial, trivial, function_filled empty_filled _ _⟩
    · exact ident_filled ..
  · exact function_filled empty_filled _ _

theorem functionDeclaration_filled (args : List Node) : (functionDeclaration args).Filled := by
  unfold functionDeclaration
  split
  · exact function_filled (ident_filled ..) _ _
  · rfl

theorem forLoops_filled {inner : Layout} (h : inner.Filled) (items : List Node) :
    (forLoops inner items).Filled := by
  fun_induction forLoops inner items with
  | case1 name collection rest ih => simp [seq, ih]
  | case2 => exact h

theorem forLoop_filled (args : List Node) : (forLoop args).Filled := by
  unfold forLoop
  split
  · split
    · rfl
    · split
      · rfl
      · exact forLoops_filled (statements_filled _) _
  · rfl

theorem tryBlock_filled (args : List Node) : (tryBlock args).Filled := by
  have hcatch (clauses : List (List Node)) :
      (seq (clauses.map (tryBlock.catchPart args))).Filled := by
    refine seq_filled (List.forall_mem_map.2 fun clause _ => ?_)
    cases clause with
    | nil => rfl
    | cons name body => simp [tryBlock.catchPart, seq]
  have hfinally (clauses : List (List Node)) :
      (seq (clauses.map tryBlock.finallyPart)).Filled := by
    refine seq_filled (List.forall_mem_map.2 fun clause _ => ?_)
    simp [tryBlock.finallyPart, seq]
  unfold tryBlock
  split
  · rfl
  · rfl
  · rfl
  · simp [seq, hcatch, hfinally]

theorem conditional_filled (args : List Node) : (conditional args).Filled := by
  unfold conditional
  split <;> simp [conditional.branch, seq]

theorem unary_filled {name : String} {write : Node → Layout} (h : ∀ n, (write n).Filled)
    (args : List Node) : (unary name write args).Filled := by
  unfold unary
  split
  · exact h _
  · rfl

theorem operand_filled {op : String} {write : Node → Layout} (h : ∀ n, (write n).Filled)
    (args : List Node) : (operand op write args).Filled := by
  unfold operand
  split
  · exact h _
  · rfl

theorem binary_filled (op : String) (args : List Node) : (binary op args).Filled := by
  unfold binary
  split
  · simp [seq]
  · rfl

end Layout

open Layout

theorem SpecialForm.layout_filled (form : SpecialForm) (args : List Node) :
    (form.layout args).Filled := by
  unfold SpecialForm.layout
  split
  case h_1 => exact declaration_filled args
  case h_2 => split <;> simp
  case h_3 | h_5 | h_18 | h_19 => exact joinNodes_filled ..
  case h_4 =>
    split
    · exact methodCall_filled (node_filled _)
    · rfl
  case h_6 => exact conditional_filled args
  case h_7 => split <;> simp [seq]
  case h_8 | h_12 | h_13 | h_14 | h_15 | h_16 => exact unary_filled (fun n => by simp [seq]) args
  case h_9 =>
    split
    · rfl
    · exact assignments_filled args
  case h_10 => split <;> simp [seq]
  case h_11 =>
    split
    · refine seq_filled (List.forall_mem_cons.2 ⟨node_filled _, ?_⟩)
      exact List.forall_mem_map.2 fun key _ => by simp [seq]
    · rfl
  case h_17 => split <;> simp [seq]
  case h_20 | h_27 => trivial
  case h_21 => exact statements_filled args
  case h_22 => cases args <;> simp [Layout.whileLoop, seq]
  case h_23 => exact forLoop_filled args
  case h_24 => exact functionLiteral_filled args
  case h_25 => exact functionDeclaration_filled args
  case h_26 => exact tryBlock_filled args

theorem Layout.symbolForm_filled (id : Ident) (args : List Node) : (symbolForm id args).Filled := by
  unfold symbolForm
  split
  · split
    · exact methodCall_filled (ident_filled ..)
    · rfl
  · split
    · exact SpecialForm.layout_filled _ args
    · split
      · exact binary_filled _ args
      · split
        · exact operand_filled (fun n => by simp [seq]) args
        · split
          · exact operand_filled (fun n => by simp [seq]) args
          · exact call_filled ..

/-- Any node but a hole is laid out without a failure of templates. -/
theorem Node.layout_filled {n : Node} (h : n.isHole = false) : n.layout.Filled := by
  unfold Node.layout
  split
  case h_5 =>
    split
    · trivial
    · rfl
  case h_7 | h_8 => exact ident_filled ..
  case h_12 => cases h
  case h_13 | h_17 => rfl
  case h_14 id args => exact symbolForm_filled id args
  case h_15 | h_16 => exact call_filled ..
  case h_18 kind items => simp [Layout.seq]
  case h_19 kind pairs =>
    have hentries : (join ", " (pairs.map entry)).Filled :=
      join_filled (List.forall_mem_map.2 fun pair _ => by simp [entry, Layout.seq])
    simp [Layout.seq, hentries]
  all_goals trivial

-- ============================================================== emission

namespace Emitter

variable (e : Emitter)

/-- Without custom forms, a tree without holes is never found to have one. -/
theorem emitAt_filled (he : e.forms = .empty) (levels : Nat) {n : Node}
    (h : n.every (!·.isHole)) : (e.emitAt levels n).Filled := by
  revert h
  refine e.emission_induction
    (P := fun levels n => n.every (!·.isHole) → (e.emitAt levels n).Filled) ?_ ?_ ?_ levels n
  · intro n call hcall
    rw [he, Node.customCall?_empty] at hcall
    cases hcall
  · intro levels n call hcall
    rw [he, Node.customCall?_empty] at hcall
    cases hcall
  · intro levels n hcall ih h
    obtain ⟨hself, hchildren⟩ := Node.every_iff.1 h
    have hall : n.layout.All (·.every (!·.isHole)) :=
      Node.layout_all (Node.hereditary_every _) (fun _ => rfl) hchildren
    rw [e.emitAt_of_not_custom hcall]
    exact run_filled (Node.layout_filled (by simpa using hself)) (ih.mp hall)

/-- Nor is a program of such trees. -/
theorem emitProgram_filled (he : e.forms = .empty) {forms : List Node}
    (h : ∀ n ∈ forms, n.every (!·.isHole)) : (e.emitProgram forms).Filled := by
  have hwrite : ∀ n ∈ forms, (e.emit n).Filled := fun n hn => e.emitAt_filled he _ (h n hn)
  unfold emitProgram emitLayout
  refine run_filled ?_ ?_
  · unfold programLayout
    split
    · trivial
    · trivial
    · exact statements_filled _
  · unfold programLayout
    split
    · trivial
    · exact hwrite _ (.head _)
    · exact statements_all hwrite

end Emitter

end FormScript
