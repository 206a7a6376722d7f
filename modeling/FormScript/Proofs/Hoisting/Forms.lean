/-
What each form declares, form by form. `Layout.collect` is the names that
writing a layout declares, and `Node.layout_collect` says that for the layout
of a node these are the names that the reference collects from the node. A
layout that contains a failure is never written, so only sound layouts count.
-/
import FormScript.Proofs.Hoisting.Collection

namespace FormScript

open Collection

namespace Layout

/-- The names that writing a layout declares in the open scope, given
those of its children. -/
def collect (f : Node → Collection) : Layout → Collection
  | .text _ | .fail _ | .inline _ => nothing
  | .node n | .item n => f n
  | .append a b => (a.collect f).andThen (b.collect f)
  | .late a b => (b.collect f).andThen (a.collect f)
  | .twice a _ | .statement a => a.collect f
  | .declare xs => names xs
  | .enclosed a => (a.collect f).hidden
  | .stream id items => untaken f id 0 items

-- ==================================================== what layouts collect

variable {f : Node → Collection}

section Constructors

variable (s : String) (n : Node) (a b : Layout)

@[simp] theorem text_collect : (text s).collect f = nothing := rfl

@[simp] theorem inline_collect : (inline s).collect f = nothing := rfl

@[simp] theorem node_collect : (node n).collect f = f n := rfl

@[simp] theorem item_collect : (item n).collect f = f n := rfl

@[simp] theorem declare_collect (xs : List String) : (declare xs).collect f = names xs := rfl

@[simp] theorem append_collect :
    (append a b).collect f = (a.collect f).andThen (b.collect f) := rfl

@[simp] theorem late_collect :
    (late a b).collect f = (b.collect f).andThen (a.collect f) := rfl

@[simp] theorem twice_collect : (twice a s).collect f = a.collect f := rfl

@[simp] theorem statement_collect : (statement a).collect f = a.collect f := rfl

@[simp] theorem enclosed_collect : (enclosed a).collect f = (a.collect f).hidden := rfl

end Constructors

theorem seq_cons_collect (l : Layout) (ls : List Layout) :
    (seq (l :: ls)).collect f = (l.collect f).andThen ((seq ls).collect f) := by
  cases ls with
  | nil => exact andThen_nothing.symm
  | cons m ls => rfl

theorem join_cons_collect (sep : String) (l : Layout) (ls : List Layout) :
    (join sep (l :: ls)).collect f
      = (l.collect f).andThen ((join sep ls).collect f) := by
  cases ls with
  | nil => exact andThen_nothing.symm
  | cons m ls => rfl

/-- Parts that each collect some nodes collect all of them together. -/
theorem seq_map_collect {α : Type} {g : α → Layout} {k : α → List Node}
    (h : ∀ x, (g x).collect f = each f (k x)) (xs : List α) :
    (seq (xs.map g)).collect f = each f (xs.flatMap k) := by
  induction xs with
  | nil => rfl
  | cons x xs ih =>
      rw [List.map_cons, seq_cons_collect, h, ih, List.flatMap_cons, each_append]

theorem join_map_collect {α : Type} {g : α → Layout} {k : α → List Node}
    (h : ∀ x, (g x).collect f = each f (k x)) (sep : String) (xs : List α) :
    (join sep (xs.map g)).collect f = each f (xs.flatMap k) := by
  induction xs with
  | nil => rfl
  | cons x xs ih =>
      rw [List.map_cons, join_cons_collect, h, ih, List.flatMap_cons, each_append]

theorem joinNodes_collect (sep : String) (ns : List Node) :
    (joinNodes sep ns).collect f = each f ns := by
  rw [joinNodes, join_map_collect (k := fun n => [n]) (fun n => andThen_nothing.symm),
    List.flatMap_singleton']

theorem statements_collect (ns : List Node) :
    (statements ns).collect f = each f ns := by
  rw [statements, seq_map_collect (k := fun n => [n]) (fun n => andThen_nothing.symm),
    List.flatMap_singleton']

theorem arguments_collect (ns : List Node) :
    (arguments ns).collect f = each f ns := by
  simp [arguments, seq, joinNodes_collect]

theorem ident_collect (shown : String) (id : Ident) :
    (ident shown id).collect f = nothing := by
  unfold ident
  split <;> rfl

theorem callee_collect (n : Node) : (callee n).collect f = f n := by
  unfold callee
  split
  · simp [seq]
  · rfl

theorem call_collect (n : Node) (args : List Node) :
    (call n args).collect f = each f (n :: args) := by
  simp [call, seq, callee_collect, arguments_collect]

theorem methodCall_collect (object : Node) (method : Layout)
    (args : List Node) :
    (methodCall object method args).collect f
      = (f object).andThen ((method.collect f).andThen (each f args)) := by
  simp [methodCall, seq, arguments_collect]

-- declarations

/-- A view of the results of a traversal that each element determines is
determined by the elements together. -/
theorem map_of_mapM_ok {α β γ ε : Type} {g : α → Except ε β} {p : β → γ}
    {q : α → γ} (hpq : ∀ x y, g x = .ok y → p y = q x) {xs : List α}
    {ys : List β} (h : xs.mapM g = .ok ys) : ys.map p = xs.map q := by
  induction xs generalizing ys with
  | nil =>
      cases h
      rfl
  | cons x xs ih =>
      rw [List.mapM_cons] at h
      cases hx : g x with
      | error err =>
          rw [hx] at h
          cases h
      | ok y =>
          cases hxs : xs.mapM g with
          | error err =>
              rw [hx, hxs] at h
              cases h
          | ok zs =>
              rw [hx, hxs] at h
              cases h
              rw [List.map_cons, List.map_cons, ih hxs, hpq x y hx]

/-- A declaration declares the local names of what stands at its even
places. -/
theorem declaredNames_ok {ns : List Node} {xs : List String}
    (h : declaredNames ns = .ok xs) : xs = ns.map localName := by
  unfold declaredNames at h
  generalize hnamed : ns.mapM (m := Except FormError) _ = named at h
  cases named with
  | error err => cases h
  | ok named =>
      have hxs : xs.map id = named.map Prod.snd := by
        refine map_of_mapM_ok ?_ h
        rintro ⟨shown, name⟩ y hy
        dsimp only at hy
        by_cases hv : isIdentifier name
        · rw [if_pos hv] at hy
          cases hy
          rfl
        · rw [if_neg hv] at hy
          cases hy
      have hns : named.map Prod.snd = ns.map localName := by
        refine map_of_mapM_ok ?_ hnamed
        intro n y hy
        cases n <;> cases hy <;> rfl
      rw [← hns, ← hxs, List.map_id]

theorem initialisers_collect (args : List Node) :
    (seq (initialisers args)).collect f = each f (odds args) := by
  fun_induction initialisers args with
  | case1 => rfl
  | case2 n => rfl
  | case3 n value rest ih =>
      rw [seq_cons_collect, ih, odds, each_cons]
      simp [seq]

theorem declaration_collect {args : List Node}
    (h : (declaration args).Sound) :
    (declaration args).collect f
      = (names ((evens args).map localName)).andThen (each f (odds args)) := by
  unfold declaration at h ⊢
  cases hnames : declaredNames (evens args) with
  | error err =>
      rw [hnames] at h
      exact h.elim
  | ok xs =>
      rw [← declaredNames_ok hnames, ← initialisers_collect]
      rfl

theorem assignments_collect (args : List Node) (h : args.length % 2 = 0) :
    (seq (assignments args)).collect f = each f args := by
  fun_induction assignments args with
  | case1 target value rest ih =>
      rw [seq_cons_collect, ih (by simp at h; omega)]
      simp [seq]
  | case2 args hargs =>
      cases args with
      | nil => rfl
      | cons a args =>
          cases args with
          | nil => cases h
          | cons b rest => exact absurd rfl (hargs a b rest)

-- functions and loops

theorem parameter_collect (n : Node) : (parameter n).collect f = nothing := by
  unfold parameter
  split
  · exact ident_collect ..
  · exact ident_collect ..
  · rfl

/-- Nothing from the parameters or the body of a function escapes. -/
theorem function_collect {label : Layout} {params : Node} {body : List Node}
    (hl : label.collect f = nothing)
    (h : (function label params body).Sound) :
    (function label params body).collect f = (each f body).hidden := by
  have hparams (items : List Node) :
      (join ", " (items.map parameter)).collect f = nothing := by
    rw [join_map_collect (k := fun _ => []) parameter_collect,
      List.flatMap_eq_nil_iff.2 fun _ _ => rfl, each_nil]
  unfold function at h ⊢
  cases hitems : params.seqItems? with
  | none =>
      rw [hitems] at h
      exact h.elim
  | some items =>
      simp [seq, hl, hparams, statements_collect]

theorem forLoops_collect {inner : Layout} (items : List Node) :
    (forLoops inner items).collect f
      = (inner.collect f).andThen (each f (bindingsInward items)) := by
  fun_induction forLoops inner items with
  | case1 name collection rest ih =>
      simp [seq, ih, bindingsInward]
  | case2 items hitems =>
      cases items with
      | nil => exact andThen_nothing.symm
      | cons a items =>
          cases items with
          | nil => exact andThen_nothing.symm
          | cons b rest => exact absurd rfl (hitems a b rest)

theorem functionLiteral_collect {args : List Node}
    (h : (functionLiteral args).Sound) :
    (functionLiteral args).collect f
      = SpecialForm.collect f .functionLiteral args := by
  unfold functionLiteral at h ⊢
  split at h
  · exact h.elim
  · exact h.elim
  · rename_i id params body
    by_cases hid : isIdentifier id.name
    · rw [if_pos hid] at h ⊢
      have hfun := function_collect (f := f) rfl h.2.2.2
      simp [seq, hfun, SpecialForm.collect]
    · rw [if_neg hid] at h
      unfold symName ident at h
      rw [if_neg hid] at h
      exact h.elim
  · rename_i params body hlone hnamed
    have hfun := function_collect (f := f) rfl h
    cases params with
    | sym id =>
        cases body with
        | nil => exact (hlone id rfl rfl).elim
        | cons m body => exact (hnamed id m body rfl rfl).elim
    | _ => exact hfun

theorem functionDeclaration_collect {args : List Node}
    (h : (functionDeclaration args).Sound) :
    (functionDeclaration args).collect f
      = SpecialForm.collect f .functionDeclaration args := by
  unfold functionDeclaration at h ⊢
  split at h
  · exact function_collect (ident_collect ..) h
  · exact h.elim

theorem forLoop_collect {args : List Node} (h : (forLoop args).Sound) :
    (forLoop args).collect f = SpecialForm.collect f .forLoop args := by
  cases args with
  | nil => exact h.elim
  | cons bindings body =>
      unfold forLoop at h ⊢
      dsimp only at h ⊢
      cases hitems : bindings.seqItems? with
      | none =>
          rw [hitems] at h
          exact h.elim
      | some items =>
          rw [hitems] at h
          dsimp only at h ⊢
          split at h
          · exact h.elim
          · rename_i hpairs
            rw [if_neg hpairs, forLoops_collect, statements_collect]
            simp [SpecialForm.collect, hitems]

-- try forms

theorem catchPart_collect (all clause : List Node) :
    (tryBlock.catchPart all clause).collect f = each f clause := by
  cases clause with
  | nil => rfl
  | cons name body =>
      simp [tryBlock.catchPart, seq, statements_collect]

theorem finallyPart_collect (clause : List Node) :
    (tryBlock.finallyPart clause).collect f = each f clause := by
  simp [tryBlock.finallyPart, seq, statements_collect]

theorem tryBlock_collect {args : List Node} (h : (tryBlock args).Sound) :
    (tryBlock args).collect f = each f (tryParts args) := by
  have catches (clauses : List (List Node)) :
      (seq (clauses.map (tryBlock.catchPart args))).collect f
        = each f clauses.flatten := by
    rw [seq_map_collect (catchPart_collect args), List.flatMap_id']
  have finallies (clauses : List (List Node)) :
      (seq (clauses.map tryBlock.finallyPart)).collect f
        = each f clauses.flatten := by
    rw [seq_map_collect finallyPart_collect, List.flatMap_id']
  unfold tryBlock at h ⊢
  split at h
  · exact h.elim
  · exact h.elim
  · exact h.elim
  · simp [seq, statements_collect, catches, finallies, tryParts]

-- small forms

theorem whileLoop_collect {args : List Node} (h : (whileLoop args).Sound) :
    (whileLoop args).collect f = each f args := by
  cases args with
  | nil => exact h.elim
  | cons test body => simp [whileLoop, seq, statements_collect]

/-- An else branch of `nil` is not written, and would declare nothing. -/
theorem conditional_collect (hnil : f .nil = nothing) {args : List Node}
    (h : (conditional args).Sound) : (conditional args).collect f = each f args := by
  unfold conditional at h ⊢
  split at h
  · simp [conditional.branch, seq]
  · simp [conditional.branch, seq, hnil]
  · rename_i test yes no hno
    cases no with
    | nil => exact (hno rfl).elim
    | _ => simp [conditional.branch, seq]
  · exact h.elim

theorem unary_collect {name : String} {write : Node → Layout}
    (hw : ∀ n, (write n).collect f = f n) {args : List Node}
    (h : (unary name write args).Sound) :
    (unary name write args).collect f = each f args := by
  unfold unary at h ⊢
  split at h
  · rw [hw, each_cons, each_nil, andThen_nothing]
  · exact h.elim

theorem operand_collect {op : String} {write : Node → Layout}
    (hw : ∀ n, (write n).collect f = f n) {args : List Node}
    (h : (operand op write args).Sound) :
    (operand op write args).collect f = each f args := by
  unfold operand at h ⊢
  split at h
  · rw [hw, each_cons, each_nil, andThen_nothing]
  · exact h.elim

theorem binary_collect {op : String} {args : List Node}
    (h : (binary op args).Sound) : (binary op args).collect f = each f args := by
  unfold binary at h ⊢
  split at h
  · rename_i haccepts
    rw [if_pos haccepts]
    simp [seq, joinNodes_collect]
  · exact h.elim

theorem index_collect (target : Node) (keys : List Node) :
    (seq (.node target
        :: keys.map fun key => seq [.text "[", .item key, .text "]"])).collect f
      = each f (target :: keys) := by
  have hkey (key : Node) :
      (seq [.text "[", .item key, .text "]"]).collect f = each f [key] := by
    simp [seq]
  rw [seq_cons_collect, seq_map_collect hkey, List.flatMap_singleton']
  rfl

end Layout

-- ============================================================= every form

open Layout

/-- The layout of a special form collects what the reference says. -/
theorem SpecialForm.layout_collect {f : Node → Collection}
    (hnil : f .nil = nothing) {form : SpecialForm} {args : List Node}
    (h : (form.layout args).Sound) :
    (form.layout args).collect f = form.collect f args := by
  cases form with
  | declaration => exact declaration_collect h
  | call =>
      cases args with
      | nil => exact h.elim
      | cons n rest => exact call_collect n rest
  | concatenation => exact joinNodes_collect ..
  | member =>
      match args, h with
      | [], h => exact h.elim
      | [n], h => exact h.elim
      | object :: method :: rest, _ => exact methodCall_collect ..
  | path => exact joinNodes_collect ..
  | conditional => exact conditional_collect hnil h
  | result =>
      match args, h with
      | [], _ => simp [layout, seq, SpecialForm.collect, hnil]
      | [n], _ => simp [layout, seq, SpecialForm.collect]
      | _ :: _ :: _, h => exact h.elim
  | deletion => exact unary_collect (fun n => by simp [seq]) h
  | assignment =>
      unfold layout at h ⊢
      dsimp only at h ⊢
      split at h
      · exact h.elim
      · rename_i hpairs
        rw [if_neg hpairs]
        refine assignments_collect args ?_
        simp at hpairs
        omega
  | construction =>
      cases args with
      | nil => exact h.elim
      | cons n rest =>
          simp [layout, seq, SpecialForm.collect, arguments_collect]
  | index =>
      cases args with
      | nil => exact h.elim
      | cons target keys => exact index_collect target keys
  | increment => exact unary_collect (fun n => by simp [seq]) h
  | decrement => exact unary_collect (fun n => by simp [seq]) h
  | successor => exact unary_collect (fun n => by simp [seq]) h
  | predecessor => exact unary_collect (fun n => by simp [seq]) h
  | definedness => exact unary_collect (fun n => by simp [seq]) h
  | choice =>
      unfold layout at h ⊢
      dsimp only at h ⊢
      split at h
      · simp [seq, SpecialForm.collect]
      · exact h.elim
  | conjunction => exact joinNodes_collect ..
  | disjunction => exact joinNodes_collect ..
  | raw => rfl
  | block => exact statements_collect args
  | whileLoop => exact whileLoop_collect h
  | forLoop => exact forLoop_collect h
  | functionLiteral => exact functionLiteral_collect h
  | functionDeclaration => exact functionDeclaration_collect h
  | tryBlock => exact tryBlock_collect h
  | loopExit => rfl

/-- The layout of a form with a symbol at its head collects what the
reference says. -/
theorem Layout.symbolForm_collect {f : Node → Collection}
    (hnil : f .nil = nothing) {id : Ident} {args : List Node}
    (h : (symbolForm id args).Sound) :
    (symbolForm id args).collect f = (Node.form (.sym id :: args)).collect f := by
  unfold symbolForm at h ⊢
  unfold Node.collect
  dsimp only
  cases hm : methodName? id.name with
  | some method =>
      simp only [hm] at h ⊢
      cases args with
      | nil => exact h.elim
      | cons object rest =>
          rw [methodCall_collect, symName, ident_collect, nothing_andThen, each_cons]
  | none =>
      simp only [hm] at h ⊢
      cases hs : SpecialForm.ofName? id.name with
      | some special =>
          simp only [hs] at h ⊢
          exact SpecialForm.layout_collect hnil h
      | none =>
          simp only [hs] at h ⊢
          by_cases hb : Operator.isBinary id.name
          · rw [if_pos hb] at h ⊢
            rw [binary_collect h]
            simp [hb]
          · rw [if_neg hb] at h ⊢
            by_cases hl : Operator.isLeading id.name
            · rw [if_pos hl] at h ⊢
              rw [operand_collect (fun n => by simp [seq]) h]
              simp [hl]
            · rw [if_neg hl] at h ⊢
              by_cases ht : Operator.isTrailing id.name
              · rw [if_pos ht] at h ⊢
                rw [operand_collect (fun n => by simp [seq]) h]
                simp [ht]
              · rw [if_neg ht, call_collect]
                simp [hb, hl, ht]

/-- The layout of any node collects what the reference says. -/
theorem Node.layout_collect {f : Node → Collection} (hnil : f .nil = nothing)
    {n : Node} (h : n.layout.Sound) : n.layout.collect f = n.collect f := by
  unfold Node.layout at h ⊢
  split at h
  case h_5 =>
    split at h
    · rfl
    · exact h.elim
  case h_7 | h_8 => exact ident_collect ..
  case h_12 | h_13 | h_17 => exact h.elim
  case h_14 id args => exact symbolForm_collect hnil h
  case h_15 id args => exact call_collect ..
  case h_16 items args => exact call_collect ..
  case h_18 kind items =>
    simp [Layout.seq, joinNodes_collect, Node.collect]
  case h_19 kind pairs =>
    have hentry (p : Node × Node) : (entry p).collect f = each f [p.1, p.2] := by
      simp [entry, Layout.seq]
    simp [Layout.seq, join_map_collect hentry, Node.collect]
  all_goals rfl

end FormScript
