/-
What stands in a node. `Node.children` are the nodes directly below a node, and
a property is `Node.Hereditary` if it passes from forms and sequences to what
stands in them.

Every node in the layout of a node stands in the node: it is one of its
children, or an item of a binding list or of a clause among them, so a
hereditary property of the children is one of the whole layout. Each piece of
a layout has its lemma, and `Node.layout_all` puts them together. Two such
properties are used throughout: being lower than the node, which lets a tree be
written by recursion on its height (`Node.layout_below`), and having some
property at every place (`Node.every`).
-/
import FormScript.Layout.Node

namespace FormScript

namespace Node

/-- The nodes directly below a node. -/
def children : Node → List Node
  | .form items => items
  | .seq _ items => items
  | .map _ pairs => pairs.flatMap fun pair => [pair.1, pair.2]
  | .stream _ items => items
  | _ => []

/-- The keys and the values of a map stand directly below it. -/
theorem mem_children_of_mem (kind : MapKind) {pairs : List (Node × Node)}
    {pair : Node × Node} (h : pair ∈ pairs) :
    pair.1 ∈ (Node.map kind pairs).children ∧ pair.2 ∈ (Node.map kind pairs).children :=
  ⟨List.mem_flatMap.2 ⟨pair, h, by simp⟩, List.mem_flatMap.2 ⟨pair, h, by simp⟩⟩

/-- A property that passes from forms and sequences to their items. -/
structure Hereditary (p : Node → Prop) : Prop where
  form : ∀ {items : List Node}, p (.form items) → ∀ n ∈ items, p n
  seq : ∀ {kind : SeqKind} {items : List Node}, p (.seq kind items) → ∀ n ∈ items, p n

/-- The items of a sequence have a hereditary property of the sequence. -/
theorem Hereditary.seqItems {p : Node → Prop} (hp : Hereditary p) {n : Node}
    {items : List Node} (h : n.seqItems? = some items) (hn : p n) : ∀ m ∈ items, p m := by
  cases n <;> simp only [seqItems?, reduceCtorEq, Option.some.injEq] at h
  subst h
  exact hp.seq hn

end Node

open Node (Hereditary)
namespace Layout

variable {p : Node → Prop}

-- ============================================================== pieces

theorem seq_all {ls : List Layout} (h : ∀ l ∈ ls, l.All p) : (seq ls).All p := by
  induction ls with
  | nil => trivial
  | cons l rest ih =>
    cases rest with
    | nil => exact h l (.head _)
    | cons m rest => exact ⟨h l (.head _), ih fun l hl => h l (.tail _ hl)⟩

theorem join_all {sep : String} {ls : List Layout} (h : ∀ l ∈ ls, l.All p) :
    (join sep ls).All p := by
  induction ls with
  | nil => trivial
  | cons l rest ih =>
    cases rest with
    | nil => exact h l (.head _)
    | cons m rest => exact ⟨h l (.head _), trivial, ih fun l hl => h l (.tail _ hl)⟩

theorem joinNodes_all {sep : String} {ns : List Node} (h : ∀ n ∈ ns, p n) :
    (joinNodes sep ns).All p :=
  join_all fun l hl => by
    obtain ⟨n, hn, rfl⟩ := List.mem_map.1 hl
    exact h n hn

theorem arguments_all {ns : List Node} (h : ∀ n ∈ ns, p n) :
    (arguments ns).All p :=
  ⟨trivial, joinNodes_all h, trivial⟩

theorem statements_all {ns : List Node} (h : ∀ n ∈ ns, p n) :
    (statements ns).All p :=
  seq_all fun l hl => by
    obtain ⟨n, hn, rfl⟩ := List.mem_map.1 hl
    exact h n hn

theorem ident_all (shown : String) (id : Ident) : (ident shown id).All p := by
  unfold ident
  split <;> trivial

-- =============================================================== calls

theorem callee_all {f : Node} (h : p f) : (callee f).All p := by
  unfold callee
  split
  · exact ⟨trivial, h, trivial⟩
  · exact h

theorem call_all {f : Node} {args : List Node} (hf : p f)
    (h : ∀ n ∈ args, p n) : (call f args).All p :=
  ⟨callee_all hf, arguments_all h⟩

theorem methodCall_all {object : Node} {method : Layout} {args : List Node}
    (ho : p object) (hm : method.All p) (h : ∀ n ∈ args, p n) :
    (methodCall object method args).All p :=
  ⟨ho, trivial, hm, arguments_all h⟩

-- ======================================================== declarations

theorem initialisers_all (args : List Node) (h : ∀ n ∈ args, p n) :
    ∀ l ∈ initialisers args, l.All p := by
  fun_induction initialisers args with
  | case1 => simp
  | case2 n => simp [All]
  | case3 n value rest ih =>
    intro l hl
    cases hl with
    | head => exact ⟨trivial, trivial, h value (by simp), trivial⟩
    | tail _ hl => exact ih (fun m hm => h m (by simp [hm])) l hl

theorem declaration_all {args : List Node} (h : ∀ n ∈ args, p n) :
    (declaration args).All p := by
  unfold declaration
  split
  · trivial
  · exact ⟨trivial, seq_all (initialisers_all args h)⟩

theorem assignments_all (args : List Node) (h : ∀ n ∈ args, p n) :
    ∀ l ∈ assignments args, l.All p := by
  fun_induction assignments args with
  | case1 target value rest ih =>
    intro l hl
    cases hl with
    | head => exact ⟨h target (by simp), trivial, h value (by simp), trivial⟩
    | tail _ hl => exact ih (fun m hm => h m (by simp [hm])) l hl
  | case2 => simp

-- =========================================================== functions

theorem parameter_all (n : Node) : (parameter n).All p := by
  unfold parameter
  split
  · exact ident_all ..
  · exact ident_all ..
  · trivial

theorem function_all {label : Layout} {params : Node} {body : List Node}
    (hl : label.All p) (h : ∀ n ∈ body, p n) :
    (function label params body).All p := by
  unfold function
  split
  · trivial
  · refine ⟨⟨⟨trivial, hl, trivial, join_all ?_, trivial⟩, statements_all h⟩, trivial⟩
    intro l hl
    obtain ⟨n, _, rfl⟩ := List.mem_map.1 hl
    exact parameter_all n

theorem functionLiteral_all {args : List Node} (h : ∀ n ∈ args, p n) :
    (functionLiteral args).All p := by
  unfold functionLiteral
  split
  · trivial
  · trivial
  · split
    · exact ⟨trivial, trivial, trivial,
        function_all trivial fun n hn => h n (by simp [hn])⟩
    · exact ident_all ..
  · exact function_all trivial fun n hn => h n (by simp [hn])

theorem functionDeclaration_all {args : List Node} (h : ∀ n ∈ args, p n) :
    (functionDeclaration args).All p := by
  unfold functionDeclaration
  split
  · exact function_all (ident_all ..) fun n hn => h n (by simp [hn])
  · trivial

-- =============================================================== loops

theorem forLoops_all {inner : Layout} (items : List Node) (hi : inner.All p)
    (h : ∀ n ∈ items, p n) : (forLoops inner items).All p := by
  fun_induction forLoops inner items with
  | case1 name collection rest ih =>
    exact ⟨⟨⟨trivial, h name (by simp), trivial, h collection (by simp), trivial⟩,
      ih fun n hn => h n (by simp [hn])⟩, trivial⟩
  | case2 => exact hi

theorem forLoop_all (hp : Hereditary p) {args : List Node} (h : ∀ n ∈ args, p n) :
    (forLoop args).All p := by
  unfold forLoop
  split
  · rename_i bindings body
    split
    · trivial
    · rename_i items hitems
      split
      · trivial
      · exact forLoops_all items (statements_all fun n hn => h n (by simp [hn]))
          (hp.seqItems hitems (h bindings (by simp)))
  · trivial

theorem whileLoop_all {args : List Node} (h : ∀ n ∈ args, p n) :
    (whileLoop args).All p := by
  unfold whileLoop
  split
  · rename_i test body
    exact ⟨trivial, h test (by simp), trivial, statements_all fun n hn => h n (by simp [hn]),
      trivial⟩
  · trivial

-- ================================================================= try

/-- A clause of a try form is a form with a symbol at its head. -/
theorem exists_of_catchClause? {n : Node} {args : List Node} (h : catchClause? n = some args) :
    ∃ id, n = .form (.sym id :: args) := by
  unfold catchClause? at h
  split at h
  · rename_i id items
    by_cases hname : id.name = "catch"
    · rw [if_pos hname] at h
      cases h
      exact ⟨id, rfl⟩
    · rw [if_neg hname] at h
      cases h
  · cases h

theorem exists_of_finallyClause? {n : Node} {args : List Node}
    (h : finallyClause? n = some args) : ∃ id, n = .form (.sym id :: args) := by
  unfold finallyClause? at h
  split at h
  · rename_i id items
    by_cases hname : id.name = "finally"
    · rw [if_pos hname] at h
      cases h
      exact ⟨id, rfl⟩
    · rw [if_neg hname] at h
      cases h
  · cases h

/-- The arguments of a clause have a hereditary property of the clause. -/
theorem catchClause?_all (hp : Hereditary p) {n : Node} {args : List Node}
    (h : catchClause? n = some args) (hn : p n) : ∀ m ∈ args, p m := by
  obtain ⟨id, rfl⟩ := exists_of_catchClause? h
  exact fun m hm => hp.form hn m (.tail _ hm)

theorem finallyClause?_all (hp : Hereditary p) {n : Node} {args : List Node}
    (h : finallyClause? n = some args) (hn : p n) : ∀ m ∈ args, p m := by
  obtain ⟨id, rfl⟩ := exists_of_finallyClause? h
  exact fun m hm => hp.form hn m (.tail _ hm)

theorem catchPart_all {all args : List Node} (h : ∀ n ∈ args, p n) :
    (tryBlock.catchPart all args).All p := by
  unfold tryBlock.catchPart
  split
  · trivial
  · rename_i name body
    exact ⟨trivial, h name (by simp), trivial, statements_all fun n hn => h n (by simp [hn]),
      trivial⟩

theorem finallyPart_all {args : List Node} (h : ∀ n ∈ args, p n) :
    (tryBlock.finallyPart args).All p :=
  ⟨trivial, statements_all h, trivial⟩

theorem tryBlock_all (hp : Hereditary p) {args : List Node} (h : ∀ n ∈ args, p n) :
    (tryBlock args).All p := by
  have catches : (seq ((args.filterMap catchClause?).map (tryBlock.catchPart args))).All p := by
    refine seq_all fun l hl => ?_
    obtain ⟨clause, hc, rfl⟩ := List.mem_map.1 hl
    obtain ⟨n, hn, hclause⟩ := List.mem_filterMap.1 hc
    exact catchPart_all (catchClause?_all hp hclause (h n hn))
  have finallies : (seq ((args.filterMap finallyClause?).map tryBlock.finallyPart)).All p := by
    refine seq_all fun l hl => ?_
    obtain ⟨clause, hc, rfl⟩ := List.mem_map.1 hl
    obtain ⟨n, hn, hclause⟩ := List.mem_filterMap.1 hc
    exact finallyPart_all (finallyClause?_all hp hclause (h n hn))
  unfold tryBlock
  split
  · trivial
  · trivial
  · trivial
  · exact ⟨trivial, statements_all fun n hn => h n (List.mem_filter.1 hn).1, trivial,
      catches, finallies⟩

-- ========================================================== small forms

theorem conditional_all {args : List Node} (h : ∀ n ∈ args, p n) :
    (conditional args).All p := by
  unfold conditional
  split
  · exact ⟨trivial, h _ (by simp), trivial, h _ (by simp), trivial⟩
  · exact ⟨trivial, h _ (by simp), trivial, h _ (by simp), trivial⟩
  · exact ⟨⟨trivial, h _ (by simp), trivial, h _ (by simp), trivial⟩, trivial, h _ (by simp),
      trivial⟩
  · trivial

theorem unary_all {name : String} {write : Node → Layout} {args : List Node}
    (hw : ∀ n, p n → (write n).All p) (h : ∀ n ∈ args, p n) :
    (unary name write args).All p := by
  unfold unary
  split
  · exact hw _ (h _ (by simp))
  · trivial

theorem operand_all {op : String} {write : Node → Layout} {args : List Node}
    (hw : ∀ n, p n → (write n).All p) (h : ∀ n ∈ args, p n) :
    (operand op write args).All p := by
  unfold operand
  split
  · exact hw _ (h _ (by simp))
  · trivial

theorem binary_all {op : String} {args : List Node} (h : ∀ n ∈ args, p n) :
    (binary op args).All p := by
  unfold binary
  split
  · exact ⟨trivial, joinNodes_all h, trivial⟩
  · trivial

theorem entry_all {pair : Node × Node} (hk : p pair.1) (hv : p pair.2) : (entry pair).All p :=
  ⟨hk, trivial, hv⟩

end Layout

-- =============================================================== forms

theorem SpecialForm.layout_all {p : Node → Prop} (hp : Hereditary p) (hnil : p .nil)
    (form : SpecialForm) {args : List Node} (h : ∀ n ∈ args, p n) : (form.layout args).All p := by
  unfold SpecialForm.layout
  split
  case h_1 => exact Layout.declaration_all h
  case h_2 =>
    split
    · exact Layout.call_all (h _ (by simp)) fun n hn => h n (by simp [hn])
    · trivial
  case h_3 => exact Layout.joinNodes_all h
  case h_4 =>
    split
    · exact Layout.methodCall_all (h _ (by simp)) (h _ (by simp))
        fun n hn => h n (by simp [hn])
    · trivial
  case h_5 => exact Layout.joinNodes_all h
  case h_6 => exact Layout.conditional_all h
  case h_7 =>
    split
    · exact ⟨trivial, hnil⟩
    · exact ⟨trivial, h _ (by simp)⟩
    · trivial
  case h_8 => exact Layout.unary_all (fun n hn => ⟨trivial, hn⟩) h
  case h_9 =>
    split
    · trivial
    · exact Layout.seq_all (Layout.assignments_all args h)
  case h_10 =>
    split
    · exact ⟨trivial, h _ (by simp), Layout.arguments_all fun n hn => h n (by simp [hn])⟩
    · trivial
  case h_11 =>
    split
    · rename_i target keys
      refine Layout.seq_all fun l hl => ?_
      cases hl with
      | head => exact h target (by simp)
      | tail _ hl =>
        obtain ⟨key, hkey, rfl⟩ := List.mem_map.1 hl
        exact ⟨trivial, h key (by simp [hkey]), trivial⟩
    · trivial
  case h_12 => exact Layout.unary_all (fun n hn => ⟨hn, trivial⟩) h
  case h_13 => exact Layout.unary_all (fun n hn => ⟨hn, trivial⟩) h
  case h_14 => exact Layout.unary_all (fun n hn => ⟨trivial, hn, trivial⟩) h
  case h_15 => exact Layout.unary_all (fun n hn => ⟨trivial, hn, trivial⟩) h
  case h_16 => exact Layout.unary_all (fun n hn => ⟨trivial, hn, trivial⟩) h
  case h_17 =>
    split
    · exact ⟨h _ (by simp), trivial, h _ (by simp), trivial, h _ (by simp)⟩
    · trivial
  case h_18 => exact Layout.joinNodes_all h
  case h_19 => exact Layout.joinNodes_all h
  case h_20 => trivial
  case h_21 => exact Layout.statements_all h
  case h_22 => exact Layout.whileLoop_all h
  case h_23 => exact Layout.forLoop_all hp h
  case h_24 => exact Layout.functionLiteral_all h
  case h_25 => exact Layout.functionDeclaration_all h
  case h_26 => exact Layout.tryBlock_all hp h
  case h_27 => trivial

theorem Layout.symbolForm_all {p : Node → Prop} (hp : Hereditary p) (hnil : p .nil) {id : Ident}
    (hid : p (.sym id)) {args : List Node} (h : ∀ n ∈ args, p n) : (symbolForm id args).All p := by
  unfold symbolForm
  split
  · split
    · exact methodCall_all (h _ (by simp)) (ident_all ..) fun n hn => h n (by simp [hn])
    · trivial
  · split
    · exact SpecialForm.layout_all hp hnil _ h
    · split
      · exact binary_all h
      · split
        · exact operand_all (fun n hn => ⟨trivial, hn⟩) h
        · split
          · exact operand_all (fun n hn => ⟨hn, trivial⟩) h
          · exact call_all hid h

namespace Node

/-- A hereditary property of the children of a node is one of its layout. A
form may write `nil` where it has no argument to write. -/
theorem layout_all {p : Node → Prop} (hp : Hereditary p) {n : Node}
    (hnil : n.children ≠ [] → p .nil) (h : ∀ m ∈ n.children, p m) : n.layout.All p := by
  unfold layout
  split
  case h_5 => split <;> trivial
  case h_7 | h_8 => exact Layout.ident_all ..
  case h_14 id args =>
    have hargs : ∀ m ∈ args, p m := fun m hm => h m (.tail _ hm)
    exact Layout.symbolForm_all hp (hnil (List.cons_ne_nil _ _)) (h _ (.head _)) hargs
  case h_15 id args => exact Layout.call_all (h _ (.head _)) fun m hm => h m (.tail _ hm)
  case h_16 inner args => exact Layout.call_all (h _ (.head _)) fun m hm => h m (.tail _ hm)
  case h_18 kind items => exact ⟨trivial, Layout.joinNodes_all h, trivial⟩
  case h_19 kind pairs =>
    refine ⟨trivial, Layout.join_all fun l hl => ?_, trivial⟩
    obtain ⟨pair, hpair, rfl⟩ := List.mem_map.1 hl
    obtain ⟨hkey, hvalue⟩ := mem_children_of_mem kind hpair
    exact Layout.entry_all (h _ hkey) (h _ hvalue)
  case h_20 id items => exact h
  all_goals trivial

-- ============================================================= heights

/-- Whatever a node is lower than, its items are lower than. -/
theorem hereditary_height_lt (k : Nat) : Hereditary (·.height < k) where
  form {items} h n hn := by
    have := height_le_heights hn
    rw [height] at h
    omega
  seq {kind items} h n hn := by
    have := height_le_heights hn
    rw [height] at h
    omega

theorem height_lt_of_mem_children {n m : Node} (h : m ∈ n.children) : m.height < n.height := by
  cases n with
  | form items | seq kind items | stream id items =>
    rw [height]
    exact Nat.lt_succ_of_le (height_le_heights h)
  | map kind pairs =>
    obtain ⟨pair, hpair, hm⟩ := List.mem_flatMap.1 h
    have := height_le_pairHeights hpair
    rw [height]
    rcases List.mem_cons.1 hm with rfl | hm
    · omega
    · rw [List.mem_singleton.1 hm]
      omega
  | _ => cases h

/-- Induction on trees: what passes from the children of a node to the node holds
of every node. -/
theorem children_induction {P : Node → Prop} (step : ∀ n, (∀ m ∈ n.children, P m) → P n)
    (n : Node) : P n := by
  induction hk : n.height using Nat.strongRecOn generalizing n with
  | ind k ih =>
    refine step n fun m hm => ih m.height ?_ m rfl
    rw [← hk]
    exact height_lt_of_mem_children hm

/-- Every child of a node is lower than the node. -/
theorem layout_below (n : Node) : n.layout.All (·.height < n.height) := by
  refine layout_all (hereditary_height_lt _) (fun hne => ?_) fun m hm =>
    height_lt_of_mem_children hm
  obtain ⟨m, hm⟩ := List.exists_mem_of_ne_nil _ hne
  exact Nat.zero_lt_of_lt (height_lt_of_mem_children hm)

-- ========================================================= every place

mutual

/-- Whether a node and all nodes below it have a property. -/
def every (p : Node → Bool) : Node → Bool
  | .form items => p (.form items) && everyItem p items
  | .seq kind items => p (.seq kind items) && everyItem p items
  | .map kind pairs => p (.map kind pairs) && everyPair p pairs
  | .stream id items => p (.stream id items) && everyItem p items
  | n => p n
termination_by structural n => n

def everyItem (p : Node → Bool) : List Node → Bool
  | [] => true
  | n :: rest => n.every p && everyItem p rest
termination_by structural ns => ns

def everyPair (p : Node → Bool) : List (Node × Node) → Bool
  | [] => true
  | (k, v) :: rest => k.every p && v.every p && everyPair p rest
termination_by structural ps => ps

end

variable {p : Node → Bool}

theorem everyItem_iff {items : List Node} : everyItem p items ↔ ∀ n ∈ items, n.every p := by
  induction items with
  | nil => simp [everyItem]
  | cons n items ih => simp [everyItem, ih]

theorem everyPair_iff {pairs : List (Node × Node)} :
    everyPair p pairs ↔ ∀ n ∈ pairs.flatMap fun pair => [pair.1, pair.2], n.every p := by
  induction pairs with
  | nil => simp [everyPair]
  | cons pair pairs ih => simp [everyPair, ih, and_assoc]

/-- A property holds at every place of a tree if it holds of the root and at
every place of each child. -/
theorem every_iff {n : Node} : n.every p ↔ p n ∧ ∀ m ∈ n.children, m.every p := by
  cases n <;> simp [every, children, everyItem_iff, everyPair_iff]

theorem hereditary_every (p : Node → Bool) : Hereditary (·.every p) where
  form h := (every_iff.1 h).2
  seq h := (every_iff.1 h).2

end Node

end FormScript
