/-
The shapes of forms. `SpecialForm.accepts` is the table of the shapes that
special forms take, and `SpecialForm.parts` that of the arguments they write;
other arguments are only checked, or not looked at.

`Layout.Admits` says when a layout is written: it holds no failure, and each
of its children is written. The layout of a special form is one exactly if
the form takes its arguments and the parts among them are written
(`SpecialForm.layout_admits_iff`).
-/
import FormScript.Proofs.Hoisting.Forms

namespace FormScript

-- ================================================================ shapes

namespace Node

/-- A symbol or a keyword with a valid local name. -/
def isName : Node → Bool
  | .sym id | .keyword id => isIdentifier id.name
  | _ => false

/-- A sequence of any kind that holds names only. -/
def isParameterList : Node → Bool
  | .seq _ items => items.all isName
  | _ => false

end Node

namespace SpecialForm

open Layout

/-- Whether nodes come in pairs, and at least one pair of them. -/
def inPairs (ns : List Node) : Bool := !ns.isEmpty && ns.length % 2 == 0

/-- Whether these are the arguments of clauses that a try form may have: one
catch clause, which names something, or one finally clause, or both. -/
def acceptsClauses : (catches finallies : List (List Node)) → Bool
  | [], [_] => true
  | [_ :: _], [] => true
  | [_ :: _], [_] => true
  | _, _ => false

/-- Whether the first argument lists bindings in pairs. -/
def acceptsLoop : List Node → Bool
  | .seq _ bindings :: _ => inPairs bindings
  | _ => false

/-- Whether a name and a parameter list stand first. -/
def acceptsNamed : List Node → Bool
  | .sym id :: params :: _ => isIdentifier id.name && params.isParameterList
  | _ => false

/-- Whether a parameter list stands first, or behind a name. -/
def acceptsFunction : List Node → Bool
  | .sym id :: rest => acceptsNamed (.sym id :: rest)
  | params :: _ => params.isParameterList
  | [] => false

/-- Whether a special form takes these arguments. -/
def accepts (form : SpecialForm) (args : List Node) : Bool :=
  match form with
  | .declaration => (evens args).all Node.isName
  | .conditional => args.length == 2 || args.length == 3
  | .result => args.length ≤ 1
  | .deletion | .increment | .decrement | .successor | .predecessor | .definedness =>
    args.length == 1
  | .choice => args.length == 3
  | .assignment => inPairs args
  | .member => 2 ≤ args.length
  | .call | .construction | .index | .whileLoop => 1 ≤ args.length
  | .forLoop => acceptsLoop args
  | .functionLiteral => acceptsFunction args
  | .functionDeclaration => acceptsNamed args
  | .tryBlock => acceptsClauses (args.filterMap catchClause?) (args.filterMap finallyClause?)
  | .concatenation | .path | .conjunction | .disjunction | .raw | .block | .loopExit => true

/-- The nodes that a loop over bindings writes. -/
def loopParts : List Node → List Node
  | .seq _ bindings :: body => bindings ++ body
  | args => args

/-- The body of a function that may have a name. -/
def functionParts : List Node → List Node
  | .sym _ :: args => args.tail
  | args => args.tail

/-- The nodes that a special form writes. -/
def parts (form : SpecialForm) (args : List Node) : List Node :=
  match form with
  | .declaration => odds args
  | .forLoop => loopParts args
  | .functionLiteral => functionParts args
  | .functionDeclaration => args.drop 2
  | .tryBlock => tryParts args
  | .raw | .loopExit => []
  | _ => args

end SpecialForm

-- ============================================================= admission

namespace Layout

/-- Whether a layout holds no failure and its children satisfy a property;
`streams` says whether it may hold a stream. -/
def Admits (streams : Prop) (p : Node → Prop) : Layout → Prop
  | .fail _ => False
  | .node n | .item n => p n
  | .append a b | .late a b => a.Admits streams p ∧ b.Admits streams p
  | .twice a _ | .statement a | .enclosed a => a.Admits streams p
  | .stream _ _ => streams
  | .text _ | .declare _ | .inline _ => True

variable {streams : Prop} {p q : Node → Prop}

section Constructors

variable (s : String) (a b : Layout)

@[simp] theorem text_admits : (text s).Admits streams p := trivial

@[simp] theorem inline_admits : (inline s).Admits streams p := trivial

@[simp] theorem declare_admits (xs : List String) : (declare xs).Admits streams p := trivial

@[simp] theorem fail_not_admits (e : Error) : ¬ (fail e).Admits streams p := id

@[simp] theorem node_admits_iff (n : Node) : (node n).Admits streams p ↔ p n := Iff.rfl

@[simp] theorem item_admits_iff (n : Node) : (item n).Admits streams p ↔ p n := Iff.rfl

@[simp] theorem append_admits_iff :
    (append a b).Admits streams p ↔ a.Admits streams p ∧ b.Admits streams p := Iff.rfl

@[simp] theorem late_admits_iff :
    (late a b).Admits streams p ↔ a.Admits streams p ∧ b.Admits streams p := Iff.rfl

@[simp] theorem twice_admits_iff : (twice a s).Admits streams p ↔ a.Admits streams p := Iff.rfl

@[simp] theorem statement_admits_iff :
    (statement a).Admits streams p ↔ a.Admits streams p := Iff.rfl

@[simp] theorem enclosed_admits_iff :
    (enclosed a).Admits streams p ↔ a.Admits streams p := Iff.rfl

@[simp] theorem malformed_not_admits (cause : Malformed) :
    ¬ (malformed cause).Admits streams p := id

@[simp] theorem empty_admits : empty.Admits streams p := trivial

end Constructors

/-- A property of the children may be exchanged for one that follows from it
at each of them. -/
theorem Admits.imp_all {l : Layout} (hpq : l.All fun n => p n → q n)
    (h : l.Admits streams p) : l.Admits streams q := by
  induction l with
  | text | declare | inline => trivial
  | fail e => exact h
  | stream id items => exact h
  | node n | item n => exact hpq h
  | append a b iha ihb => exact ⟨iha hpq.1 h.1, ihb hpq.2 h.2⟩
  | late a b iha ihb => exact ⟨iha hpq.1 h.1, ihb hpq.2 h.2⟩
  | twice a _ ih => exact ih hpq h
  | statement a ih => exact ih hpq h
  | enclosed a ih => exact ih hpq h

section Runs

variable {dedupe : Bool} {write : Node → EmitM String}

/-- Every child of a layout that is written is written at some point, unless
it comes from a stream. -/
theorem admits_of_run_ok {l : Layout} {r r' : Run} {t : String}
    (h : l.run dedupe write r = .ok t r') :
    l.Admits True fun n => ∃ s x s', write n s = .ok x s' := by
  induction l generalizing r t r' with
  | text | declare | inline | stream => trivial
  | fail e => cases h
  | node n => exact ⟨r, t, r', h⟩
  | item n => exact ⟨r, t, r', run_item_ok_iff.1 h⟩
  | append a b iha ihb =>
      obtain ⟨x, s, y, hx, hy, -⟩ := run_append_ok_iff.1 h
      exact ⟨iha hx, ihb hy⟩
  | late a b iha ihb =>
      obtain ⟨y, s, x, hy, hx, -⟩ := run_late_ok_iff.1 h
      exact ⟨iha hx, ihb hy⟩
  | twice a between ih =>
      obtain ⟨x, hx, -⟩ := run_twice_ok_iff.1 h
      exact ih hx
  | statement a ih =>
      obtain ⟨x, hx, -⟩ := run_statement_ok_iff.1 h
      exact ih hx
  | enclosed a ih =>
      obtain ⟨x, s, hx, -⟩ := run_enclosed_ok_iff.1 h
      exact ih hx

/-- A layout whose children are written from any run is written from any
run. -/
theorem run_ok_of_admits {l : Layout}
    (h : l.Admits False fun n => ∀ s, ∃ x s', write n s = .ok x s') (r : Run) :
    ∃ t r', l.run dedupe write r = .ok t r' := by
  induction l generalizing r with
  | fail e => exact h.elim
  | stream id items => exact h.elim
  | text s => exact ⟨s, r, rfl⟩
  | declare names => exact ⟨_, _, rfl⟩
  | inline s => exact ⟨_, _, rfl⟩
  | node n => exact h r
  | item n =>
      obtain ⟨x, s, hx⟩ := h r
      exact ⟨x, s, run_item_ok_iff.2 hx⟩
  | append a b iha ihb =>
      obtain ⟨x, s, hx⟩ := iha h.1 r
      obtain ⟨y, s', hy⟩ := ihb h.2 s
      exact ⟨_, _, run_append_ok_iff.2 ⟨x, s, y, hx, hy, rfl⟩⟩
  | late a b iha ihb =>
      obtain ⟨y, s, hy⟩ := ihb h.2 r
      obtain ⟨x, s', hx⟩ := iha h.1 s
      exact ⟨_, _, run_late_ok_iff.2 ⟨y, s, x, hy, hx, rfl⟩⟩
  | twice a between ih =>
      obtain ⟨x, s, hx⟩ := ih h r
      exact ⟨_, _, run_twice_ok_iff.2 ⟨x, hx, rfl⟩⟩
  | statement a ih =>
      obtain ⟨x, s, hx⟩ := ih h r
      exact ⟨_, _, run_statement_ok_iff.2 ⟨x, hx, rfl⟩⟩
  | enclosed a ih =>
      obtain ⟨x, s, hx⟩ := ih h { r with scope := some { dedupe } }
      exact ⟨_, _, run_enclosed_ok_iff.2 ⟨x, s, hx, rfl, rfl⟩⟩

end Runs

-- ======================================================== parts of layouts

theorem seq_admits_iff {ls : List Layout} :
    (seq ls).Admits streams p ↔ ∀ l ∈ ls, l.Admits streams p := by
  induction ls with
  | nil => simp [seq, empty]
  | cons l ls ih =>
      cases ls with
      | nil => simp [seq]
      | cons m ls =>
          rw [seq, append_admits_iff, ih, List.forall_mem_cons (a := l)]
          exact List.cons_ne_nil m ls

theorem join_admits_iff {sep : String} {ls : List Layout} :
    (join sep ls).Admits streams p ↔ ∀ l ∈ ls, l.Admits streams p := by
  induction ls with
  | nil => simp [join, empty]
  | cons l ls ih =>
      cases ls with
      | nil => simp [join]
      | cons m ls =>
          rw [join, append_admits_iff, append_admits_iff, ih, List.forall_mem_cons (a := l),
            and_iff_right (text_admits sep)]
          exact List.cons_ne_nil m ls

theorem joinNodes_admits_iff {sep : String} {ns : List Node} :
    (joinNodes sep ns).Admits streams p ↔ ∀ n ∈ ns, p n := by
  rw [joinNodes, join_admits_iff, List.forall_mem_map]
  rfl

theorem statements_admits_iff {ns : List Node} :
    (statements ns).Admits streams p ↔ ∀ n ∈ ns, p n := by
  rw [statements, seq_admits_iff, List.forall_mem_map]
  rfl

theorem arguments_admits_iff {ns : List Node} :
    (arguments ns).Admits streams p ↔ ∀ n ∈ ns, p n := by
  simp [arguments, seq, joinNodes_admits_iff]

theorem ident_admits_iff {shown : String} {id : Ident} :
    (ident shown id).Admits streams p ↔ isIdentifier id.name := by
  unfold ident
  split <;> simp [*]

theorem callee_admits_iff {n : Node} : (callee n).Admits streams p ↔ p n := by
  unfold callee
  split
  · simp [seq]
  · rfl

theorem call_admits_iff {f : Node} {args : List Node} :
    (call f args).Admits streams p ↔ ∀ n ∈ f :: args, p n := by
  simp [call, seq, callee_admits_iff, arguments_admits_iff]

theorem methodCall_admits_iff {object : Node} {method : Layout} {args : List Node} :
    (methodCall object method args).Admits streams p
      ↔ method.Admits streams p ∧ ∀ n ∈ object :: args, p n := by
  simp only [methodCall, seq, append_admits_iff, node_admits_iff, text_admits, true_and,
    arguments_admits_iff, List.forall_mem_cons]
  exact and_left_comm

-- declarations

/-- A traversal succeeds when it succeeds at each element. -/
theorem exists_mapM_ok_iff {α β ε : Type} {g : α → Except ε β} {xs : List α} :
    (∃ ys, xs.mapM g = .ok ys) ↔ ∀ x ∈ xs, ∃ y, g x = .ok y := by
  induction xs with
  | nil => simp [pure, Except.pure]
  | cons x xs ih =>
      rw [List.forall_mem_cons, ← ih, List.mapM_cons]
      cases hx : g x with
      | error e => simp [bind, Except.bind]
      | ok y =>
          cases hxs : xs.mapM g with
          | error e => simp [bind, Except.bind]
          | ok ys => simp [bind, Except.bind, pure, Except.pure]

/-- A declaration is one of names: each is looked at twice, once for being a
symbol or a keyword and once for being valid. -/
theorem declaredNames_ok_iff {ns : List Node} :
    (∃ xs, declaredNames ns = .ok xs) ↔ ∀ n ∈ ns, n.isName := by
  have hname (n : Node) : n.isName ↔ n.ident?.isSome ∧ isIdentifier (localName n) := by
    cases n <;> simp [Node.isName, Node.ident?, localName]
  unfold declaredNames
  generalize hnamed : ns.mapM (m := Except FormError) _ = named
  have hpaired : (∃ xs, named = .ok xs) ↔ ∀ n ∈ ns, n.ident?.isSome := by
    rw [← hnamed, exists_mapM_ok_iff]
    refine forall₂_congr fun n _ => ?_
    cases n <;> simp [Node.ident?]
  cases named with
  | error e =>
      have hnone : ¬ ∀ n ∈ ns, n.ident?.isSome := by
        intro h
        obtain ⟨xs, hxs⟩ := hpaired.2 h
        cases hxs
      constructor
      · rintro ⟨xs, hxs⟩
        cases hxs
      · intro h
        exact absurd (fun n hn => ((hname n).1 (h n hn)).1) hnone
  | ok named =>
      have hlocal : named.map Prod.snd = ns.map localName := by
        refine map_of_mapM_ok ?_ hnamed
        intro n y hy
        cases n <;> cases hy <;> rfl
      have hvalid : (∀ x ∈ named.map Prod.snd, isIdentifier x)
          ↔ ∀ n ∈ ns, isIdentifier (localName n) := by
        rw [hlocal, List.forall_mem_map]
      have hsome := hpaired.1 ⟨named, rfl⟩
      refine exists_mapM_ok_iff.trans ?_
      have hboth : (∀ n ∈ ns, n.isName) ↔ ∀ n ∈ ns, isIdentifier (localName n) := by
        refine forall₂_congr fun n hn => (hname n).trans ?_
        exact and_iff_right (hsome n hn)
      rw [hboth, ← hvalid, List.forall_mem_map]
      refine forall₂_congr fun pair _ => ?_
      obtain ⟨shown, name⟩ := pair
      by_cases hid : isIdentifier name <;> simp [hid]

theorem initialisers_admits_iff {args : List Node} :
    (seq (initialisers args)).Admits streams p ↔ ∀ n ∈ odds args, p n := by
  rw [seq_admits_iff]
  fun_induction initialisers args with
  | case1 => simp [odds]
  | case2 n => simp [odds]
  | case3 n value rest ih =>
      rw [List.forall_mem_cons, ih, odds, List.forall_mem_cons]
      simp [seq]

theorem declaration_admits_iff {args : List Node} :
    (declaration args).Admits streams p
      ↔ (evens args).all Node.isName ∧ ∀ n ∈ odds args, p n := by
  rw [List.all_eq_true, ← declaredNames_ok_iff]
  unfold declaration
  cases declaredNames (evens args) with
  | error e => simp
  | ok xs => simp [initialisers_admits_iff]

/-- A layout for pairs only. -/
theorem inPairs_admits_iff {cause : Malformed} {ns : List Node} {written : Layout} {all : Prop}
    (h : ns.length % 2 = 0 → (written.Admits streams p ↔ all)) :
    (if ns.isEmpty || ns.length % 2 == 1 then malformed cause else written).Admits streams p
      ↔ SpecialForm.inPairs ns ∧ all := by
  unfold SpecialForm.inPairs
  rcases ns.length.mod_two_eq_zero_or_one with heven | hodd
  · cases hempty : ns.isEmpty with
    | true => simp
    | false => simp [heven, h heven]
  · simp [hodd]

theorem assignments_admits_iff {args : List Node} (h : args.length % 2 = 0) :
    (seq (assignments args)).Admits streams p ↔ ∀ n ∈ args, p n := by
  rw [seq_admits_iff]
  fun_induction assignments args with
  | case1 target value rest ih =>
      rw [List.forall_mem_cons, ih (by simp at h; omega)]
      simp [seq, and_assoc]
  | case2 args hargs =>
      rcases args with _ | ⟨a, _ | ⟨b, rest⟩⟩
      · simp
      · cases h
      · exact absurd rfl (hargs a b rest)

-- functions

theorem parameter_admits_iff {n : Node} : (parameter n).Admits streams p ↔ n.isName := by
  cases n with
  | sym id => exact ident_admits_iff
  | keyword id => exact ident_admits_iff
  | _ => simp [parameter, Node.isName]

theorem function_admits_iff {label : Layout} {params : Node} {body : List Node} :
    (function label params body).Admits streams p
      ↔ label.Admits streams p ∧ params.isParameterList ∧ ∀ n ∈ body, p n := by
  have hitems (items : List Node) :
      (join ", " (items.map parameter)).Admits streams p ↔ items.all Node.isName := by
    rw [join_admits_iff, List.forall_mem_map, List.all_eq_true]
    simp only [parameter_admits_iff]
  unfold function
  cases params with
  | seq kind items =>
      simp [Node.seqItems?, Node.isParameterList, seq, hitems, statements_admits_iff,
        and_assoc]
  | _ => simp [Node.seqItems?, Node.isParameterList]

theorem functionDeclaration_admits_iff {args : List Node} :
    (functionDeclaration args).Admits streams p
      ↔ SpecialForm.acceptsNamed args ∧ ∀ n ∈ args.drop 2, p n := by
  match args with
  | [] => simp [functionDeclaration, SpecialForm.acceptsNamed]
  | [n] => cases n <;> simp [functionDeclaration, SpecialForm.acceptsNamed]
  | name :: params :: body =>
      cases name with
      | sym id =>
          rw [functionDeclaration, function_admits_iff, symName, ident_admits_iff]
          simp [SpecialForm.acceptsNamed, and_assoc]
      | _ => simp [functionDeclaration, SpecialForm.acceptsNamed]

theorem functionLiteral_admits_iff {args : List Node} :
    (functionLiteral args).Admits streams p
      ↔ SpecialForm.acceptsFunction args ∧ ∀ n ∈ SpecialForm.functionParts args, p n := by
  unfold functionLiteral
  split
  · simp [SpecialForm.acceptsFunction]
  · simp [SpecialForm.acceptsFunction, SpecialForm.acceptsNamed]
  · rename_i id params body
    rw [SpecialForm.acceptsFunction, SpecialForm.acceptsNamed, SpecialForm.functionParts]
    by_cases hid : isIdentifier id.name
    · rw [if_pos hid]
      simp [seq, function_admits_iff, hid]
    · rw [if_neg hid, symName, ident_admits_iff]
      simp [hid]
  · rename_i params body hlone hnamed
    rw [function_admits_iff]
    cases params with
    | sym id =>
        cases body with
        | nil => exact (hlone id rfl rfl).elim
        | cons m body => exact (hnamed id m body rfl rfl).elim
    | _ => simp [SpecialForm.acceptsFunction, SpecialForm.functionParts]

-- loops

theorem forLoops_admits_iff {inner : Layout} {items : List Node} (h : items.length % 2 = 0) :
    (forLoops inner items).Admits streams p
      ↔ inner.Admits streams p ∧ ∀ n ∈ items, p n := by
  fun_induction forLoops inner items with
  | case1 name collection rest ih =>
      rw [append_admits_iff, late_admits_iff, ih (by simp at h; omega), List.forall_mem_cons,
        List.forall_mem_cons]
      simp only [seq, append_admits_iff, text_admits, node_admits_iff, true_and, and_true,
        and_assoc]
      rw [and_left_comm (b := inner.Admits streams p), and_left_comm (b := inner.Admits streams p)]
  | case2 items hitems =>
      rcases items with _ | ⟨a, _ | ⟨b, rest⟩⟩
      · simp
      · cases h
      · exact absurd rfl (hitems a b rest)

theorem forLoop_admits_iff {args : List Node} :
    (forLoop args).Admits streams p
      ↔ SpecialForm.acceptsLoop args ∧ ∀ n ∈ SpecialForm.loopParts args, p n := by
  unfold forLoop
  cases args with
  | nil => simp [SpecialForm.acceptsLoop]
  | cons bindings body =>
      cases bindings with
      | seq kind items =>
          refine inPairs_admits_iff fun heven => ?_
          rw [forLoops_admits_iff heven, statements_admits_iff, SpecialForm.loopParts,
            List.forall_mem_append]
          exact and_comm
      | _ => simp [Node.seqItems?, SpecialForm.acceptsLoop]

theorem whileLoop_admits_iff {args : List Node} :
    (whileLoop args).Admits streams p ↔ 1 ≤ args.length ∧ ∀ n ∈ args, p n := by
  cases args with
  | nil => simp [whileLoop]
  | cons test body => simp [whileLoop, seq, statements_admits_iff]

-- try forms

theorem catchPart_admits_iff {all clause : List Node} :
    (tryBlock.catchPart all clause).Admits streams p ↔ clause ≠ [] ∧ ∀ n ∈ clause, p n := by
  cases clause with
  | nil => simp [tryBlock.catchPart, tryBlock.flawed]
  | cons name body => simp [tryBlock.catchPart, seq, statements_admits_iff]

theorem finallyPart_admits_iff {clause : List Node} :
    (tryBlock.finallyPart clause).Admits streams p ↔ ∀ n ∈ clause, p n := by
  simp [tryBlock.finallyPart, seq, statements_admits_iff]

/-- The parts of a try form with these clauses. -/
theorem tryBlock_parts_admits_iff {all body : List Node} {catches finallies : List (List Node)} :
    (seq [.text "try\x7b\n", statements body, .text "\x7d\n",
        seq (catches.map (tryBlock.catchPart all)),
        seq (finallies.map tryBlock.finallyPart)]).Admits streams p
      ↔ (∀ clause ∈ catches, clause ≠ [])
        ∧ ∀ n ∈ body ++ catches.flatten ++ finallies.flatten, p n := by
  have hcatches : (seq (catches.map (tryBlock.catchPart all))).Admits streams p
      ↔ (∀ clause ∈ catches, clause ≠ []) ∧ ∀ n ∈ catches.flatten, p n := by
    rw [seq_admits_iff, List.forall_mem_map, List.forall_mem_flatten]
    simp only [catchPart_admits_iff]
    constructor
    · intro h
      exact ⟨fun clause hc => (h clause hc).1, fun clause hc => (h clause hc).2⟩
    · rintro ⟨hnames, hparts⟩ clause hc
      exact ⟨hnames clause hc, hparts clause hc⟩
  have hfinallies : (seq (finallies.map tryBlock.finallyPart)).Admits streams p
      ↔ ∀ n ∈ finallies.flatten, p n := by
    rw [seq_admits_iff, List.forall_mem_map, List.forall_mem_flatten]
    simp only [finallyPart_admits_iff]
  simp only [seq, append_admits_iff, text_admits, true_and, statements_admits_iff, hcatches,
    hfinallies, List.forall_mem_append, and_assoc]
  exact and_left_comm

theorem tryBlock_admits_iff {args : List Node} :
    (tryBlock args).Admits streams p
      ↔ SpecialForm.acceptsClauses (args.filterMap catchClause?)
          (args.filterMap finallyClause?)
        ∧ ∀ n ∈ tryParts args, p n := by
  unfold tryBlock tryParts
  generalize args.filterMap catchClause? = catches
  generalize args.filterMap finallyClause? = finallies
  have flawed (cause : MalformedTry) : ¬ (tryBlock.flawed args cause).Admits streams p := id
  match catches, finallies with
  | [], [] => simp [flawed, SpecialForm.acceptsClauses]
  | _ :: _ :: _, _ => simp [flawed, SpecialForm.acceptsClauses]
  | [], _ :: _ :: _ => simp [flawed, SpecialForm.acceptsClauses]
  | [_], _ :: _ :: _ => simp [flawed, SpecialForm.acceptsClauses]
  | [], [last] =>
      rw [tryBlock_parts_admits_iff]
      simp [SpecialForm.acceptsClauses]
  | [handler], [] =>
      rw [tryBlock_parts_admits_iff]
      cases handler <;> simp [SpecialForm.acceptsClauses]
  | [handler], [last] =>
      rw [tryBlock_parts_admits_iff]
      cases handler <;> simp [SpecialForm.acceptsClauses]

-- small forms

/-- An else branch of `nil` is not written, and would be. -/
theorem conditional_admits_iff (hnil : p .nil) {args : List Node} :
    (conditional args).Admits streams p
      ↔ (args.length = 2 ∨ args.length = 3) ∧ ∀ n ∈ args, p n := by
  match args with
  | [] => simp [conditional]
  | [n] => simp [conditional]
  | [test, yes] => simp [conditional, conditional.branch, seq]
  | [test, yes, no] =>
      cases no with
      | nil => simp [conditional, conditional.branch, seq, hnil]
      | _ => simp [conditional, conditional.branch, seq, and_assoc]
  | _ :: _ :: _ :: _ :: _ => simp [conditional]

theorem unary_admits_iff {name : String} {write : Node → Layout}
    (hw : ∀ n, (write n).Admits streams p ↔ p n) {args : List Node} :
    (unary name write args).Admits streams p ↔ args.length == 1 ∧ ∀ n ∈ args, p n := by
  match args with
  | [] => simp [unary]
  | [n] => simp [unary, hw]
  | _ :: _ :: _ => simp [unary]

theorem index_admits_iff {target : Node} {keys : List Node} :
    (seq (.node target :: keys.map fun key => seq [.text "[", .item key, .text "]"])).Admits
        streams p
      ↔ ∀ n ∈ target :: keys, p n := by
  rw [seq_admits_iff, List.forall_mem_cons, List.forall_mem_map, List.forall_mem_cons]
  simp [seq]

theorem binary_admits_iff {op : String} {args : List Node} :
    (binary op args).Admits streams p
      ↔ Operator.accepts op args.length ∧ ∀ n ∈ args, p n := by
  unfold binary
  split
  · rename_i haccepts
    simp [seq, joinNodes_admits_iff, haccepts]
  · rename_i haccepts
    simp [haccepts]

theorem entry_admits_iff {pair : Node × Node} :
    (entry pair).Admits streams p ↔ p pair.1 ∧ p pair.2 := by
  simp [entry, seq]

theorem operand_admits_iff {op : String} {write : Node → Layout}
    (hw : ∀ n, (write n).Admits streams p ↔ p n) {args : List Node} :
    (operand op write args).Admits streams p ↔ args.length = 1 ∧ ∀ n ∈ args, p n := by
  match args with
  | [] => simp [operand]
  | [n] => simp [operand, hw]
  | _ :: _ :: _ => simp [operand]

end Layout

-- ========================================================== special forms

open Layout

/-- A special form is written when it takes its arguments and its parts are
written. -/
theorem SpecialForm.layout_admits_iff {streams : Prop} {p : Node → Prop}
    (hnil : p .nil) {form : SpecialForm} {args : List Node} :
    (form.layout args).Admits streams p
      ↔ form.accepts args ∧ ∀ n ∈ form.parts args, p n := by
  cases form with
  | declaration => exact declaration_admits_iff
  | call =>
      cases args with
      | nil => simp [layout, accepts]
      | cons f rest => simp [layout, call_admits_iff, accepts, parts]
  | concatenation => simp [layout, joinNodes_admits_iff, accepts, parts]
  | member =>
      rcases args with _ | ⟨object, _ | ⟨method, rest⟩⟩
      · simp [layout, accepts]
      · simp [layout, accepts]
      · simpa [layout, methodCall_admits_iff, accepts, parts] using and_left_comm
  | path => simp [layout, joinNodes_admits_iff, accepts, parts]
  | conditional => simpa [layout, accepts, parts] using conditional_admits_iff hnil
  | result =>
      rcases args with _ | ⟨n, _ | ⟨_, _⟩⟩
      · simp [layout, seq, accepts, parts, hnil]
      · simp [layout, seq, accepts, parts]
      · simp [layout, accepts]
  | deletion => exact unary_admits_iff fun n => by simp [seq]
  | assignment => exact inPairs_admits_iff assignments_admits_iff
  | construction =>
      cases args with
      | nil => simp [layout, accepts]
      | cons f rest => simp [layout, seq, arguments_admits_iff, accepts, parts]
  | index =>
      cases args with
      | nil => simp [layout, accepts]
      | cons target keys =>
          rw [layout, index_admits_iff]
          simp [accepts, parts]
  | increment => exact unary_admits_iff fun n => by simp [seq]
  | decrement => exact unary_admits_iff fun n => by simp [seq]
  | successor => exact unary_admits_iff fun n => by simp [seq]
  | predecessor => exact unary_admits_iff fun n => by simp [seq]
  | definedness => exact unary_admits_iff fun n => by simp [seq]
  | choice =>
      rcases args with _ | ⟨test, _ | ⟨yes, _ | ⟨no, _ | ⟨_, _⟩⟩⟩⟩
      · simp [layout, accepts]
      · simp [layout, accepts]
      · simp [layout, accepts]
      · simp [layout, seq, accepts, parts]
      · simp [layout, accepts]
  | conjunction => simp [layout, joinNodes_admits_iff, accepts, parts]
  | disjunction => simp [layout, joinNodes_admits_iff, accepts, parts]
  | raw => simp [layout, accepts, parts]
  | block => simp [layout, statements_admits_iff, accepts, parts]
  | whileLoop => simpa [layout, accepts, parts] using whileLoop_admits_iff
  | forLoop => exact forLoop_admits_iff
  | functionLiteral => exact functionLiteral_admits_iff
  | functionDeclaration => exact functionDeclaration_admits_iff
  | tryBlock => exact tryBlock_admits_iff
  | loopExit => simp [layout, accepts, parts]

/-- What holds of the arguments of a special form, and is passed down from
forms and sequences to their items, holds of its parts. -/
theorem SpecialForm.forall_mem_parts {q : Node → Prop} (hq : Node.Hereditary q)
    {form : SpecialForm} {args : List Node} (h : ∀ n ∈ args, q n) :
    ∀ n ∈ form.parts args, q n := by
  intro n hn
  unfold parts at hn
  split at hn
  · exact h n (mem_of_mem_odds hn)
  · unfold loopParts at hn
    split at hn
    · rcases List.mem_append.1 hn with hn | hn
      · exact hq.seq (h _ (.head _)) n hn
      · exact h n (.tail _ hn)
    · exact h n hn
  · unfold functionParts at hn
    split at hn
    · exact h n (.tail _ (List.mem_of_mem_tail hn))
    · exact h n (List.mem_of_mem_tail hn)
  · exact h n (List.mem_of_mem_drop hn)
  · exact forall_mem_tryParts hq h n hn
  · cases hn
  · cases hn
  · exact h n hn

end FormScript
