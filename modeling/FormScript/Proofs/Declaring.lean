/-
What an emission does to the open scope: it declares valid names in it, one
after another, and nothing else. This holds of every emission, also of one that
fails, and whatever it had done by then.

# The argument

`Scope.GrowsTo` relates a scope to one that comes from it by declarations of
valid names, and a computation `Declares` if the scope that it leaves has grown
from the one that it found. Sequencing keeps this, and a body with a scope of
its own leaves the open one alone, so layouts declare if their children do and
the names in them are valid (`Layout.run_declares`).

Only two forms name anything in their own layout, and they do so before they
write anything: `Layout.Announced` says so, and that all other layouts are
`Layout.Quiet`. `Emitter.emitAt_declares` puts the two halves together.
-/
import Mathlib.Data.List.Nodup
import FormScript.Proofs.WellFormed.Shape

namespace FormScript

-- ================================================================= scopes

namespace Scope

theorem names_prefix_declare (s : Scope) (x : String) :
    s.names <+: (s.declare x).names := by
  unfold declare
  split
  · exact List.prefix_rfl
  · exact List.prefix_append _ _

@[simp] theorem declare_dedupe (s : Scope) (x : String) :
    (s.declare x).dedupe = s.dedupe := by
  unfold declare
  split <;> rfl

theorem mem_declare {s : Scope} {x y : String} :
    y ∈ (s.declare x).names ↔ y ∈ s.names ∨ y = x := by
  unfold declare
  split
  · rename_i hdup
    simp only [Bool.and_eq_true, List.contains_iff_mem] at hdup
    constructor
    · exact Or.inl
    · rintro (hy | rfl)
      · exact hy
      · exact hdup.2
  · simp

/-- A scope that dedupes holds each name once. -/
theorem nodup_declare {s : Scope} (hdedupe : s.dedupe) (h : s.names.Nodup)
    (x : String) : (s.declare x).names.Nodup := by
  unfold declare
  split
  · exact h
  · rename_i hnew
    have hx : x ∉ s.names := by simpa [hdedupe] using hnew
    rw [← List.concat_eq_append]
    exact (List.nodup_concat _ _).2 ⟨hx, h⟩

theorem names_prefix_declareAll (s : Scope) (xs : List String) :
    s.names <+: (s.declareAll xs).names := by
  induction xs generalizing s with
  | nil => exact List.prefix_rfl
  | cons x xs ih => exact (s.names_prefix_declare x).trans (ih (s.declare x))

@[simp] theorem declareAll_dedupe (s : Scope) (xs : List String) :
    (s.declareAll xs).dedupe = s.dedupe := by
  induction xs generalizing s with
  | nil => rfl
  | cons x xs ih => rw [declareAll_cons, ih, declare_dedupe]

theorem mem_declareAll {s : Scope} {xs : List String} {y : String} :
    y ∈ (s.declareAll xs).names ↔ y ∈ s.names ∨ y ∈ xs := by
  induction xs generalizing s with
  | nil => simp
  | cons x xs ih => rw [declareAll_cons, ih, mem_declare, List.mem_cons, or_assoc]

theorem nodup_declareAll {s : Scope} (hdedupe : s.dedupe) (h : s.names.Nodup)
    (xs : List String) : (s.declareAll xs).names.Nodup := by
  induction xs generalizing s with
  | nil => exact h
  | cons x xs ih =>
      refine ih ?_ (nodup_declare hdedupe h x)
      rwa [declare_dedupe]

/-- A scope that does not dedupe lists all the names that it is given. -/
theorem names_declareAll {s : Scope} (h : s.dedupe = false) (xs : List String) :
    (s.declareAll xs).names = s.names ++ xs := by
  induction xs generalizing s with
  | nil => exact (List.append_nil _).symm
  | cons x xs ih =>
      have hlisted : (s.declare x).names = s.names ++ [x] := by simp [declare, h]
      have hlists : (s.declare x).dedupe = false := by rw [declare_dedupe, h]
      rw [declareAll_cons, ih hlists, hlisted, List.append_assoc, List.singleton_append]

/-- The open scope, if there is one, after some valid names have been declared
in it. -/
def GrowsTo (old new : Option Scope) : Prop :=
  ∃ xs : List String, (∀ x ∈ xs, isIdentifier x) ∧ new = old.map (·.declareAll xs)

theorem growsTo_refl (s : Option Scope) : GrowsTo s s := by
  refine ⟨[], by simp, ?_⟩
  cases s <;> rfl

theorem GrowsTo.trans {s t u : Option Scope} (hst : GrowsTo s t)
    (htu : GrowsTo t u) : GrowsTo s u := by
  obtain ⟨xs, hxs, rfl⟩ := hst
  obtain ⟨ys, hys, rfl⟩ := htu
  refine ⟨xs ++ ys, ?_, ?_⟩
  · intro x hx
    rcases List.mem_append.1 hx with hx | hx
    · exact hxs x hx
    · exact hys x hx
  · cases s with
    | none => rfl
    | some s => exact congrArg some (s.declareAll_append xs ys).symm

/-- An open scope stays open, and its names stay in front. -/
theorem GrowsTo.exists_some {s : Scope} {t : Option Scope}
    (h : GrowsTo (some s) t) :
    ∃ s', t = some s' ∧ s.names <+: s'.names ∧ s'.dedupe = s.dedupe := by
  obtain ⟨xs, -, rfl⟩ := h
  exact ⟨_, rfl, s.names_prefix_declareAll xs, s.declareAll_dedupe xs⟩

theorem GrowsTo.isSome {s t : Option Scope} (h : GrowsTo s t) (hs : s.isSome) : t.isSome := by
  obtain ⟨xs, -, rfl⟩ := h
  rwa [Option.isSome_map]

theorem GrowsTo.eq_none {t : Option Scope} (h : GrowsTo none t) : t = none := by
  obtain ⟨xs, -, rfl⟩ := h
  rfl

/-- What growth goes back to: an open scope that is empty at the end was empty
before. -/
theorem GrowsTo.empty {s t : Option Scope} (h : GrowsTo s t)
    (ht : ∃ u, t = some u ∧ u.names = []) : ∃ u, s = some u ∧ u.names = [] := by
  obtain ⟨xs, -, rfl⟩ := h
  obtain ⟨u, hu, hnames⟩ := ht
  obtain ⟨v, rfl, rfl⟩ := Option.map_eq_some_iff.1 hu
  exact ⟨v, rfl, List.prefix_nil.1 (hnames ▸ v.names_prefix_declareAll xs)⟩

/-- Only valid names come into a scope. -/
theorem GrowsTo.valid {s s' : Scope} (h : GrowsTo (some s) (some s'))
    (hs : ∀ x ∈ s.names, isIdentifier x) : ∀ x ∈ s'.names, isIdentifier x := by
  obtain ⟨xs, hxs, heq⟩ := h
  cases heq
  intro x hx
  rcases mem_declareAll.1 hx with hx | hx
  · exact hs x hx
  · exact hxs x hx

theorem GrowsTo.nodup {s s' : Scope} (h : GrowsTo (some s) (some s'))
    (hdedupe : s.dedupe) (hs : s.names.Nodup) : s'.names.Nodup := by
  obtain ⟨xs, -, heq⟩ := h
  cases heq
  exact nodup_declareAll hdedupe hs xs

end Scope

-- =========================================================== computations

namespace EmitM

variable {α β : Type}

/-- The run that a computation leaves, be it by a success or by a failure. -/
def after (m : EmitM α) (r : Run) : Run :=
  match m r with
  | .ok _ s => s
  | .error _ s => s

theorem after_of_ok {m : EmitM α} {r s : Run} {a : α} (h : m r = .ok a s) :
    m.after r = s := by
  rw [after, h]

theorem after_of_error {m : EmitM α} {r s : Run} {e : Error}
    (h : m r = .error e s) : m.after r = s := by
  rw [after, h]

theorem after_congr {m m' : EmitM α} {r r' : Run} (h : m r = m' r') :
    m.after r = m'.after r' := by
  rw [after, h, after]

/-- A computation that does nothing to the open scope but declare valid names
in it, also if it fails. -/
def Declares (m : EmitM α) : Prop :=
  ∀ r, Scope.GrowsTo r.scope (m.after r).scope

theorem Declares.of_ok {m : EmitM α} (hm : m.Declares) {r s : Run} {a : α}
    (h : m r = .ok a s) : Scope.GrowsTo r.scope s.scope := by
  have hgrows := hm r
  rwa [after_of_ok h] at hgrows

theorem pure_declares (a : α) : Declares (pure a : EmitM α) :=
  fun r => Scope.growsTo_refl r.scope

theorem throw_declares (e : Error) : Declares (throw e : EmitM α) :=
  fun r => Scope.growsTo_refl r.scope

/-- What follows a step declares in the scope that the step leaves. -/
theorem after_bind_grows {m : EmitM α} {f : α → EmitM β} (hf : ∀ a, Declares (f a))
    (r : Run) : Scope.GrowsTo (m.after r).scope ((m >>= f).after r).scope := by
  cases h : m r with
  | ok a s =>
      rw [after_of_ok h, after_congr (bind_ok h)]
      exact hf a s
  | error e s =>
      rw [after_of_error h, after_of_error (bind_error h)]
      exact Scope.growsTo_refl s.scope

theorem bind_declares {m : EmitM α} {f : α → EmitM β} (hm : Declares m)
    (hf : ∀ a, Declares (f a)) : Declares (m >>= f) :=
  fun r => (hm r).trans (after_bind_grows hf r)

theorem declare_declares {names : List String} (h : ∀ x ∈ names, isIdentifier x) :
    Declares (declare names) :=
  fun _ => ⟨names, h, rfl⟩

/-- A body with a scope of its own leaves the open scope as it was. -/
theorem inScope_scope (scope : Scope) (body : EmitM String) (r : Run) :
    ((inScope scope body).after r).scope = r.scope := by
  unfold after inScope
  cases body { r with scope := some scope } with
  | ok x s => rfl
  | error e s => rfl

/-- An iteration around a step makes no difference to the run that is left. -/
theorem after_iterated (m : EmitM α) (r : Run) : (iterated m).after r = m.after r := by
  unfold after iterated
  cases m r with
  | ok a s => rfl
  | error e s => rfl

theorem iterated_declares {m : EmitM α} (h : Declares m) : Declares (iterated m) := by
  intro r
  rw [after_iterated]
  exact h r

theorem ofExcept_declares (x : Except Error α) : Declares (ofExcept x) := by
  cases x with
  | ok a => exact pure_declares a
  | error e => exact throw_declares e

theorem takeAll_declares {write : Node → EmitM String} (id : Identity)
    {items : List Node} (h : ∀ n ∈ items, Declares (write n)) (index : Nat) :
    Declares (takeAll write id index items) := by
  induction items generalizing index with
  | nil => exact pure_declares []
  | cons n rest ih =>
      have hrest := ih fun m hm => h m (.tail _ hm)
      have htaken := bind_declares (h n (.head _)) fun text =>
        bind_declares (hrest (index + 1)) fun texts => pure_declares (text :: texts)
      intro r
      by_cases hpos : r.streams.position id ≤ index
      · rw [after_congr (takeAll_cons_eq_of_le hpos)]
        exact htaken { r with streams := r.streams.advance id (index + 1) }
      · rw [after_congr (takeAll_cons_of_lt (by omega))]
        exact hrest (index + 1) r

end EmitM

-- ================================================================ layouts

namespace Layout

/-- Whether all names that a layout declares are valid. -/
def NamesValid : Layout → Prop
  | .declare names => ∀ x ∈ names, isIdentifier x
  | .append a b | .late a b => a.NamesValid ∧ b.NamesValid
  | .twice a _ | .statement a | .enclosed a => a.NamesValid
  | _ => True

/-- Writing a layout declares valid names only, if its own names are valid and
its children do so. -/
theorem run_declares {dedupe : Bool} {write : Node → EmitM String} {l : Layout}
    (hl : l.NamesValid) (h : l.All fun n => (write n).Declares) :
    (l.run dedupe write).Declares := by
  induction l with
  | text s => exact EmitM.pure_declares s
  | node n => exact h
  | item n => exact EmitM.iterated_declares h
  | fail e => exact EmitM.throw_declares e
  | append a b iha ihb =>
      exact EmitM.bind_declares (iha hl.1 h.1) fun x =>
        EmitM.bind_declares (ihb hl.2 h.2) fun y => EmitM.pure_declares (x ++ y)
  | late a b iha ihb =>
      exact EmitM.bind_declares (ihb hl.2 h.2) fun y =>
        EmitM.bind_declares (iha hl.1 h.1) fun x => EmitM.pure_declares (x ++ y)
  | twice a between ih =>
      exact EmitM.bind_declares (ih hl h) fun _ => EmitM.pure_declares _
  | statement a ih =>
      exact EmitM.bind_declares (ih hl h) fun _ => EmitM.pure_declares _
  | declare names =>
      exact EmitM.bind_declares (EmitM.declare_declares hl) fun _ =>
        EmitM.pure_declares ""
  | inline s => exact fun r => Scope.growsTo_refl r.scope
  | enclosed a ih =>
      intro r
      rw [run, EmitM.inScope_scope]
      exact Scope.growsTo_refl r.scope
  | stream id items =>
      have hitems := EmitM.iterated_declares (EmitM.takeAll_declares id h 0)
      exact EmitM.bind_declares hitems fun _ => EmitM.pure_declares _

/-- Whether a layout itself neither declares a name nor writes one in place. -/
def Quiet : Layout → Prop
  | .declare names => names = []
  | .inline _ => False
  | .append a b | .late a b => a.Quiet ∧ b.Quiet
  | .twice a _ | .statement a | .enclosed a => a.Quiet
  | _ => True

theorem Quiet.namesValid {l : Layout} (h : l.Quiet) : l.NamesValid := by
  induction l with
  | text | node | item | fail | stream => trivial
  | inline s => exact h.elim
  | declare names =>
      cases h
      exact fun x hx => absurd hx List.not_mem_nil
  | append a b iha ihb => exact ⟨iha h.1, ihb h.2⟩
  | late a b iha ihb => exact ⟨iha h.1, ihb h.2⟩
  | twice a _ ih => exact ih h
  | statement a ih => exact ih h
  | enclosed a ih => exact ih h

/-- A layout that names nothing itself, or that declares its names before
anything else. -/
inductive Announced : Layout → Prop
  | quiet {l : Layout} (h : l.Quiet) : Announced l
  | declares {names : List String} {rest : Layout} (some : names ≠ [])
      (valid : ∀ x ∈ names, isIdentifier x) (behind : rest.NamesValid) :
      Announced (.append (.declare names) rest)

theorem Announced.namesValid {l : Layout} (h : l.Announced) : l.NamesValid := by
  cases h with
  | quiet h => exact h.namesValid
  | declares _ valid behind => exact ⟨valid, behind⟩

-- ========================================================== quiet layouts

section Constructors

variable (s : String) (a b : Layout)

@[simp] theorem text_quiet : (text s).Quiet := trivial

@[simp] theorem node_quiet (n : Node) : (node n).Quiet := trivial

@[simp] theorem item_quiet (n : Node) : (item n).Quiet := trivial

@[simp] theorem fail_quiet (e : Error) : (fail e).Quiet := trivial

@[simp] theorem append_quiet_iff : (append a b).Quiet ↔ a.Quiet ∧ b.Quiet := Iff.rfl

@[simp] theorem late_quiet_iff : (late a b).Quiet ↔ a.Quiet ∧ b.Quiet := Iff.rfl

@[simp] theorem twice_quiet_iff : (twice a s).Quiet ↔ a.Quiet := Iff.rfl

@[simp] theorem statement_quiet_iff : (statement a).Quiet ↔ a.Quiet := Iff.rfl

@[simp] theorem enclosed_quiet_iff : (enclosed a).Quiet ↔ a.Quiet := Iff.rfl

@[simp] theorem malformed_quiet (cause : Malformed) : (malformed cause).Quiet := trivial

@[simp] theorem empty_quiet : empty.Quiet := trivial

end Constructors

theorem seq_quiet {ls : List Layout} (h : ∀ l ∈ ls, l.Quiet) : (seq ls).Quiet := by
  induction ls with
  | nil => trivial
  | cons l ls ih =>
      cases ls with
      | nil => exact h l (.head _)
      | cons m ls => exact ⟨h l (.head _), ih fun l hl => h l (.tail _ hl)⟩

theorem join_quiet {sep : String} {ls : List Layout} (h : ∀ l ∈ ls, l.Quiet) :
    (join sep ls).Quiet := by
  induction ls with
  | nil => trivial
  | cons l ls ih =>
      cases ls with
      | nil => exact h l (.head _)
      | cons m ls => exact ⟨h l (.head _), trivial, ih fun l hl => h l (.tail _ hl)⟩

@[simp] theorem joinNodes_quiet (sep : String) (ns : List Node) :
    (joinNodes sep ns).Quiet :=
  join_quiet (List.forall_mem_map.2 fun n _ => node_quiet n)

@[simp] theorem statements_quiet (ns : List Node) : (statements ns).Quiet :=
  seq_quiet (List.forall_mem_map.2 fun n _ => node_quiet n)

@[simp] theorem arguments_quiet (ns : List Node) : (arguments ns).Quiet := by
  simp [arguments, seq]

@[simp] theorem ident_quiet (shown : String) (id : Ident) : (ident shown id).Quiet := by
  unfold ident
  split <;> trivial

@[simp] theorem call_quiet (f : Node) (args : List Node) : (call f args).Quiet := by
  unfold call callee
  split <;> simp [seq]

theorem methodCall_quiet {object : Node} {method : Layout} {args : List Node}
    (h : method.Quiet) : (methodCall object method args).Quiet := by
  simp [methodCall, seq, h]

theorem assignments_quiet (args : List Node) : (seq (assignments args)).Quiet := by
  refine seq_quiet ?_
  fun_induction assignments args with
  | case1 target value rest ih => exact List.forall_mem_cons.2 ⟨by simp [seq], ih⟩
  | case2 => simp

theorem parameter_quiet (n : Node) : (parameter n).Quiet := by
  unfold parameter
  split
  · exact ident_quiet ..
  · exact ident_quiet ..
  · trivial

theorem function_quiet {label : Layout} (h : label.Quiet) (params : Node)
    (body : List Node) : (function label params body).Quiet := by
  unfold function
  split
  · trivial
  · have hparams (items : List Node) : (join ", " (items.map parameter)).Quiet :=
      join_quiet (List.forall_mem_map.2 fun n _ => parameter_quiet n)
    simp [seq, h, hparams]

theorem forLoops_quiet {inner : Layout} (h : inner.Quiet) (items : List Node) :
    (forLoops inner items).Quiet := by
  fun_induction forLoops inner items with
  | case1 name collection rest ih => simp [seq, ih]
  | case2 => exact h

theorem forLoop_quiet (args : List Node) : (forLoop args).Quiet := by
  unfold forLoop
  split
  · split
    · trivial
    · split
      · trivial
      · exact forLoops_quiet (statements_quiet _) _
  · trivial

theorem tryBlock_quiet (args : List Node) : (tryBlock args).Quiet := by
  have hcatch (clauses : List (List Node)) :
      (seq (clauses.map (tryBlock.catchPart args))).Quiet := by
    refine seq_quiet (List.forall_mem_map.2 fun clause _ => ?_)
    cases clause <;> simp [tryBlock.catchPart, tryBlock.flawed, seq]
  have hfinally (clauses : List (List Node)) :
      (seq (clauses.map tryBlock.finallyPart)).Quiet := by
    refine seq_quiet (List.forall_mem_map.2 fun clause _ => ?_)
    simp [tryBlock.finallyPart, seq]
  unfold tryBlock
  split
  · trivial
  · trivial
  · trivial
  · simp [seq, hcatch, hfinally]

theorem conditional_quiet (args : List Node) : (conditional args).Quiet := by
  unfold conditional
  split <;> simp [conditional.branch, seq]

theorem unary_quiet {name : String} {write : Node → Layout}
    (h : ∀ n, (write n).Quiet) (args : List Node) : (unary name write args).Quiet := by
  unfold unary
  split
  · exact h _
  · trivial

theorem operand_quiet {op : String} {write : Node → Layout}
    (h : ∀ n, (write n).Quiet) (args : List Node) : (operand op write args).Quiet := by
  unfold operand
  split
  · exact h _
  · trivial

theorem binary_quiet (op : String) (args : List Node) : (binary op args).Quiet := by
  unfold binary
  split <;> simp [seq]

-- ================================================= layouts that name things

/-- All names that are declared are valid. -/
theorem isIdentifier_localName {ns : List Node} {names : List String}
    (h : declaredNames ns = .ok names) : ∀ n ∈ ns, isIdentifier (localName n) := by
  intro n hn
  have hname := declaredNames_ok_iff.1 ⟨names, h⟩ n hn
  cases n <;> simp_all [Node.isName, localName, Node.ident?]

/-- A declaration declares the names at its even places before it writes their
values. -/
theorem declaration_announced (args : List Node) : (declaration args).Announced := by
  have hrest : (seq (initialisers args)).NamesValid := by
    fun_induction initialisers args with
    | case1 => trivial
    | case2 n => trivial
    | case3 n value rest ih =>
        cases hinit : initialisers rest with
        | nil => exact ⟨trivial, trivial, trivial, trivial⟩
        | cons l ls =>
            rw [hinit] at ih
            exact ⟨⟨trivial, trivial, trivial, trivial⟩, ih⟩
  unfold declaration
  cases hnames : declaredNames (evens args) with
  | error e => exact .quiet trivial
  | ok names =>
      have hvalid : ∀ x ∈ names, isIdentifier x := by
        rw [declaredNames_ok hnames, List.forall_mem_map]
        exact isIdentifier_localName hnames
      by_cases hnil : names = []
      · subst hnil
        have hargs : args = [] := by
          have hnone := declaredNames_ok hnames
          rcases args with _ | ⟨n, _ | ⟨value, rest⟩⟩
          · rfl
          · simp [evens] at hnone
          · simp [evens] at hnone
        subst hargs
        exact .quiet ⟨rfl, trivial⟩
      · exact .declares hnil hvalid hrest

/-- A function literal declares its name before it writes its body. -/
theorem functionLiteral_announced (args : List Node) :
    (functionLiteral args).Announced := by
  have hfun (params : Node) (body : List Node) :
      (function empty params body).Quiet :=
    function_quiet empty_quiet params body
  unfold functionLiteral
  split
  · exact .quiet trivial
  · exact .quiet trivial
  · rename_i id params body
    split
    · rename_i hid
      refine .declares (List.cons_ne_nil _ _) ?_ ?_
      · simpa using hid
      · exact ⟨trivial, trivial, (hfun params body).namesValid⟩
    · exact .quiet (ident_quiet ..)
  · exact .quiet (hfun _ _)

end Layout

-- ============================================================= every form

open Layout

/-- A special form names things in its layout only if it is a declaration or a
function literal. -/
theorem SpecialForm.layout_announced (form : SpecialForm) (args : List Node) :
    (form.layout args).Announced := by
  cases form with
  | declaration => exact declaration_announced args
  | functionLiteral => exact functionLiteral_announced args
  | call =>
      refine .quiet ?_
      cases args with
      | nil => trivial
      | cons f rest => exact call_quiet f rest
  | concatenation => exact .quiet (joinNodes_quiet ..)
  | member =>
      refine .quiet ?_
      rcases args with _ | ⟨object, _ | ⟨method, rest⟩⟩
      · trivial
      · trivial
      · exact methodCall_quiet (node_quiet method)
  | path => exact .quiet (joinNodes_quiet ..)
  | conditional => exact .quiet (conditional_quiet args)
  | result =>
      refine .quiet ?_
      rcases args with _ | ⟨n, _ | ⟨_, _⟩⟩ <;> simp [layout, seq]
  | deletion => exact .quiet (unary_quiet (fun n => by simp [seq]) args)
  | assignment =>
      refine .quiet ?_
      unfold layout
      dsimp only
      split
      · trivial
      · exact assignments_quiet args
  | construction =>
      refine .quiet ?_
      cases args <;> simp [layout, seq]
  | index =>
      refine .quiet ?_
      cases args with
      | nil => trivial
      | cons target keys =>
          refine seq_quiet (List.forall_mem_cons.2 ⟨node_quiet target, ?_⟩)
          exact List.forall_mem_map.2 fun key _ => by simp [seq]
  | increment => exact .quiet (unary_quiet (fun n => by simp [seq]) args)
  | decrement => exact .quiet (unary_quiet (fun n => by simp [seq]) args)
  | successor => exact .quiet (unary_quiet (fun n => by simp [seq]) args)
  | predecessor => exact .quiet (unary_quiet (fun n => by simp [seq]) args)
  | definedness => exact .quiet (unary_quiet (fun n => by simp [seq]) args)
  | choice =>
      refine .quiet ?_
      unfold layout
      dsimp only
      split <;> simp [seq]
  | conjunction => exact .quiet (joinNodes_quiet ..)
  | disjunction => exact .quiet (joinNodes_quiet ..)
  | raw => exact .quiet trivial
  | block => exact .quiet (statements_quiet args)
  | whileLoop =>
      refine .quiet ?_
      cases args <;> simp [layout, Layout.whileLoop, seq]
  | forLoop => exact .quiet (forLoop_quiet args)
  | functionDeclaration =>
      refine .quiet ?_
      show (Layout.functionDeclaration args).Quiet
      unfold Layout.functionDeclaration
      split
      · exact function_quiet (ident_quiet ..) _ _
      · trivial
  | tryBlock => exact .quiet (tryBlock_quiet args)
  | loopExit => exact .quiet trivial

theorem Layout.symbolForm_announced (id : Ident) (args : List Node) :
    (symbolForm id args).Announced := by
  unfold symbolForm
  split
  · split
    · exact .quiet (methodCall_quiet (ident_quiet ..))
    · exact .quiet trivial
  · split
    · exact SpecialForm.layout_announced _ args
    · split
      · exact .quiet (binary_quiet _ args)
      · split
        · exact .quiet (operand_quiet (fun n => by simp [seq]) args)
        · split
          · exact .quiet (operand_quiet (fun n => by simp [seq]) args)
          · exact .quiet (call_quiet ..)

/-- Any node names things in its layout before anything else, or not at all. -/
theorem Node.layout_announced (n : Node) : n.layout.Announced := by
  unfold Node.layout
  split
  case h_5 => split <;> exact .quiet trivial
  case h_7 | h_8 => exact .quiet (ident_quiet ..)
  case h_14 id args => exact symbolForm_announced id args
  case h_15 | h_16 => exact .quiet (call_quiet ..)
  case h_18 kind items => exact .quiet (by simp [Layout.seq])
  case h_19 kind pairs =>
    have hentries : (join ", " (pairs.map entry)).Quiet :=
      join_quiet (List.forall_mem_map.2 fun pair _ => by simp [entry, Layout.seq])
    exact .quiet (by simp [Layout.seq, hentries])
  all_goals exact .quiet trivial

-- =============================================================== emission

theorem Call.expandWith_declares {write : Node → EmitM String} (call : Call)
    (h : ∀ n, (write n).Declares) : (call.expandWith write).Declares := by
  refine EmitM.bind_declares (fun r => ?_) fun stamp =>
    EmitM.bind_declares (EmitM.ofExcept_declares _) h
  exact Scope.growsTo_refl r.scope

/-- An emission declares valid names in the open scope and does nothing else to
it, whether it succeeds or fails. -/
theorem Emitter.emitAt_declares (e : Emitter) (levels : Nat) (n : Node) :
    (e.emitAt levels n).Declares := by
  refine e.emission_induction
    (P := fun levels n => (e.emitAt levels n).Declares) ?_ ?_ ?_ levels n
  · intro n call hcall
    rw [e.emitAt_zero_custom hcall]
    exact EmitM.throw_declares _
  · intro levels n call hcall ih
    rw [e.emitAt_succ_custom hcall]
    exact call.expandWith_declares ih
  · intro levels n hcall ih
    rw [e.emitAt_of_not_custom hcall]
    exact Layout.run_declares n.layout_announced.namesValid ih

/-- So does writing any layout that names things as those of nodes do. -/
theorem Emitter.run_declares (e : Emitter) (levels : Nat) {l : Layout}
    (h : l.NamesValid) : (l.run e.config.dedupe (e.emitAt levels)).Declares :=
  Layout.run_declares h (Layout.all_of_forall (e.emitAt_declares levels) l)

theorem Emitter.emitLayout_declares (e : Emitter) {l : Layout} (h : l.NamesValid) :
    (e.emitLayout l).Declares :=
  e.run_declares _ h

/-- A program names nothing outside its own scope. -/
theorem Emitter.programLayout_quiet (forms : List Node) : (programLayout forms).Quiet := by
  unfold programLayout
  split
  · trivial
  · trivial
  · exact statements_quiet _

end FormScript
