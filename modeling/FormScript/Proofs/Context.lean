/-
Trees with one position left open. A context is a list of frames, each a node with one
position left open, and a position is evaluated if a form only uses the node there by
emitting it: items of sequences, values of maps, arguments of calls, operands, assigned
and returned values, statements of bodies. Positions that a form inspects are left out:
names, parameters, bindings, clauses of `try`, the callee of a call, an else branch.

The node in an evaluated position stands in the layout around it as a child, in one place
and nowhere else, so two nodes there give layouts that differ in this child alone
(`Frame.layout_marked`). That it is written once matters: a call that stood in two places
would be expanded twice, and its expansion could only be read once.
-/
import FormScript.Emission
import FormScript.Layout.Children

namespace FormScript

-- =============================================================== contexts

/-- Whether an argument of a special form, with these arguments before it,
is evaluated. -/
def SpecialForm.Evaluates (before : List Node) : SpecialForm → Prop
  | .declaration | .assignment => before.length % 2 = 1
  | .result | .block | .conjunction | .disjunction => True
  | .call | .whileLoop => before ≠ []
  | .member | .functionDeclaration => 2 ≤ before.length
  | .functionLiteral =>
    match before with
    | .sym _ :: rest => rest ≠ []
    | rest => rest ≠ []
  | _ => False

/-- A node with one position left open. -/
inductive Frame where
  /-- An item of a sequence. -/
  | item (kind : SeqKind) (before after : List Node)
  /-- The value of an entry of a map. -/
  | value (kind : MapKind) (before : List (Node × Node)) (key : Node)
      (after : List (Node × Node))
  /-- An argument of a form. -/
  | argument (head : Node) (before after : List Node)

namespace Frame

/-- The node with the position filled. -/
def plug : Frame → Node → Node
  | item kind before after, n => .seq kind (before ++ n :: after)
  | value kind before key after, n => .map kind (before ++ (key, n) :: after)
  | argument head before after, n => .form (head :: (before ++ n :: after))

/-- Whether the position is evaluated, the form around it being no custom
form: items and values are, and so are the arguments of methods, operators
and plain calls, and those of special forms as these say. -/
def Evaluated (forms : Registry) : Frame → Prop
  | item .. | value .. => True
  | argument (.keyword _) .. | argument (.form _) .. => True
  | argument (.sym id) before _ =>
    (methodName? id.name).isSome
      ∨ methodName? id.name = none ∧ forms.get? id.name = none
          ∧ ∀ special, SpecialForm.ofName? id.name = some special →
              special.Evaluates before
  | argument .. => False

/-- The node in the position stands directly below the node around it. -/
theorem mem_children_plug (frame : Frame) (n : Node) : n ∈ (frame.plug n).children := by
  cases frame <;> simp [plug, Node.children]

end Frame

/-- A tree with one marked position, as the frames around it, the outermost
first. -/
abbrev Context := List Frame

namespace Context

/-- The tree with a node at the marked position. -/
def plug : Context → Node → Node
  | [], n => n
  | frame :: rest, n => frame.plug (plug rest n)

/-- Whether the marked position is reached only through evaluated
positions. -/
def Evaluated (forms : Registry) (c : Context) : Prop :=
  ∀ frame ∈ c, frame.Evaluated forms

/-- What holds at every place of a tree holds at every place below the marked position. -/
theorem every_of_plug {p : Node → Bool} {c : Context} {n : Node} (h : (c.plug n).every p) :
    n.every p := by
  induction c with
  | nil => exact h
  | cons frame rest ih => exact ih ((Node.every_iff.1 h).2 _ (frame.mem_children_plug _))

end Context

-- ======================================================= one child marked

namespace Layout

/-- Layouts that differ in one child. A failure is related to anything, since nothing is
written for it. -/
inductive Marked (a b : Node) : Layout → Layout → Prop
  | node : Marked a b (.node a) (.node b)
  | item : Marked a b (.item a) (.item b)
  | fail (e : Error) (l : Layout) : Marked a b (.fail e) l
  | front {x x' : Layout} (h : Marked a b x x') (y : Layout) :
      Marked a b (.append x y) (.append x' y)
  | back (x : Layout) {y y' : Layout} (h : Marked a b y y') :
      Marked a b (.append x y) (.append x y')
  | late (x : Layout) {y y' : Layout} (h : Marked a b y y') :
      Marked a b (.late x y) (.late x y')
  | statement {x x' : Layout} (h : Marked a b x x') : Marked a b (.statement x) (.statement x')
  | enclosed {x x' : Layout} (h : Marked a b x x') : Marked a b (.enclosed x) (.enclosed x')

variable {a b : Node}

/-- Lists of layouts that differ in one layout, and there in one child. -/
inductive MarkedIn (a b : Node) : List Layout → List Layout → Prop
  | head {x x' : Layout} (h : Marked a b x x') (rest : List Layout) :
      MarkedIn a b (x :: rest) (x' :: rest)
  | tail (x : Layout) {rest rest' : List Layout} (h : MarkedIn a b rest rest') :
      MarkedIn a b (x :: rest) (x :: rest')

theorem MarkedIn.seq {ls ls' : List Layout} (h : MarkedIn a b ls ls') :
    Marked a b (Layout.seq ls) (Layout.seq ls') := by
  induction h with
  | head h rest =>
      cases rest with
      | nil => exact h
      | cons y rest => exact .front h _
  | tail x h ih => cases h <;> exact .back x ih

theorem MarkedIn.join (sep : String) {ls ls' : List Layout} (h : MarkedIn a b ls ls') :
    Marked a b (Layout.join sep ls) (Layout.join sep ls') := by
  induction h with
  | head h rest =>
      cases rest with
      | nil => exact h
      | cons y rest => exact .front h _
  | tail x h ih => cases h <;> exact .back x (.back _ ih)

theorem map_markedIn {α : Type} (f : α → Layout) {p q : α} (h : Marked a b (f p) (f q))
    (before after : List α) :
    MarkedIn a b ((before ++ p :: after).map f) ((before ++ q :: after).map f) := by
  induction before with
  | nil => exact .head h _
  | cons x before ih => exact .tail _ ih

theorem operand_marked (op : String) {write : Node → Layout}
    (hwrite : Marked a b (write a) (write b)) (before after : List Node) :
    Marked a b (operand op write (before ++ a :: after))
      (operand op write (before ++ b :: after)) := by
  match before, after with
  | [], [] => exact hwrite
  | [], c :: after => exact .fail _ _
  | [c], after => exact .fail _ _
  | c :: d :: before, after => exact .fail _ _

theorem length_replace (a b : Node) (before after : List Node) :
    (before ++ b :: after).length = (before ++ a :: after).length := by
  rw [List.length_append, List.length_append, List.length_cons,
    List.length_cons]

section Replace

variable (a b : Node) (before after : List Node)

theorem joinNodes_marked (sep : String) :
    Marked a b (joinNodes sep (before ++ a :: after))
      (joinNodes sep (before ++ b :: after)) :=
  (map_markedIn .item .item before after).join sep

theorem statements_marked :
    Marked a b (statements (before ++ a :: after))
      (statements (before ++ b :: after)) :=
  (map_markedIn (fun n => .statement (.item n)) (.statement .item) before after).seq

theorem arguments_marked :
    Marked a b (arguments (before ++ a :: after))
      (arguments (before ++ b :: after)) :=
  .back _ (.front (joinNodes_marked a b before after ", ") _)

theorem call_marked (f : Node) :
    Marked a b (call f (before ++ a :: after)) (call f (before ++ b :: after)) :=
  .back _ (arguments_marked a b before after)

theorem methodCall_marked (object : Node) (method : Layout) :
    Marked a b (methodCall object method (before ++ a :: after))
      (methodCall object method (before ++ b :: after)) :=
  .back _ (.back _ (.back _ (arguments_marked a b before after)))

theorem function_marked (label : Layout) (params : Node) :
    Marked a b (function label params (before ++ a :: after))
      (function label params (before ++ b :: after)) := by
  unfold function
  split
  · exact .fail _ _
  · exact .front (.late _ (.enclosed (statements_marked a b before after))) _

theorem binary_marked (op : String) :
    Marked a b (binary op (before ++ a :: after))
      (binary op (before ++ b :: after)) := by
  unfold binary
  rw [length_replace a b]
  split
  · exact .back _ (.front (joinNodes_marked a b before after _) _)
  · exact .fail _ _

-- ---- names and values in turn

theorem odd_length_drop {n v : Node} {before : List Node}
    (h : (n :: v :: before).length % 2 = 1) : before.length % 2 = 1 := by
  rw [List.length_cons, List.length_cons] at h
  omega

/-- A value is not among the names. -/
theorem evens_replace :
    ∀ before : List Node, before.length % 2 = 1 →
      evens (before ++ a :: after) = evens (before ++ b :: after)
  | [], h => by cases h
  | [n], _ => rfl
  | n :: _ :: before, h => by
      exact congrArg (n :: ·) (evens_replace before (odd_length_drop h))

theorem initialisers_marked :
    ∀ before : List Node, before.length % 2 = 1 →
      MarkedIn a b (initialisers (before ++ a :: after))
        (initialisers (before ++ b :: after))
  | [], h => by cases h
  | [n], _ => .head (.back _ (.back _ (.front .node _))) _
  | n :: v :: before, h => .tail _ (initialisers_marked before (odd_length_drop h))

theorem assignments_marked :
    ∀ before : List Node, before.length % 2 = 1 →
      MarkedIn a b (assignments (before ++ a :: after))
        (assignments (before ++ b :: after))
  | [], h => by cases h
  | [n], _ => .head (.back _ (.back _ (.front .item _))) _
  | n :: v :: before, h => .tail _ (assignments_marked before (odd_length_drop h))

theorem declaration_marked (h : before.length % 2 = 1) :
    Marked a b (declaration (before ++ a :: after))
      (declaration (before ++ b :: after)) := by
  unfold declaration
  rw [evens_replace a b after before h]
  split
  · exact .fail _ _
  · exact .back _ (initialisers_marked a b after before h).seq

/-- The body of a function literal, which may have a name. -/
theorem functionLiteral_marked
    (h : SpecialForm.functionLiteral.Evaluates before) :
    Marked a b (functionLiteral (before ++ a :: after))
      (functionLiteral (before ++ b :: after)) := by
  cases before with
  | nil => exact absurd rfl h
  | cons params before =>
      cases params with
      | sym id =>
          cases before with
          | nil => exact absurd rfl h
          | cons params before =>
              show Marked a b (if isIdentifier id.name then _ else _)
                (if isIdentifier id.name then _ else _)
              split
              · exact .back _ (.back _ (.back _ (function_marked a b before after _ _)))
              · rename_i hname
                rw [symName, ident, if_neg hname]
                exact .fail _ _
      | _ =>
          rw [List.cons_append, List.cons_append,
            functionLiteral_of_not_sym (by simp),
            functionLiteral_of_not_sym (by simp)]
          exact function_marked a b before after _ _

theorem assignment_marked (h : before.length % 2 = 1) :
    Marked a b (SpecialForm.assignment.layout (before ++ a :: after))
      (SpecialForm.assignment.layout (before ++ b :: after)) := by
  have hempty : (before ++ b :: after).isEmpty
      = (before ++ a :: after).isEmpty := by
    cases before with
    | nil => rfl
    | cons n before => rfl
  show Marked a b
    (if (before ++ a :: after).isEmpty || (before ++ a :: after).length % 2 == 1
      then malformed _ else seq (assignments (before ++ a :: after)))
    (if (before ++ b :: after).isEmpty || (before ++ b :: after).length % 2 == 1
      then malformed _ else seq (assignments (before ++ b :: after)))
  rw [length_replace a b, hempty]
  split
  · exact .fail _ _
  · exact (assignments_marked a b after before h).seq

theorem result_marked :
    Marked a b (SpecialForm.result.layout (before ++ a :: after))
      (SpecialForm.result.layout (before ++ b :: after)) := by
  match before, after with
  | [], [] => exact .statement (.back _ .node)
  | [], c :: after => exact .fail _ _
  | [c], after => exact .fail _ _
  | c :: d :: before, after => exact .fail _ _

theorem functionDeclaration_marked (h : 2 ≤ before.length) :
    Marked a b (functionDeclaration (before ++ a :: after))
      (functionDeclaration (before ++ b :: after)) := by
  match before, h with
  | name :: params :: before, _ =>
      cases name with
      | sym id => exact function_marked a b before after _ _
      | _ => exact .fail _ _

/-- An evaluated argument of a special form is a child of its layout. -/
theorem special_marked {special : SpecialForm} (h : special.Evaluates before) :
    Marked a b (special.layout (before ++ a :: after))
      (special.layout (before ++ b :: after)) := by
  cases special with
  | declaration => exact declaration_marked a b before after h
  | assignment => exact assignment_marked a b before after h
  | result => exact result_marked a b before after
  | block => exact statements_marked a b before after
  | conjunction => exact joinNodes_marked a b before after _
  | disjunction => exact joinNodes_marked a b before after _
  | call =>
      cases before with
      | nil => exact absurd rfl h
      | cons f before => exact call_marked a b before after f
  | whileLoop =>
      cases before with
      | nil => exact absurd rfl h
      | cons test before =>
          exact .back _ (.back _ (.back _ (.front (statements_marked a b before after) _)))
  | member =>
      match before, h with
      | object :: method :: before, _ =>
          exact methodCall_marked a b before after object _
  | functionLiteral => exact functionLiteral_marked a b before after h
  | functionDeclaration => exact functionDeclaration_marked a b before after h
  | _ => exact h.elim

/-- An evaluated argument of a form with a symbol at its head is a child of
its layout. -/
theorem symbolForm_marked (id : Ident)
    (h : ∀ special, methodName? id.name = none →
      SpecialForm.ofName? id.name = some special → special.Evaluates before) :
    Marked a b (symbolForm id (before ++ a :: after))
      (symbolForm id (before ++ b :: after)) := by
  unfold symbolForm
  cases hmethod : methodName? id.name with
  | some method =>
      cases before with
      | nil => exact .front .node _
      | cons object before => exact methodCall_marked a b before after object _
  | none =>
      dsimp only
      cases hspecial : SpecialForm.ofName? id.name with
      | some special => exact special_marked a b before after (h special hmethod hspecial)
      | none =>
          dsimp only
          split
          · exact binary_marked a b before after _
          · split
            · exact operand_marked _ (.back _ .node) before after
            · split
              · exact operand_marked _ (.front .node _) before after
              · exact call_marked a b before after _

end Replace

end Layout

-- ================================================================= frames

namespace Frame

variable {forms : Registry} {frame : Frame}

/-- Two nodes in an evaluated position give layouts that differ in one child. -/
theorem layout_marked (h : frame.Evaluated forms) (a b : Node) :
    Layout.Marked a b (frame.plug a).layout (frame.plug b).layout := by
  cases frame with
  | item kind before after =>
      exact .back _ (.front (Layout.joinNodes_marked a b before after _) _)
  | value kind before key after =>
      refine .back _ (.front (Layout.MarkedIn.join _ ?_) _)
      have hentry : Layout.Marked a b (Layout.entry (key, a)) (Layout.entry (key, b)) :=
        .back _ (.back _ .item)
      exact Layout.map_markedIn Layout.entry hentry before after
  | argument head before after =>
      cases head with
      | sym id =>
          refine Layout.symbolForm_marked a b before after id ?_
          intro special hmethod hspecial
          rcases h with hsome | ⟨-, -, hspecials⟩
          · rw [hmethod] at hsome
            cases hsome
          · exact hspecials special hspecial
      | keyword id => exact Layout.call_marked a b before after _
      | form items => exact Layout.call_marked a b before after _
      | _ => exact h.elim

/-- A form around an evaluated position is no custom form. -/
theorem customCall?_plug (h : frame.Evaluated forms) (n : Node) :
    forms.customCall? (frame.plug n) = none := by
  cases frame with
  | item => rfl
  | value => rfl
  | argument head before after =>
      cases head with
      | sym id =>
          rcases h with hsome | ⟨hmethod, hget, -⟩
          · obtain ⟨method, hmethod⟩ := Option.isSome_iff_exists.1 hsome
            simp only [plug, Registry.customCall?, hmethod]
          · simp only [plug, Registry.customCall?, hmethod, hget, Option.map_none]
      | _ => rfl

end Frame

end FormScript
