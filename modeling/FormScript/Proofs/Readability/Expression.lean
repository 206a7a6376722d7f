/-
Expressions: the trees of literals, symbols, arrays, objects, operators
and plain calls, all without namespaces. Emission without custom forms
always writes an expression, and without effects (`Expression.written`);
the text of each kind is put together from the texts of its parts.
-/
import FormScript.Proofs.Writing

namespace FormScript

-- =========================================================== expressions

/-- Names of literals, which symbols of expressions must not have. -/
def literalNames : List String := ["null", "true", "false"]

/-- Operators that are spelled as other operators. -/
def Operator.aliases : List String := ["=", "!=", "not="]

/-- Whether a name is an operator of any kind. -/
def Operator.isOperator (name : String) : Bool :=
  isBinary name || isLeading name || isTrailing name

namespace Node

/-- Literals, symbols, arrays, objects, operators with operands and plain
calls, all without namespaces. -/
inductive Expression : Node → Prop
  | nil : Expression .nil
  | bool (b : Bool) : Expression (.bool b)
  | int (i : Int) : Expression (.int i)
  | str (s : String) (plain : '\\' ∉ s.toList) : Expression (.str s)
  | sym (name : String) (valid : isIdentifier name)
      (other : name ∉ literalNames) : Expression (.sym ⟨name, none⟩)
  | array (items : List Node) (inner : ∀ n ∈ items, Expression n) :
      Expression (.seq .vector items)
  | object (pairs : List (Node × Node)) (keys : ∀ p ∈ pairs, Expression p.1)
      (values : ∀ p ∈ pairs, Expression p.2) : Expression (.map .object pairs)
  | operation (op : String) (args : List Node) (known : Operator.isBinary op)
      (unaliased : op ∉ Operator.aliases)
      (count : Operator.accepts op args.length)
      (inner : ∀ n ∈ args, Expression n) :
      Expression (.form (.sym ⟨op, none⟩ :: args))
  | call (head : String) (args : List Node) (valid : isIdentifier head)
      (ordinary : SpecialForm.ofName? head = none)
      (unknown : Operator.isOperator head = false)
      (inner : ∀ n ∈ args, Expression n) :
      Expression (.form (.sym ⟨head, none⟩ :: args))

-- ================================================================= texts

/-- A binary operator is neither a method nor a special form. -/
theorem operator_ordinary {op : String} (h : Operator.isBinary op) :
    methodName? op = none ∧ SpecialForm.ofName? op = none := by
  have all : ∀ op ∈ Operator.binary,
      methodName? op = none ∧ SpecialForm.ofName? op = none := by decide
  exact all op (List.contains_iff_mem.1 h)

theorem spelling_of_not_alias {op : String} (h : op ∉ Operator.aliases) :
    Operator.spelling op = op := by
  unfold Operator.spelling
  split
  · exact absurd (by decide) h
  · exact absurd (by decide) h
  · exact absurd (by decide) h
  · rfl

/-- A valid identifier does not start with a dot. -/
theorem methodName?_of_isIdentifier {name : String} (h : isIdentifier name) :
    methodName? name = none := by
  unfold isIdentifier at h
  unfold methodName?
  cases hcs : name.toList with
  | nil => rfl
  | cons c cs =>
      rw [hcs] at h
      have hc : c ≠ '.' := by
        rintro rfl
        simp [isIdentifierStart] at h
      split
      · rename_i heq
        injection heq with hdot _
        exact absurd hdot hc
      · rfl

theorem operation_layout {op : String} {args : List Node}
    (known : Operator.isBinary op) (unaliased : op ∉ Operator.aliases)
    (count : Operator.accepts op args.length) :
    (form (sym ⟨op, none⟩ :: args)).layout
      = .seq [.text "(", .joinNodes (" " ++ op ++ " ") args, .text ")"] := by
  obtain ⟨hmethod, hspecial⟩ := operator_ordinary known
  show Layout.symbolForm ⟨op, none⟩ args = _
  unfold Layout.symbolForm
  simp only [hmethod, hspecial]
  rw [if_pos known, Layout.binary, if_pos count, spelling_of_not_alias unaliased]

theorem call_layout {head : String} {args : List Node}
    (valid : isIdentifier head) (ordinary : SpecialForm.ofName? head = none)
    (unknown : Operator.isOperator head = false) :
    (form (sym ⟨head, none⟩ :: args)).layout
      = .seq [.node (.sym ⟨head, none⟩), .arguments args] := by
  have hops : Operator.isBinary head = false ∧ Operator.isLeading head = false
      ∧ Operator.isTrailing head = false := by
    simpa [Operator.isOperator, and_assoc] using unknown
  show Layout.symbolForm ⟨head, none⟩ args = _
  unfold Layout.symbolForm
  simp only [methodName?_of_isIdentifier valid, ordinary, hops]
  rfl

variable {args items : List Node} {pairs : List (Node × Node)}

theorem written_array (h : ∀ n ∈ items, n.Written n.text) :
    (seq .vector items).Written
      ("[" ++ ", ".intercalate (items.map text) ++ "]") := by
  refine written_of_layout fun e levels he => ?_
  exact Layout.between_yields
    (Layout.joinNodes_yields (fun n hn => h n hn e levels he) ", ") "[" "]"

/-- The text of a key and its value. -/
def entryText (p : Node × Node) : String := p.1.text ++ (": " ++ p.2.text)

theorem written_object (hk : ∀ p ∈ pairs, p.1.Written p.1.text)
    (hv : ∀ p ∈ pairs, p.2.Written p.2.text) :
    (map .object pairs).Written
      ("\x7b" ++ ", ".intercalate (pairs.map entryText) ++ "\x7d") := by
  refine written_of_layout fun e levels he => ?_
  refine Layout.between_yields (Layout.join_yields ?_ ", ") "\x7b" "\x7d"
  intro p hp
  exact Layout.append_yields (Layout.item_yields (hk p hp e levels he))
    (Layout.append_yields (Layout.text_yields ": ") (Layout.item_yields (hv p hp e levels he)))

theorem written_operation {op : String} (known : Operator.isBinary op)
    (unaliased : op ∉ Operator.aliases)
    (count : Operator.accepts op args.length)
    (h : ∀ n ∈ args, n.Written n.text) :
    (form (sym ⟨op, none⟩ :: args)).Written
      ("(" ++ (" " ++ op ++ " ").intercalate (args.map text) ++ ")") := by
  refine written_of_layout fun e levels he => ?_
  rw [operation_layout known unaliased count]
  exact Layout.between_yields
    (Layout.joinNodes_yields (fun n hn => h n hn e levels he) _) "(" ")"

theorem written_call {head : String} (valid : isIdentifier head)
    (ordinary : SpecialForm.ofName? head = none)
    (unknown : Operator.isOperator head = false)
    (h : ∀ n ∈ args, n.Written n.text) :
    (form (sym ⟨head, none⟩ :: args)).Written
      (head ++ ("(" ++ ", ".intercalate (args.map text) ++ ")")) := by
  refine written_of_layout fun e levels he => ?_
  rw [call_layout valid ordinary unknown]
  refine Layout.append_yields (written_sym valid e levels he) ?_
  exact Layout.between_yields
    (Layout.joinNodes_yields (fun n hn => h n hn e levels he) ", ") "(" ")"

/-- Every expression is written, and without effects. -/
theorem Expression.written {n : Node} (h : n.Expression) : n.Written n.text := by
  induction h with
  | nil => exact (written_of_layout_text rfl).written_text
  | bool b => exact (written_of_layout_text rfl).written_text
  | int i => exact (written_of_layout_text rfl).written_text
  | str s _ => exact (written_of_layout_text rfl).written_text
  | sym name valid _ => exact (written_sym valid).written_text
  | array items _ ih => exact (written_array ih).written_text
  | object pairs _ _ ihk ihv => exact (written_object ihk ihv).written_text
  | operation op args known unaliased count _ ih =>
      exact (written_operation known unaliased count ih).written_text
  | call head args valid ordinary unknown _ ih =>
      exact (written_call valid ordinary unknown ih).written_text

-- ============================================================ characters

/-- The characters of a node's text. -/
def chars (n : Node) : List Char := n.text.toList

theorem Written.chars_eq {n : Node} {t : String} (h : n.Written t) :
    n.chars = t.toList := by
  rw [chars, h.text_eq]

theorem chars_array (inner : ∀ n ∈ items, n.Expression) :
    (seq .vector items).chars
      = '[' :: ([',', ' '].intercalate (items.map chars) ++ [']']) := by
  rw [(written_array fun n hn => (inner n hn).written).chars_eq]
  simp only [String.toList_append, String.toList_intercalate, List.map_map]
  rfl

/-- The characters of a key and its value. -/
def entryChars (p : Node × Node) : List Char := p.1.chars ++ (':' :: ' ' :: p.2.chars)

theorem chars_object (keys : ∀ p ∈ pairs, p.1.Expression)
    (values : ∀ p ∈ pairs, p.2.Expression) :
    (map .object pairs).chars
      = '\x7b' :: ([',', ' '].intercalate (pairs.map entryChars) ++ ['\x7d']) := by
  rw [(written_object (fun p hp => (keys p hp).written)
    fun p hp => (values p hp).written).chars_eq]
  have hentries : pairs.map (String.toList ∘ entryText) = pairs.map entryChars :=
    List.map_congr_left fun p _ => by simp [entryText, entryChars, chars]
  simp only [String.toList_append, String.toList_intercalate, List.map_map,
    hentries]
  rfl

/-- The characters of an operator with its operands. -/
def operationChars (op : String) (args : List Node) : List Char :=
  '(' :: ((' ' :: (op.toList ++ [' '])).intercalate (args.map chars) ++ [')'])

theorem chars_operation {op : String} (known : Operator.isBinary op)
    (unaliased : op ∉ Operator.aliases)
    (count : Operator.accepts op args.length)
    (inner : ∀ n ∈ args, n.Expression) :
    (form (sym ⟨op, none⟩ :: args)).chars
      = operationChars op args := by
  rw [(written_operation known unaliased count
    fun n hn => (inner n hn).written).chars_eq]
  simp only [String.toList_append, String.toList_intercalate, List.map_map]
  rfl

/-- The characters of a call. -/
def callChars (head : String) (args : List Node) : List Char :=
  head.toList ++ ('(' :: ([',', ' '].intercalate (args.map chars) ++ [')']))

theorem chars_call {head : String} (valid : isIdentifier head)
    (ordinary : SpecialForm.ofName? head = none)
    (unknown : Operator.isOperator head = false)
    (inner : ∀ n ∈ args, n.Expression) :
    (form (sym ⟨head, none⟩ :: args)).chars
      = callChars head args := by
  rw [(written_call valid ordinary unknown
    fun n hn => (inner n hn).written).chars_eq]
  simp only [String.toList_append, String.toList_intercalate, List.map_map]
  rfl

end Node

end FormScript
