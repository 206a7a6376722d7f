/-
Brackets of texts and of layouts. `Brackets.scan` reads characters from left to
right and keeps the closing brackets that it expects, the innermost one first; a
text is `Brackets.WellBracketed` if it is read to its end from no expectation to none.

The brackets that a layout writes itself, its children aside, are fixed before
anything is emitted: they are its skeleton. What is known of the children is
that they are balanced, and a balanced text may be put in anywhere, so all that
has to be shown of a form is that its skeleton is balanced
(`Node.layout_nested`). Raw text is the one form whose skeleton may be anything.
-/
import FormScript.Proofs.Declaring
import FormScript.Proofs.Readability.Tokens

namespace FormScript

namespace Brackets

-- =============================================================== scanning

/-- The bracket that closes this one. -/
def closing? : Char → Option Char
  | '(' => some ')'
  | '[' => some ']'
  | '\x7b' => some '\x7d'
  | _ => none

def isClosing (c : Char) : Bool := c == ')' || c == ']' || c == '\x7d'

def isBracket (c : Char) : Bool := (closing? c).isSome || isClosing c

/-- Read one character. An opening bracket is to be closed before all those that
are open, and a closing one has to be the one that is expected first. -/
def step (expected : List Char) (c : Char) : Option (List Char) :=
  match closing? c with
  | some close => some (close :: expected)
  | none =>
    if isClosing c then
      match expected with
      | close :: rest => if c = close then some rest else none
      | [] => none
    else some expected

/-- Read characters one after another. -/
def scan (expected cs : List Char) : Option (List Char) := cs.foldlM step expected

/-- Every closing bracket closes the latest one that is open, and none is left
open. -/
def WellBracketed (cs : List Char) : Prop := scan [] cs = some []

instance (cs : List Char) : Decidable (WellBracketed cs) :=
  inferInstanceAs (Decidable (scan [] cs = some []))

theorem scan_append (s xs ys : List Char) :
    scan s (xs ++ ys) = (scan s xs).bind fun s' => scan s' ys :=
  List.foldlM_append

/-- Expectations further out do not matter to a character that is read. -/
theorem step_frame {s s' : List Char} {c : Char} (h : step s c = some s') (base : List Char) :
    step (s ++ base) c = some (s' ++ base) := by
  unfold step at h ⊢
  cases hclose : closing? c with
  | some close =>
      rw [hclose] at h
      cases h
      rfl
  | none =>
      rw [hclose] at h
      dsimp only at h ⊢
      by_cases hc : isClosing c
      · rw [if_pos hc] at h ⊢
        cases s with
        | nil => cases h
        | cons close rest =>
            dsimp only [List.cons_append] at h ⊢
            by_cases hmatch : c = close
            · rw [if_pos hmatch] at h ⊢
              cases h
              rfl
            · rw [if_neg hmatch] at h
              cases h
      · rw [if_neg hc] at h ⊢
        cases h
        rfl

theorem scan_frame {s s' cs : List Char} (h : scan s cs = some s') (base : List Char) :
    scan (s ++ base) cs = some (s' ++ base) := by
  induction cs generalizing s with
  | nil =>
      cases h
      rfl
  | cons c cs ih =>
      obtain ⟨u, hstep, hrest⟩ := Option.bind_eq_some_iff.1 h
      exact Option.bind_eq_some_iff.2 ⟨u ++ base, step_frame hstep base, ih hrest⟩

/-- A character that is no bracket is passed over. -/
theorem step_of_not_bracket {c : Char} (h : isBracket c = false) (s : List Char) :
    step s c = some s := by
  unfold isBracket at h
  obtain ⟨hopen, hclose⟩ := Bool.or_eq_false_iff.1 h
  unfold step
  rw [Option.isSome_eq_false_iff.1 hopen |> Option.isNone_iff_eq_none.1]
  dsimp only
  rw [if_neg (by simp [hclose])]

/-- Only brackets matter. -/
theorem scan_filter (s cs : List Char) : scan s (cs.filter isBracket) = scan s cs := by
  induction cs generalizing s with
  | nil => rfl
  | cons c cs ih =>
      by_cases hc : isBracket c
      · rw [List.filter_cons_of_pos hc]
        exact congrArg (Option.bind (step s c)) (funext ih)
      · rw [List.filter_cons_of_neg hc, ih]
        have hstep := step_of_not_bracket (Bool.eq_false_iff.2 hc) s
        show scan s cs = (step s c).bind _
        rw [hstep]
        rfl

-- ========================================================== balanced texts

/-- A balanced text is passed over as a whole. -/
theorem WellBracketed.scan_eq {cs : List Char} (h : WellBracketed cs) (s : List Char) :
    scan s cs = some s :=
  scan_frame h s

theorem wellBracketed_nil : WellBracketed [] := rfl

theorem WellBracketed.append {xs ys : List Char} (hx : WellBracketed xs) (hy : WellBracketed ys) :
    WellBracketed (xs ++ ys) := by
  rw [WellBracketed, scan_append, hx.scan_eq]
  exact hy

/-- A balanced text may be put in anywhere. -/
theorem WellBracketed.insert {xs ys zs : List Char} (h : WellBracketed (xs ++ zs))
    (hy : WellBracketed ys) : WellBracketed (xs ++ (ys ++ zs)) := by
  rw [WellBracketed, scan_append] at h ⊢
  refine Eq.trans (congrArg (Option.bind (scan [] xs)) (funext fun s => ?_)) h
  rw [scan_append, hy.scan_eq]
  rfl

theorem wellBracketed_flatMap {α : Type} {f : α → List Char} {xs : List α}
    (h : ∀ x ∈ xs, WellBracketed (f x)) : WellBracketed (xs.flatMap f) := by
  induction xs with
  | nil => exact wellBracketed_nil
  | cons x xs ih =>
      rw [List.flatMap_cons]
      exact (h x (.head _)).append (ih fun y hy => h y (.tail _ hy))

end Brackets

open Brackets

-- ======================================================== texts of a script

/-- The brackets in a text. -/
def bracketsOf (text : String) : List Char := text.toList.filter isBracket

theorem bracketsOf_append (s t : String) :
    bracketsOf (s ++ t) = bracketsOf s ++ bracketsOf t := by
  simp [bracketsOf]

theorem scan_bracketsOf (s : List Char) (text : String) :
    scan s (bracketsOf text) = scan s text.toList :=
  scan_filter s text.toList

/-- A text without brackets is balanced. -/
theorem wellBracketed_of_bracketsOf {text : String} (h : bracketsOf text = []) :
    WellBracketed text.toList := by
  rw [WellBracketed, ← scan_bracketsOf, h]
  rfl

theorem bracketsOf_eq_nil_iff {text : String} :
    bracketsOf text = [] ↔ ∀ c ∈ text.toList, isBracket c = false := by
  simp [bracketsOf, List.filter_eq_nil_iff]

/-- A text of characters of a class without brackets. -/
theorem bracketsOf_of_class {text : String} {p : Char → Bool}
    (hp : ['(', ')', '[', ']', '\x7b', '\x7d'].any p = false)
    (h : ∀ c ∈ text.toList, p c) : bracketsOf text = [] := by
  refine bracketsOf_eq_nil_iff.2 fun c hc => Bool.eq_false_iff.2 fun hb => ?_
  have hmem : c ∈ ['(', ')', '[', ']', '\x7b', '\x7d'] := by
    unfold isBracket closing? isClosing at hb
    split at hb <;> simp_all [or_assoc]
  rw [List.any_eq_true.2 ⟨c, hmem, h c hc⟩] at hp
  cases hp

theorem bracketsOf_identifier {name : String} (h : isIdentifier name) :
    bracketsOf name = [] :=
  bracketsOf_of_class rfl (isWordChar_of_mem h)

theorem bracketsOf_intText (i : Int) : bracketsOf (intText i) = [] :=
  bracketsOf_of_class rfl (isNumberChar_of_mem i)

theorem bracketsOf_digits {cs : List Char} {n : Nat} (h : ∀ c ∈ cs, c ∈ Nat.toDigits 10 n) :
    bracketsOf (String.ofList cs) = [] := by
  refine bracketsOf_of_class (p := Char.isDigit) rfl fun c hc => ?_
  rw [String.toList_ofList] at hc
  exact Nat.isDigit_of_mem_toDigits (by decide) (by decide) (h c hc)

theorem bracketsOf_toDigits (n : Nat) :
    bracketsOf (String.ofList (Nat.toDigits 10 n)) = [] :=
  bracketsOf_digits fun _ hc => hc

theorem bracketsOf_take_toDigits (n k : Nat) :
    bracketsOf (String.ofList ((Nat.toDigits 10 n).take k)) = [] :=
  bracketsOf_digits fun _ hc => List.mem_of_mem_take hc

theorem bracketsOf_drop_toDigits (n k : Nat) :
    bracketsOf (String.ofList ((Nat.toDigits 10 n).drop k)) = [] :=
  bracketsOf_digits fun _ hc => List.mem_of_mem_drop hc

theorem bracketsOf_zeros (n : Nat) : bracketsOf (DecimalStyle.zeros n) = [] := by
  refine bracketsOf_of_class (p := Char.isDigit) rfl fun c hc => ?_
  rw [DecimalStyle.zeros, String.toList_ofList] at hc
  rw [(List.mem_replicate.1 hc).2]
  rfl

theorem bracketsOf_positional (d : Decimal) :
    bracketsOf (DecimalStyle.script.positional d) = [] := by
  unfold DecimalStyle.positional
  dsimp only
  split
  · simp only [bracketsOf_append, bracketsOf_toDigits, bracketsOf_zeros]
    rfl
  · split
    · simp only [bracketsOf_append, bracketsOf_take_toDigits, bracketsOf_drop_toDigits]
      rfl
    · simp only [bracketsOf_append, bracketsOf_toDigits, bracketsOf_zeros]
      rfl

theorem bracketsOf_scientific (d : Decimal) :
    bracketsOf (DecimalStyle.script.scientific d) = [] := by
  unfold DecimalStyle.scientific
  dsimp only
  simp only [bracketsOf_append, bracketsOf_take_toDigits, bracketsOf_toDigits, bracketsOf_zeros]
  split
  · split <;> rfl
  · rw [bracketsOf_append, bracketsOf_drop_toDigits]
    split <;> rfl

theorem bracketsOf_signed (negative : Bool) {text : String} (h : bracketsOf text = []) :
    bracketsOf (DecimalStyle.number.signed negative text) = [] := by
  unfold DecimalStyle.number.signed
  split
  · rw [bracketsOf_append, h]
    rfl
  · exact h

theorem bracketsOf_number (x : Binary64) : bracketsOf x.text = [] := by
  unfold Binary64.text DecimalStyle.number
  split
  · rfl
  · exact bracketsOf_signed _ rfl
  · exact bracketsOf_signed _ rfl
  · refine bracketsOf_signed _ ?_
    unfold DecimalStyle.decimal
    dsimp only
    split
    · exact bracketsOf_positional _
    · exact bracketsOf_scientific _

/-- A string literal has the brackets of the string. -/
theorem bracketsOf_scriptString (s : String) : bracketsOf (scriptString s) = bracketsOf s := by
  have hchars (cs : List Char) :
      (cs.flatMap scriptChar).filter isBracket = cs.filter isBracket := by
    induction cs with
    | nil => rfl
    | cons c cs ih =>
        rw [List.flatMap_cons, List.filter_append, ih]
        unfold scriptChar
        split
        · rename_i hc
          subst hc
          rfl
        · exact (List.filter_append ..).symm
  have hbody : bracketsOf (String.ofList (s.toList.flatMap scriptChar)) = bracketsOf s := by
    rw [bracketsOf, String.toList_ofList, hchars, bracketsOf]
  rw [scriptString, bracketsOf_append, bracketsOf_append, hbody]
  show [] ++ bracketsOf s ++ [] = bracketsOf s
  simp

-- ============================================================== skeletons

namespace Layout

/-- The brackets that a layout writes itself in an open scope, its children
aside. -/
def skeleton : Layout → List Char
  | .text s => bracketsOf s
  | .append a b | .late a b => a.skeleton ++ b.skeleton
  | .twice a between => a.skeleton ++ bracketsOf between ++ a.skeleton
  | .statement a | .enclosed a => a.skeleton
  | _ => []

/-- Whether the brackets that a layout writes itself are balanced. -/
def Nested (l : Layout) : Prop := WellBracketed l.skeleton

theorem nested_of_eq_nil {l : Layout} (h : l.skeleton = []) : l.Nested := by
  rw [Nested, h]
  exact wellBracketed_nil

theorem seq_skeleton (ls : List Layout) : (seq ls).skeleton = ls.flatMap skeleton := by
  induction ls with
  | nil => rfl
  | cons l ls ih =>
      cases ls with
      | nil => exact (List.append_nil _).symm
      | cons m ls => exact congrArg (l.skeleton ++ ·) ih

theorem join_skeleton {sep : String} (hsep : bracketsOf sep = []) (ls : List Layout) :
    (join sep ls).skeleton = ls.flatMap skeleton := by
  induction ls with
  | nil => rfl
  | cons l ls ih =>
      cases ls with
      | nil => exact (List.append_nil _).symm
      | cons m ls =>
          show l.skeleton ++ (bracketsOf sep ++ (join sep (m :: ls)).skeleton) = _
          rw [hsep, ih]
          rfl

theorem seq_nested {ls : List Layout} (h : ∀ l ∈ ls, l.Nested) : (seq ls).Nested := by
  rw [Nested, seq_skeleton]
  exact wellBracketed_flatMap h

@[simp] theorem joinNodes_skeleton {sep : String} (hsep : bracketsOf sep = []) (ns : List Node) :
    (joinNodes sep ns).skeleton = [] := by
  rw [joinNodes, join_skeleton hsep]
  simp [skeleton]

@[simp] theorem statements_skeleton (ns : List Node) : (statements ns).skeleton = [] := by
  rw [statements, seq_skeleton]
  simp [skeleton]

@[simp] theorem arguments_skeleton (ns : List Node) : (arguments ns).skeleton = ['(', ')'] := by
  show bracketsOf "(" ++ ((joinNodes ", " ns).skeleton ++ bracketsOf ")") = _
  rw [joinNodes_skeleton rfl]
  rfl

@[simp] theorem ident_skeleton (shown : String) (id : Ident) : (ident shown id).skeleton = [] := by
  unfold ident
  split
  · rename_i hid
    exact bracketsOf_identifier hid
  · rfl

theorem call_nested (f : Node) (args : List Node) : (call f args).Nested := by
  unfold call callee
  split
  · show WellBracketed (_ ++ (arguments args).skeleton)
    rw [arguments_skeleton]
    rfl
  · show WellBracketed ([] ++ (arguments args).skeleton)
    rw [arguments_skeleton]
    rfl

theorem methodCall_nested {object : Node} {method : Layout} {args : List Node}
    (h : method.skeleton = []) : (methodCall object method args).Nested := by
  show WellBracketed ([] ++ (bracketsOf "." ++ (method.skeleton ++ (arguments args).skeleton)))
  rw [h, arguments_skeleton]
  rfl

-- ============================================================ larger forms

/-- Declared names are valid, so that they stand in front of their values
without brackets. -/
theorem initialisers_skeleton {args : List Node}
    (h : ∀ n ∈ evens args, isIdentifier (localName n)) :
    (seq (initialisers args)).skeleton = [] := by
  rw [seq_skeleton]
  fun_induction initialisers args with
  | case1 => rfl
  | case2 n => rfl
  | case3 n value rest ih =>
      have hname := bracketsOf_identifier (h n (.head _))
      rw [List.flatMap_cons, ih fun m hm => h m (.tail _ hm), List.append_nil]
      show [] ++ (bracketsOf (localName n ++ " = ") ++ ([] ++ bracketsOf separator)) = []
      rw [bracketsOf_append, hname]
      rfl

theorem declaration_nested (args : List Node) : (declaration args).Nested := by
  unfold declaration
  split
  · exact wellBracketed_nil
  · rename_i names hnames
    refine nested_of_eq_nil ?_
    show [] ++ (seq (initialisers args)).skeleton = []
    rw [initialisers_skeleton (isIdentifier_localName hnames)]
    rfl

theorem assignments_nested (args : List Node) : (seq (assignments args)).Nested := by
  refine seq_nested ?_
  fun_induction assignments args with
  | case1 target value rest ih => exact List.forall_mem_cons.2 ⟨rfl, ih⟩
  | case2 => simp

theorem parameter_skeleton (n : Node) : (parameter n).skeleton = [] := by
  unfold parameter
  split
  · exact ident_skeleton ..
  · exact ident_skeleton ..
  · rfl

theorem function_nested {label : Layout} (h : label.skeleton = []) (params : Node)
    (body : List Node) : (function label params body).Nested := by
  unfold function
  split
  · exact wellBracketed_nil
  · rename_i items _
    have hparams : (join ", " (items.map parameter)).skeleton = [] := by
      rw [join_skeleton rfl, List.flatMap_eq_nil_iff]
      exact List.forall_mem_map.2 fun n _ => parameter_skeleton n
    show WellBracketed (bracketsOf "function " ++ (label.skeleton ++ (bracketsOf "("
      ++ ((join ", " (items.map parameter)).skeleton ++ bracketsOf ") \x7b\n")))
      ++ (statements body).skeleton ++ bracketsOf " \x7d")
    rw [h, hparams, statements_skeleton]
    rfl

theorem functionLiteral_nested (args : List Node) : (functionLiteral args).Nested := by
  unfold functionLiteral
  split
  · exact wellBracketed_nil
  · exact wellBracketed_nil
  · rename_i id params body
    split
    · rename_i hid
      show WellBracketed ([] ++ ([] ++ (bracketsOf (id.name ++ " = ")
        ++ (function empty params body).skeleton)))
      rw [bracketsOf_append, bracketsOf_identifier hid]
      exact function_nested rfl params body
    · exact nested_of_eq_nil (ident_skeleton ..)
  · exact function_nested rfl _ _

/-- Each loop is around the ones after it. -/
theorem forLoops_nested {inner : Layout} (h : inner.Nested) (items : List Node) :
    (forLoops inner items).Nested := by
  fun_induction forLoops inner items with
  | case1 name collection rest ih =>
      show WellBracketed ((['(', ')', '\x7b'] ++ (forLoops inner rest).skeleton) ++ ['\x7d'])
      rw [List.append_assoc]
      exact WellBracketed.insert rfl ih
  | case2 => exact h

theorem forLoop_nested (args : List Node) : (forLoop args).Nested := by
  unfold forLoop
  split
  · split
    · exact wellBracketed_nil
    · split
      · exact wellBracketed_nil
      · exact forLoops_nested (nested_of_eq_nil (statements_skeleton _)) _
  · exact wellBracketed_nil

theorem catchPart_nested (args clause : List Node) : (tryBlock.catchPart args clause).Nested := by
  cases clause with
  | nil => exact wellBracketed_nil
  | cons name body =>
      show WellBracketed (bracketsOf "catch(" ++ ([] ++ (bracketsOf ")\x7b\n"
        ++ ((statements body).skeleton ++ bracketsOf "\x7d\n"))))
      rw [statements_skeleton]
      rfl

theorem finallyPart_nested (body : List Node) : (tryBlock.finallyPart body).Nested := by
  show WellBracketed (bracketsOf "finally\x7b\n"
    ++ ((statements body).skeleton ++ bracketsOf "\x7d\n"))
  rw [statements_skeleton]
  rfl

theorem tryBlock_nested (args : List Node) : (tryBlock args).Nested := by
  have hcatches (clauses : List (List Node)) :
      (seq (clauses.map (tryBlock.catchPart args))).Nested :=
    seq_nested (List.forall_mem_map.2 fun clause _ => catchPart_nested args clause)
  have hfinallies (clauses : List (List Node)) :
      (seq (clauses.map tryBlock.finallyPart)).Nested :=
    seq_nested (List.forall_mem_map.2 fun clause _ => finallyPart_nested clause)
  unfold tryBlock
  split
  · exact wellBracketed_nil
  · exact wellBracketed_nil
  · exact wellBracketed_nil
  · have hparts := (hcatches (args.filterMap catchClause?)).append
      (hfinallies (args.filterMap finallyClause?))
    rw [Nested, seq_skeleton]
    show WellBracketed (['\x7b'] ++ ((statements _).skeleton ++ (['\x7d'] ++ (_ ++ (_ ++ [])))))
    rw [statements_skeleton, List.append_nil]
    have hbraces : WellBracketed ['\x7b', '\x7d'] := rfl
    exact hbraces.append hparts

theorem conditional_nested (args : List Node) : (conditional args).Nested := by
  unfold conditional
  split <;> rfl

theorem unary_nested {name : String} {write : Node → Layout} (h : ∀ n, (write n).Nested)
    (args : List Node) : (unary name write args).Nested := by
  unfold unary
  split
  · exact h _
  · exact wellBracketed_nil

theorem operand_nested {op : String} {write : Node → Layout} (h : ∀ n, (write n).Nested)
    (args : List Node) : (operand op write args).Nested := by
  unfold operand
  split
  · exact h _
  · exact wellBracketed_nil

theorem binary_nested {op : String} (hop : Operator.isBinary op) (args : List Node) :
    (binary op args).Nested := by
  have hspelling : ∀ op ∈ Operator.binary,
      bracketsOf (" " ++ Operator.spelling op ++ " ") = [] := by
    decide
  have hsep := hspelling op (List.contains_iff_mem.1 hop)
  unfold binary
  split
  · show WellBracketed (bracketsOf "(" ++ ((joinNodes _ args).skeleton ++ bracketsOf ")"))
    rw [joinNodes_skeleton hsep]
    rfl
  · exact wellBracketed_nil

end Layout

-- ============================================================= every form

open Layout

/-- A special form is well bracketed, unless it is raw text. -/
theorem SpecialForm.layout_nested {form : SpecialForm} (h : form ≠ .raw) (args : List Node) :
    (form.layout args).Nested := by
  cases form with
  | raw => exact absurd rfl h
  | declaration => exact declaration_nested args
  | functionLiteral => exact functionLiteral_nested args
  | call =>
      cases args with
      | nil => exact wellBracketed_nil
      | cons f rest => exact call_nested f rest
  | concatenation => exact nested_of_eq_nil (joinNodes_skeleton rfl args)
  | member =>
      rcases args with _ | ⟨object, _ | ⟨method, rest⟩⟩
      · exact wellBracketed_nil
      · exact wellBracketed_nil
      · exact methodCall_nested rfl
  | path => exact nested_of_eq_nil (joinNodes_skeleton rfl args)
  | conditional => exact conditional_nested args
  | result => rcases args with _ | ⟨n, _ | ⟨_, _⟩⟩ <;> rfl
  | deletion => exact unary_nested (fun n => by rfl) args
  | assignment =>
      unfold layout
      dsimp only
      split
      · exact wellBracketed_nil
      · exact assignments_nested args
  | construction =>
      cases args with
      | nil => exact wellBracketed_nil
      | cons f rest =>
          show WellBracketed (bracketsOf "new " ++ ([] ++ (arguments rest).skeleton))
          rw [arguments_skeleton]
          rfl
  | index =>
      cases args with
      | nil => exact wellBracketed_nil
      | cons target keys =>
          refine seq_nested (List.forall_mem_cons.2 ⟨wellBracketed_nil, ?_⟩)
          exact List.forall_mem_map.2 fun key _ => rfl
  | increment => exact unary_nested (fun n => by rfl) args
  | decrement => exact unary_nested (fun n => by rfl) args
  | successor => exact unary_nested (fun n => by rfl) args
  | predecessor => exact unary_nested (fun n => by rfl) args
  | definedness => exact unary_nested (fun n => by rfl) args
  | choice =>
      unfold layout
      dsimp only
      split <;> rfl
  | conjunction => exact nested_of_eq_nil (joinNodes_skeleton rfl args)
  | disjunction => exact nested_of_eq_nil (joinNodes_skeleton rfl args)
  | block => exact nested_of_eq_nil (statements_skeleton args)
  | whileLoop =>
      cases args with
      | nil => exact wellBracketed_nil
      | cons test body =>
          show WellBracketed (bracketsOf "while (" ++ ([] ++ (bracketsOf ") \x7b \n"
            ++ ((statements body).skeleton ++ bracketsOf "\n \x7d"))))
          rw [statements_skeleton]
          rfl
  | forLoop => exact forLoop_nested args
  | functionDeclaration =>
      show (Layout.functionDeclaration args).Nested
      unfold Layout.functionDeclaration
      split
      · exact function_nested (ident_skeleton ..) _ _
      · exact wellBracketed_nil
  | tryBlock => exact tryBlock_nested args
  | loopExit => exact wellBracketed_nil

theorem Layout.symbolForm_nested {id : Ident} (hid : id.name ≠ "quote") (args : List Node) :
    (symbolForm id args).Nested := by
  unfold symbolForm
  split
  · split
    · exact methodCall_nested (ident_skeleton ..)
    · exact wellBracketed_nil
  · split
    · rename_i special hspecial
      refine SpecialForm.layout_nested (fun hraw => hid ?_) args
      rw [hraw] at hspecial
      exact SpecialForm.eq_quote_of_raw hspecial
    · split
      · rename_i hop
        exact binary_nested hop args
      · split
        · rename_i hop
          have hname : ∀ op ∈ Operator.leading, bracketsOf op = [] := by decide
          refine operand_nested (fun n => nested_of_eq_nil ?_) args
          exact congrArg (· ++ []) (hname _ (List.contains_iff_mem.1 hop))
        · split
          · rename_i hop
            have hname : ∀ op ∈ Operator.trailing, bracketsOf op = [] := by decide
            refine operand_nested (fun n => nested_of_eq_nil ?_) args
            exact congrArg ([] ++ ·) (hname _ (List.contains_iff_mem.1 hop))
          · exact call_nested _ args

end FormScript
