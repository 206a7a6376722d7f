/-
Unique readability of expressions: on the trees of literals, symbols,
arrays, objects, operators and plain calls (`Node.Expression`), emission
without custom forms always succeeds, and no two trees have the same text.

# The argument

The text of an expression is told apart from whatever may follow it inside
a larger expression: a comma, a colon, a blank or a closing bracket
(`Delimited`). `Expression.readable` proves this by induction on the tree.
The first character of a text tells its kind (`Lead`), so only expressions
of one kind have to be compared:

- words (`null`, `true`, `false`, symbols, calls) are runs of identifier
  characters, and a call goes on with a parenthesis;
- numbers are runs of digits with at most a sign in front;
- string literals end at the first quote that no backslash escapes, since
  the text itself holds no backslash;
- arrays, objects and arguments are lists with separators;
- after the first operand of an operator comes a blank and the operator up
  to the next blank, which settles the separator of the rest.
-/
import FormScript.Proofs.Readability.Expression
import FormScript.Proofs.Readability.Tokens

namespace FormScript

open PrefixCode

namespace Node

-- ================================================================= leads

/-- The kinds of expressions that their first character tells apart. -/
inductive Lead where
  | word
  | number
  | quote
  | bracket
  | brace
  | paren
deriving DecidableEq

/-- The kind of an expression that starts with this character, if one
can. -/
def Lead.ofChar? (c : Char) : Option Lead :=
  if isIdentifierStart c then some .word
  else if isNumberChar c then some .number
  else if c = Text.doubleQuote then some .quote
  else if c = '[' then some .bracket
  else if c = '\x7b' then some .brace
  else if c = '(' then some .paren
  else none

/-- The kind of an expression. -/
def lead : Node → Lead
  | .int _ => .number
  | .str _ => .quote
  | .seq _ _ => .bracket
  | .map _ _ => .brace
  | .form (.sym id :: _) => if Operator.isBinary id.name then .paren else .word
  | _ => .word

theorem lead_of_call {head : String} {args : List Node}
    (unknown : Operator.isOperator head = false) :
    (form (sym ⟨head, none⟩ :: args)).lead = .word := by
  have hbinary : ¬ Operator.isBinary head := by
    simp only [Operator.isOperator, Bool.or_eq_false_iff] at unknown
    simp [unknown.1.1]
  rw [lead, if_neg hbinary]

theorem isAlpha_of_isDigit {c : Char} (h : c.isDigit) : c.isAlpha = false := by
  -- digits come before all letters
  change (decide ('0'.val ≤ c.val) && decide (c.val ≤ '9'.val)) = true at h
  change (decide ('A'.val ≤ c.val ∧ c.val ≤ 'Z'.val)
    || decide ('a'.val ≤ c.val) && decide (c.val ≤ 'z'.val)) = false
  grind

theorem lead_of_isNumberChar {c : Char} (h : isNumberChar c) :
    Lead.ofChar? c = some .number := by
  have hstart : isIdentifierStart c = false := by
    simp only [isNumberChar, Bool.or_eq_true, beq_iff_eq] at h
    rcases h with hdigit | rfl
    · have hne {d : Char} (hd : d.isDigit = false) : c ≠ d := by
        rintro rfl
        rw [hd] at hdigit
        cases hdigit
      simp [isIdentifierStart, isAlpha_of_isDigit hdigit, hne (d := '_') rfl,
        hne (d := '$') rfl]
    · decide
  simp [Lead.ofChar?, hstart, h]

/-- A valid identifier starts a word. -/
theorem starts_word {name : String} (h : isIdentifier name) :
    ∃ c cs, name.toList = c :: cs ∧ Lead.ofChar? c = some .word := by
  unfold isIdentifier at h
  cases hcs : name.toList with
  | nil =>
      rw [hcs] at h
      cases h
  | cons c cs =>
      rw [hcs] at h
      simp only [Bool.and_eq_true] at h
      exact ⟨c, cs, rfl, if_pos h.1⟩

theorem starts_number (i : Int) :
    ∃ c cs, (intText i).toList = c :: cs ∧ Lead.ofChar? c = some .number := by
  cases hcs : (intText i).toList with
  | nil =>
      rw [intText_toList] at hcs
      exact absurd (List.append_eq_nil_iff.1 hcs).2 (toDigits_ne_nil _)
  | cons c cs =>
      have hc := isNumberChar_of_mem i c (hcs ▸ .head _)
      exact ⟨c, cs, rfl, lead_of_isNumberChar hc⟩

/-- The first character of an expression tells its kind. -/
theorem Expression.starts {n : Node} (h : n.Expression) :
    ∃ c cs, n.chars = c :: cs ∧ Lead.ofChar? c = some n.lead := by
  cases h with
  | nil =>
      rw [(written_of_layout_text rfl).chars_eq]
      exact ⟨'n', _, rfl, by decide⟩
  | bool b =>
      rw [(written_of_layout_text rfl).chars_eq]
      cases b with
      | true => exact ⟨'t', _, rfl, by decide⟩
      | false => exact ⟨'f', _, rfl, by decide⟩
  | int i =>
      rw [(written_of_layout_text rfl).chars_eq]
      exact starts_number i
  | str s _ =>
      rw [(written_of_layout_text rfl).chars_eq, scriptString_toList]
      exact ⟨_, _, rfl, by rw [lead]; decide⟩
  | sym name valid _ =>
      rw [(written_sym valid).chars_eq]
      exact starts_word valid
  | array items inner =>
      rw [chars_array inner]
      exact ⟨_, _, rfl, by rw [lead]; decide⟩
  | object pairs keys values =>
      rw [chars_object keys values]
      exact ⟨_, _, rfl, by rw [lead]; decide⟩
  | operation op args known unaliased count inner =>
      rw [chars_operation known unaliased count inner]
      refine ⟨_, _, rfl, ?_⟩
      rw [lead, if_pos known]
      decide
  | call head args valid ordinary unknown inner =>
      obtain ⟨c, cs, hcs, hc⟩ := starts_word valid
      rw [chars_call valid ordinary unknown inner, callChars, hcs,
        lead_of_call unknown]
      exact ⟨c, _, rfl, hc⟩

/-- Expressions with one text and its continuation are of one kind. -/
theorem lead_eq {m n : Node} (hm : m.Expression) (hn : n.Expression)
    {u v : List Char} (h : m.chars ++ u = n.chars ++ v) : m.lead = n.lead := by
  obtain ⟨c, cs, hmc, hc⟩ := hm.starts
  obtain ⟨d, ds, hnd, hd⟩ := hn.starts
  rw [hmc, hnd] at h
  injection h with hcd _
  subst hcd
  exact Option.some.inj (hc.symm.trans hd)

/-- No expression starts with a delimiter. -/
theorem Expression.start_ne {n : Node} (h : n.Expression) {close : Char}
    (hclose : close ∈ delimiters) : ∃ c cs, n.chars = c :: cs ∧ c ≠ close := by
  have hnone : delimiters.any (fun c => (Lead.ofChar? c).isSome) = false := by
    decide
  obtain ⟨c, cs, hcs, hc⟩ := h.starts
  refine ⟨c, cs, hcs, ?_⟩
  rintro rfl
  have hc' := List.any_eq_false.1 hnone c hclose
  rw [hc] at hc'
  exact hc' rfl

-- ================================================================ shapes

/-- The atom that a word stands for. -/
def wordNode (w : String) : Node :=
  if w = "null" then .nil
  else if w = "true" then .bool true
  else if w = "false" then .bool false
  else .sym ⟨w, none⟩

/-- What an expression of a kind looks like, with its text. -/
def Shape : Lead → Node → Prop
  | .word, n =>
    (∃ w : String, n = wordNode w ∧ n.chars = w.toList
      ∧ ∀ c ∈ w.toList, isWordChar c)
    ∨ ∃ head args, n = form (sym ⟨head, none⟩ :: args)
        ∧ n.chars = callChars head args ∧ (∀ c ∈ head.toList, isWordChar c)
        ∧ ∀ a ∈ args, a.Expression
  | .number, n => ∃ i, n = int i ∧ n.chars = (intText i).toList
  | .quote, n =>
    ∃ s, n = str s ∧ n.chars = (scriptString s).toList ∧ '\\' ∉ s.toList
  | .bracket, n =>
    ∃ items, n = seq .vector items
      ∧ n.chars = '[' :: ([',', ' '].intercalate (items.map chars) ++ [']'])
      ∧ ∀ m ∈ items, m.Expression
  | .brace, n =>
    ∃ pairs, n = map .object pairs
      ∧ n.chars = '\x7b' :: ([',', ' '].intercalate (pairs.map entryChars) ++ ['\x7d'])
      ∧ ∀ p ∈ pairs, p.1.Expression ∧ p.2.Expression
  | .paren, n =>
    ∃ op args, n = form (sym ⟨op, none⟩ :: args)
      ∧ n.chars = operationChars op args ∧ Operator.isBinary op
      ∧ 2 ≤ args.length ∧ ∀ a ∈ args, a.Expression

theorem two_le_of_accepts {op : String} {k : Nat} (h : Operator.accepts op k) :
    2 ≤ k := by
  simp only [Operator.accepts, Bool.or_eq_true, Bool.and_eq_true,
    beq_iff_eq, decide_eq_true_eq] at h
  omega

/-- The names of literals are words. -/
theorem isWordChar_of_literal {w : String} (h : w ∈ literalNames) :
    ∀ c ∈ w.toList, isWordChar c := by
  have hall : literalNames.all (fun w => w.toList.all isWordChar) = true := by
    decide
  exact List.all_eq_true.1 (List.all_eq_true.1 hall w h)

/-- Every expression looks as its kind says. -/
theorem Expression.shape {n : Node} (h : n.Expression) : Shape n.lead n := by
  cases h with
  | nil =>
      exact .inl ⟨"null", rfl, (written_of_layout_text rfl).chars_eq,
        isWordChar_of_literal (by decide)⟩
  | bool b =>
      cases b with
      | true =>
          exact .inl ⟨"true", rfl, (written_of_layout_text rfl).chars_eq,
            isWordChar_of_literal (by decide)⟩
      | false =>
          exact .inl ⟨"false", rfl, (written_of_layout_text rfl).chars_eq,
            isWordChar_of_literal (by decide)⟩
  | int i => exact ⟨i, rfl, (written_of_layout_text rfl).chars_eq⟩
  | str s plain => exact ⟨s, rfl, (written_of_layout_text rfl).chars_eq, plain⟩
  | sym name valid other =>
      refine .inl ⟨name, ?_, (written_sym valid).chars_eq, isWordChar_of_mem valid⟩
      simp only [literalNames, List.mem_cons, List.not_mem_nil, or_false,
        not_or] at other
      rw [wordNode, if_neg other.1, if_neg other.2.1, if_neg other.2.2]
  | array items inner => exact ⟨items, rfl, chars_array inner, inner⟩
  | object pairs keys values =>
      exact ⟨pairs, rfl, chars_object keys values,
        fun p hp => ⟨keys p hp, values p hp⟩⟩
  | operation op args known unaliased count inner =>
      rw [lead, if_pos known]
      exact ⟨op, args, rfl, chars_operation known unaliased count inner, known,
        two_le_of_accepts count, inner⟩
  | call head args valid ordinary unknown inner =>
      rw [lead_of_call unknown]
      exact .inr ⟨head, args, rfl, chars_call valid ordinary unknown inner,
        isWordChar_of_mem valid, inner⟩

/-- An expression with the same text and its continuation has a shape of the
same kind. -/
theorem shape_of_append_eq {m n : Node} (hm : m.Expression)
    (hn : n.Expression) {u v : List Char}
    (h : m.chars ++ u = n.chars ++ v) : Shape m.lead n :=
  lead_eq hm hn h ▸ hn.shape

-- ============================================================== readable

/-- A list of readable expressions up to its closing bracket. -/
theorem list_inj {α : Type} {S : α → Prop} {enc : α → List Char} {close : Char}
    (hclose : close ∈ delimiters) (hne : ',' ≠ close)
    (hstart : ∀ x, S x → ∃ c cs, enc x = c :: cs ∧ c ≠ close)
    {xs ys : List α} (hxs : ∀ x ∈ xs, S x ∧ Readable S enc Delimited x)
    (hys : ∀ y ∈ ys, S y) {u v : List Char}
    (h : ([',', ' '].intercalate (xs.map enc) ++ [close]) ++ u
      = ([',', ' '].intercalate (ys.map enc) ++ [close]) ++ v) :
    xs = ys ∧ u = v := by
  rw [List.append_assoc, List.append_assoc] at h
  exact joined_inj hne (fun w => delimited_cons (by decide) _)
    (fun w => delimited_cons hclose w) hstart hxs hys h

/-- A word that is an atom is told apart. -/
theorem word_readable {m : Node} {w : String} (hm : m.Expression)
    (hlead : m.lead = .word) (hw : ∀ c ∈ w.toList, isWordChar c)
    (hnode : m = wordNode w) (hchars : m.chars = w.toList) :
    Readable Expression chars Delimited m := by
  intro n hn u v hu hv h
  have hshape := shape_of_append_eq hm hn h
  rw [hlead] at hshape
  rw [hchars] at h
  rcases hshape with ⟨w', hnode', hchars', hw'⟩ | ⟨head, args, -, hchars', hhead, -⟩
  · rw [hchars'] at h
    obtain ⟨hww, huv⟩ := run_inj hw hw' (stops_word hu) (stops_word hv) h
    rw [hnode, hnode', String.toList_inj.1 hww]
    exact ⟨rfl, huv⟩
  · rw [hchars', callChars, List.append_assoc] at h
    obtain ⟨-, hu'⟩ := run_inj hw hhead (stops_word hu) (stops_word_paren _) h
    rw [hu'] at hu
    exact absurd hu not_delimited_paren

/-- A call of readable arguments is told apart. -/
theorem call_readable {head : String} {args : List Node}
    (hm : (form (sym ⟨head, none⟩ :: args)).Expression)
    (hlead : (form (sym ⟨head, none⟩ :: args)).lead = .word)
    (hchars : (form (sym ⟨head, none⟩ :: args)).chars = callChars head args)
    (hhead : ∀ c ∈ head.toList, isWordChar c)
    (hargs : ∀ a ∈ args, a.Expression ∧ Readable Expression chars Delimited a) :
    Readable Expression chars Delimited (form (sym ⟨head, none⟩ :: args)) := by
  intro n hn u v hu hv h
  have hshape := shape_of_append_eq hm hn h
  rw [hlead] at hshape
  rw [hchars, callChars, List.append_assoc] at h
  rcases hshape with ⟨w, -, hchars', hw⟩ | ⟨head', args', rfl, hchars', hhead', hargs'⟩
  · rw [hchars'] at h
    obtain ⟨-, hv'⟩ := run_inj hhead hw (stops_word_paren _) (stops_word hv) h
    rw [← hv'] at hv
    exact absurd hv not_delimited_paren
  · rw [hchars', callChars, List.append_assoc] at h
    obtain ⟨hheads, hrest⟩ := run_inj hhead hhead' (stops_word_paren _)
      (stops_word_paren _) h
    injection hrest with _ hrest
    obtain ⟨rfl, huv⟩ := list_inj (by decide) (by decide)
      (fun a ha => ha.start_ne (by decide)) hargs hargs' hrest
    rw [String.toList_inj.1 hheads]
    exact ⟨rfl, huv⟩

/-- A key and its value are told apart if both are. -/
theorem entry_readable {p : Node × Node}
    (hk : Readable Expression chars Delimited p.1)
    (hv : Readable Expression chars Delimited p.2) :
    Readable (fun p => p.1.Expression ∧ p.2.Expression) entryChars Delimited p := by
  rintro ⟨k', v'⟩ ⟨hk', hv'⟩ u w hu hw h
  simp only [entryChars, List.append_assoc] at h
  obtain ⟨hkk, hrest⟩ := hk hk' (delimited_cons (by decide) _)
    (delimited_cons (by decide) _) h
  injection hrest with _ hrest
  injection hrest with _ hrest
  obtain ⟨hvv, huw⟩ := hv hv' hu hw hrest
  exact ⟨Prod.ext hkk hvv, huw⟩

theorem entry_start (p : Node × Node) (h : p.1.Expression ∧ p.2.Expression) :
    ∃ c cs, entryChars p = c :: cs ∧ c ≠ '\x7d' := by
  have hbrace : '\x7d' ∈ delimiters := by decide
  obtain ⟨c, cs, hp, hc⟩ := h.1.start_ne hbrace
  rw [entryChars, hp]
  exact ⟨c, _, rfl, hc⟩

theorem no_blank {op : String} (h : Operator.isBinary op) :
    ∀ c ∈ op.toList, (c != ' ') = true := by
  have hall : Operator.binary.all (fun op => op.toList.all (· != ' ')) = true := by
    decide
  exact List.all_eq_true.1 (List.all_eq_true.1 hall op (List.contains_iff_mem.1 h))

/-- A separator with an operator shows the operator. -/
theorem separator_inj {op op' : String} (hop : Operator.isBinary op)
    (hop' : Operator.isBinary op') {u v : List Char}
    (h : ' ' :: (op.toList ++ [' ']) ++ u = ' ' :: (op'.toList ++ [' ']) ++ v) :
    op = op' := by
  simp only [List.cons_append, List.append_assoc, List.nil_append] at h
  injection h with _ h
  have stops : ∀ w, Stops (fun c => c != ' ') (' ' :: w) := by
    intro w c hc
    cases hc
    rfl
  exact String.toList_inj.1
    (run_inj (no_blank hop) (no_blank hop') (stops u) (stops v) h).1

/-- The first operand is told apart, then the operator after it, and with
the operator the separator of the other operands. -/
theorem operation_inj {op op' : String} {args args' : List Node}
    (hop : Operator.isBinary op) (hop' : Operator.isBinary op')
    (hcount : 2 ≤ args.length) (hcount' : 2 ≤ args'.length)
    (hargs : ∀ a ∈ args, Readable Expression chars Delimited a)
    (hargs' : ∀ a ∈ args', a.Expression) {u v : List Char}
    (h : operationChars op args ++ u = operationChars op' args' ++ v) :
    op = op' ∧ args = args' ∧ u = v := by
  match args, args', hcount, hcount' with
  | a :: b :: rest, a' :: b' :: rest', _, _ =>
      rw [operationChars, operationChars, intercalate_cons_eq,
        intercalate_cons_eq] at h
      simp only [List.cons_append, List.append_assoc, List.nil_append] at h
      injection h with _ h
      have hblank : ∀ (op : List Char) w, Delimited (' ' :: (op ++ [' ']) ++ w) :=
        fun op w => delimited_cons (by decide) _
      have hends : Ends Delimited ' ' (fun w => ∃ v, w = ')' :: v) :=
        ends_of_close (by decide) fun w => delimited_cons (by decide) w
      obtain ⟨rfl, hrest⟩ := hargs a (.head _) (hargs' a' (.head _))
        (continues_tail (hblank _) hends _ ⟨u, rfl⟩)
        (continues_tail (hblank _) hends _ ⟨v, rfl⟩) h
      have hop_eq : op = op' := by
        have hsep := hrest
        simp only [tail, List.flatMap_cons] at hsep
        rw [List.append_assoc, List.append_assoc, List.append_assoc,
          List.append_assoc] at hsep
        exact separator_inj hop hop' hsep
      subst hop_eq
      obtain ⟨hargs_eq, huv⟩ := tail_inj (hblank _) hends
        (fun z hz => hargs z (.tail _ hz)) (fun z hz => hargs' z (.tail _ hz))
        ⟨u, rfl⟩ ⟨v, rfl⟩ hrest
      injection huv with _ huv
      rw [hargs_eq]
      exact ⟨rfl, rfl, huv⟩

/-- An operator with readable operands is told apart. -/
theorem operation_readable {op : String} {args : List Node}
    (hm : (form (sym ⟨op, none⟩ :: args)).Expression)
    (hchars : (form (sym ⟨op, none⟩ :: args)).chars = operationChars op args)
    (hop : Operator.isBinary op) (hcount : 2 ≤ args.length)
    (hargs : ∀ a ∈ args, Readable Expression chars Delimited a) :
    Readable Expression chars Delimited (form (sym ⟨op, none⟩ :: args)) := by
  intro n hn u v _ _ h
  have hshape := shape_of_append_eq hm hn h
  rw [lead, if_pos hop] at hshape
  obtain ⟨op', args', rfl, hchars', hop', hcount', hargs'⟩ := hshape
  rw [hchars, hchars'] at h
  obtain ⟨rfl, rfl, huv⟩ :=
    operation_inj hop hop' hcount hcount' hargs hargs' h
  exact ⟨rfl, huv⟩

/-- Every expression is told apart from every other, whatever delimiter comes
after it. The induction is on the expression: each of its parts is followed
by a delimiter. -/
theorem Expression.readable {m : Node} (hm : m.Expression) :
    Readable Expression chars Delimited m := by
  induction hm with
  | nil =>
      exact word_readable .nil rfl (isWordChar_of_literal (w := "null") (by decide))
        rfl (written_of_layout_text rfl).chars_eq
  | bool b =>
      rcases Expression.shape (.bool b) with ⟨w, hnode, hchars, hw⟩ | ⟨_, _, h, _⟩
      · exact word_readable (.bool b) rfl hw hnode hchars
      · cases h
  | int i =>
      intro n hn u v hu hv h
      obtain ⟨j, rfl, hchars⟩ := shape_of_append_eq (.int i) hn h
      rw [(written_of_layout_text (n := .int i) rfl).chars_eq, hchars] at h
      obtain ⟨hij, huv⟩ := run_inj (isNumberChar_of_mem i)
        (isNumberChar_of_mem j) (hu.stops (by decide)) (hv.stops (by decide)) h
      rw [intText_inj (String.toList_inj.1 hij)]
      exact ⟨rfl, huv⟩
  | str s plain =>
      intro n hn u v hu hv h
      obtain ⟨t, rfl, hchars, hplain⟩ := shape_of_append_eq (.str s plain) hn h
      rw [(written_of_layout_text (n := .str s) rfl).chars_eq, hchars,
        scriptString_toList, scriptString_toList] at h
      simp only [List.cons_append, List.append_assoc, List.nil_append] at h
      injection h with _ h
      obtain ⟨hst, huv⟩ := literal_inj plain hplain h
      rw [String.toList_inj.1 hst]
      exact ⟨rfl, huv⟩
  | sym name valid other =>
      rcases Expression.shape (.sym name valid other)
        with ⟨w, hnode, hchars, hw⟩ | ⟨_, _, h, _⟩
      · exact word_readable (.sym name valid other) rfl hw hnode hchars
      · cases h
  | array items inner ih =>
      intro n hn u v hu hv h
      obtain ⟨items', rfl, hchars, hinner⟩ :=
        shape_of_append_eq (.array items inner) hn h
      rw [chars_array inner, hchars] at h
      injection h with _ h
      obtain ⟨rfl, huv⟩ := list_inj (by decide) (by decide)
        (fun a ha => ha.start_ne (by decide))
        (fun a ha => ⟨inner a ha, ih a ha⟩) hinner h
      exact ⟨rfl, huv⟩
  | object pairs keys values ihk ihv =>
      intro n hn u v hu hv h
      obtain ⟨pairs', rfl, hchars, hinner⟩ :=
        shape_of_append_eq (.object pairs keys values) hn h
      rw [chars_object keys values, hchars] at h
      injection h with _ h
      obtain ⟨rfl, huv⟩ := list_inj (by decide) (by decide) entry_start
        (fun p hp => ⟨⟨keys p hp, values p hp⟩,
          entry_readable (ihk p hp) (ihv p hp)⟩) hinner h
      exact ⟨rfl, huv⟩
  | operation op args known unaliased count inner ih =>
      exact operation_readable (.operation op args known unaliased count inner)
        (chars_operation known unaliased count inner) known
        (two_le_of_accepts count) ih
  | call head args valid ordinary unknown inner ih =>
      have hm := Expression.call head args valid ordinary unknown inner
      exact call_readable hm (lead_of_call unknown)
        (chars_call valid ordinary unknown inner) (isWordChar_of_mem valid)
        (fun a ha => ⟨inner a ha, ih a ha⟩)

/-- Expressions with the same text are the same. -/
theorem Expression.text_inj {m n : Node} (hm : m.Expression)
    (hn : n.Expression) (h : m.text = n.text) : m = n := by
  have hchars : m.chars ++ [] = n.chars ++ [] := by rw [chars, chars, h]
  exact (hm.readable hn delimited_nil delimited_nil hchars).1

end Node

-- ===================================================== unique readability

namespace Emitter

/-- Without custom forms every expression is emitted, whatever the settings,
the levels of expansion left and the state of the run, and different
expressions are emitted as different texts. -/
theorem emitAt_expression_injective (e : Emitter) (he : e.forms = .empty)
    (levels : Nat) (r : Run) :
    (∀ n : Node, n.Expression → ∃ t, e.emitAt levels n r = .ok t r)
    ∧ ∀ m n : Node, m.Expression → n.Expression → m ≠ n →
        ∀ t u, e.emitAt levels m r = .ok t r → e.emitAt levels n r = .ok u r →
          t ≠ u := by
  refine ⟨fun n hn => ⟨n.text, hn.written e levels he r⟩, ?_⟩
  intro m n hm hn hne t u ht hu htu
  have htext : m.text = n.text := by
    rw [hm.written e levels he r] at ht
    rw [hn.written e levels he r] at hu
    injection ht with ht _
    injection hu with hu _
    rw [ht, hu, htu]
  exact hne (hm.text_inj hn htext)

/-- A sum within a sum. The string in it looks like the rest of a text. -/
def nestedSum : Node :=
  .form [.sym ⟨"+", none⟩, .sym ⟨"a", none⟩,
    .form [.sym ⟨"+", none⟩, .int (-1), .str "\", (b + c)"]]

/-- The same operands in one sum. -/
def chainedSum : Node :=
  .form [.sym ⟨"+", none⟩, .sym ⟨"a", none⟩, .int (-1), .str "\", (b + c)"]

theorem nestedSum_expression : nestedSum.Expression := by
  refine .operation "+" _ (by decide) (by decide) (by decide) ?_
  simp only [List.forall_mem_cons, List.not_mem_nil, false_implies,
    implies_true, and_true]
  refine ⟨.sym "a" (by decide) (by decide), ?_⟩
  refine .operation "+" _ (by decide) (by decide) (by decide) ?_
  simp only [List.forall_mem_cons, List.not_mem_nil, false_implies,
    implies_true, and_true]
  exact ⟨.int _, .str _ (by decide)⟩

theorem chainedSum_expression : chainedSum.Expression := by
  refine .operation "+" _ (by decide) (by decide) (by decide) ?_
  simp only [List.forall_mem_cons, List.not_mem_nil, false_implies,
    implies_true, and_true]
  exact ⟨.sym "a" (by decide) (by decide), .int _, .str _ (by decide)⟩

/-- The nested and the chained sum are emitted, as different texts. -/
theorem nestedSum_text_ne :
    ∃ t u, emitAt {} 0 nestedSum {} = .ok t {}
      ∧ emitAt {} 0 chainedSum {} = .ok u {} ∧ t ≠ u := by
  obtain ⟨emitted, differ⟩ := emitAt_expression_injective {} rfl 0 {}
  obtain ⟨t, ht⟩ := emitted nestedSum nestedSum_expression
  obtain ⟨u, hu⟩ := emitted chainedSum chainedSum_expression
  have hne : nestedSum ≠ chainedSum := by simp [nestedSum, chainedSum]
  exact ⟨t, u, ht, hu, differ nestedSum chainedSum nestedSum_expression
    chainedSum_expression hne t u ht hu⟩

end Emitter

end FormScript
