/-
Literals in modules are read back. A module that assigns a quoted text to a name sets this
name to the text, whatever characters the text has (`ModuleText.actions_assign`), and a
target that leads to it has the text as its value (`Library.load_literal`).

The lexer takes one character at a time, so what has to be said is what it does on the
characters that one character is quoted by: from inside a string it gets back inside the
string, with that character read (`Lexer.foldl_quotedChar`). Two things are not seen from
there. The first character after the opening quote decides between one quote and three, and
an empty literal looks like the start of one in three quotes until something else follows.
-/
import FormScript.Library
import Mathlib.Data.Nat.Digits.Defs

namespace FormScript

open Text (apostrophe doubleQuote quotedChar quotedChars codePointEscape hex isPrintable)

namespace ModuleText

-- ============================================================ code points

/-- A number and its digits in base sixteen. -/
inductive HexDigits : Nat → List Char → Prop
  | nil : HexDigits 0 []
  | snoc {n d : Nat} {front : List Char} {c : Char} (h : HexDigits n front)
      (hc : Lexer.hexDigit? c = some d) : HexDigits (n * 16 + d) (front ++ [c])

theorem hexDigit?_digitChar {d : Nat} (h : d < 16) : Lexer.hexDigit? d.digitChar = some d := by
  have hall : ∀ d : Fin 16, Lexer.hexDigit? (Nat.digitChar d) = some d.val := by decide
  exact hall ⟨d, h⟩

theorem hexDigits_zeros (k : Nat) : HexDigits 0 (List.replicate k '0') := by
  induction k with
  | zero => exact .nil
  | succ k ih =>
      have hzero : Lexer.hexDigit? '0' = some 0 := by decide
      rw [List.replicate_succ']
      exact ih.snoc hzero

/-- Zeros in front change nothing. -/
theorem hexDigits_toDigits (k n : Nat) :
    HexDigits n (List.replicate k '0' ++ Nat.toDigits 16 n) := by
  induction n using Nat.strongRecOn with
  | ind n ih =>
      rw [Nat.toDigits_eq_if (by decide)]
      by_cases hn : n < 16
      · rw [if_pos hn]
        have hlast := (hexDigits_zeros k).snoc (hexDigit?_digitChar hn)
        rwa [Nat.zero_mul, Nat.zero_add] at hlast
      · rw [if_neg hn, ← List.append_assoc]
        have hlast := (ih (n / 16) (by omega)).snoc
          (hexDigit?_digitChar (Nat.mod_lt n (by decide)))
        rwa [show n / 16 * 16 + n % 16 = n by omega] at hlast

theorem length_hex {width n : Nat} (hwidth : 0 < width) (hn : n < 16 ^ width) :
    (hex width n).length = width := by
  have hle : (Nat.toDigits 16 n).length ≤ width :=
    (Nat.length_toDigits_le_iff (by decide) hwidth).2 hn
  rw [hex, List.length_append, List.length_replicate]
  omega

namespace Lexer

variable (s : Lexer)

/-- A digit is none of the characters that no text has. -/
theorem step_inEscape {u : Unfinished} {left value d : Nat} {c : Char}
    (hc : hexDigit? c = some d) :
    step (s.go (.inEscape u left value)) c = s.readDigit u left value c := by
  have hreadable : ¬(c = '\r' ∨ c = '\x00') := by
    rintro (rfl | rfl) <;> cases hc
  rw [step, if_neg hreadable]
  cases hleft : left <;> simp [go, readDigit, hc]

/-- All digits but the last one add to the value. -/
theorem foldl_digits {u : Unfinished} {n : Nat} {front : List Char} (h : HexDigits n front)
    {left : Nat} (hlen : front.length ≤ left) :
    front.foldl step (s.go (.inEscape u left 0))
      = s.go (.inEscape u (left - front.length) n) := by
  induction h with
  | nil => rfl
  | @snoc n d front c _ hc ih =>
      rw [List.length_append, List.length_singleton] at hlen
      rw [List.foldl_append, ih (by omega), List.foldl_cons, List.foldl_nil, step_inEscape s hc,
        List.length_append, List.length_singleton]
      obtain ⟨k, hk⟩ := Nat.exists_eq_add_of_lt hlen
      rw [show left - front.length = k + 1 by omega, show left - (front.length + 1) = k by omega]
      simp only [readDigit, hc]

/-- The digits of a character are read as the character. -/
theorem foldl_hex {u : Unfinished} {c : Char} (left : Nat) (hc : c.toNat < 16 ^ (left + 1)) :
    (hex (left + 1) c.toNat).foldl step (s.go (.inEscape u left 0))
      = s.go (.inString { u with read := c :: u.read }) := by
  have hlen := length_hex (Nat.succ_pos left) hc
  have hdigits : HexDigits c.toNat (hex (left + 1) c.toNat) := hexDigits_toDigits _ _
  generalize hex (left + 1) c.toNat = digits at hlen hdigits
  generalize hn : c.toNat = n at hdigits
  cases hdigits with
  | nil => cases hlen
  | @snoc m d front last hfront hlast =>
      rw [List.length_append, List.length_singleton] at hlen
      have hvalid : (m * 16 + d).isValidChar := hn ▸ c.valid
      rw [List.foldl_append, foldl_digits s hfront (by omega), List.foldl_cons, List.foldl_nil,
        step_inEscape s hlast, show left - front.length = 0 by omega]
      simp only [readDigit, hlast, if_pos hvalid]
      rw [← hn, Char.ofNat_toNat]

theorem foldl_codePointEscape (u : Unfinished) (c : Char) :
    (codePointEscape c.toNat).foldl step (s.go (.inString u))
      = s.go (.inString { u with read := c :: u.read }) := by
  have hmax : c.toNat < 16 ^ 8 := by
    rcases c.valid with h | ⟨-, h⟩
    · exact Nat.lt_trans h (by decide)
    · exact Nat.lt_trans h (by decide)
  unfold codePointEscape
  split
  · rename_i h
    exact foldl_hex s 1 h
  · split
    · rename_i h
      exact foldl_hex s 3 h
    · exact foldl_hex s 7 hmax

-- ================================================================ strings

theorem start_go (mode : Mode) (c : Char) : (s.go mode).start c = s.start c := by
  unfold start
  split_ifs <;> rfl

theorem readString_go (mode : Mode) (u : Unfinished) (c : Char) :
    (s.go mode).readString u c = s.readString u c := by
  unfold readString
  split_ifs <;> rfl

theorem step_inString {u : Unfinished} {c : Char} (hreadable : ¬(c = '\r' ∨ c = '\x00')) :
    step (s.go (.inString u)) c = s.readString u c := by
  rw [step, if_neg hreadable]
  exact readString_go s _ u c

/-- Inside a string, what a character is quoted by is read as the character. -/
theorem foldl_quotedChar {u : Unfinished}
    (hquote : u.quote = apostrophe ∨ u.quote = doubleQuote) (c : Char) :
    (quotedChar u.quote isPrintable c).foldl step (s.go (.inString u))
      = s.go (.inString { u with read := c :: u.read }) := by
  unfold quotedChar
  split_ifs with hescaped hfeed hreturn htab hshown
  · have hchar : escape? c = some [c] := by
      rcases hescaped with rfl | rfl
      · rcases hquote with hquote | hquote <;> rw [hquote] <;> decide
      · decide
    have hreadable : ¬(c = '\r' ∨ c = '\x00') := by
      rintro (rfl | rfl) <;> cases hchar
    show step (s.go (.escaped u)) c = _
    rw [step, if_neg hreadable]
    simp only [go, readEscaped, hchar, List.cons_append, List.nil_append]
  · rw [hfeed]
    rfl
  · rw [hreturn]
    rfl
  · rw [htab]
    rfl
  · have hreadable : ¬(c = '\r' ∨ c = '\x00') := by
      rintro (rfl | rfl)
      · exact hreturn rfl
      · exact absurd hshown (by decide)
    have hplain : ¬(c = '\n' ∧ u.triple = false) := fun h => hfeed h.1
    show step (s.go (.inString u)) c = _
    rw [step_inString s hreadable, readString, if_neg fun h => hescaped (.inr h),
      if_neg fun h => hescaped (.inl h), if_neg hplain]
  · exact foldl_codePointEscape s u c

theorem foldl_quotedChars {u : Unfinished}
    (hquote : u.quote = apostrophe ∨ u.quote = doubleQuote) (cs : List Char) :
    (cs.flatMap (quotedChar u.quote isPrintable)).foldl step (s.go (.inString u))
      = s.go (.inString { u with read := cs.reverse ++ u.read }) := by
  induction cs generalizing u with
  | nil => rfl
  | cons c cs ih =>
      rw [List.flatMap_cons, List.foldl_append, foldl_quotedChar s hquote]
      have hrest := ih (u := { u with read := c :: u.read }) hquote
      rw [List.reverse_cons, List.append_assoc]
      exact hrest

/-- What a character is quoted by does not start with the quote. -/
theorem exists_quotedChar (quote : Char) (hquote : quote ≠ '\\') (c : Char) :
    ∃ x rest, quotedChar quote isPrintable c = x :: rest ∧ x ≠ quote := by
  unfold quotedChar
  split_ifs with hescaped
  · exact ⟨_, _, rfl, hquote.symm⟩
  · exact ⟨_, _, rfl, hquote.symm⟩
  · exact ⟨_, _, rfl, hquote.symm⟩
  · exact ⟨_, _, rfl, hquote.symm⟩
  · exact ⟨_, _, rfl, fun h => hescaped (.inl h)⟩
  · unfold codePointEscape
    split_ifs <;> exact ⟨_, _, rfl, hquote.symm⟩

/-- A string that is not empty is seen to be in one quote by its first character. -/
theorem step_opening {quote x : Char} (hx : x ≠ quote) :
    step (s.go (.opening quote false)) x = step (s.go (.inString { quote })) x := by
  by_cases hreadable : x = '\r' ∨ x = '\x00'
  · rw [step, step, if_pos hreadable, if_pos hreadable]
    rfl
  · rw [step_inString s hreadable, step, if_neg hreadable]
    show (if x = quote then _ else (s.go (.opening quote false)).readString { quote } x) = _
    rw [if_neg hx, readString_go]

/-- A quoted text is read as the text, whatever comes after it but another quote. -/
theorem foldl_quoted (cs : List Char) {after : Char}
    (hquotes : after ≠ apostrophe ∧ after ≠ doubleQuote)
    (hafter : ¬(after = '\r' ∨ after = '\x00')) :
    (quotedChars isPrintable cs ++ [after]).foldl step (s.go .between)
      = (s.push (.string (String.ofList cs))).start after := by
  obtain ⟨quote, hquote, heq⟩ : ∃ quote, (quote = apostrophe ∨ quote = doubleQuote)
      ∧ quotedChars isPrintable cs
        = quote :: (cs.flatMap (quotedChar quote isPrintable) ++ [quote]) := by
    refine ⟨_, ?_, rfl⟩
    unfold Text.quoteFor
    split_ifs
    · exact .inr rfl
    · exact .inl rfl
  have hback : quote ≠ '\\' := by
    rcases hquote with rfl | rfl <;> decide
  have hne : after ≠ quote := by
    rcases hquote with rfl | rfl
    · exact hquotes.1
    · exact hquotes.2
  have hopen : step (s.go .between) quote = s.go (.opening quote false) := by
    rcases hquote with rfl | rfl <;> rfl
  rw [heq, List.cons_append, List.foldl_cons, hopen]
  cases cs with
  | nil =>
      have hsecond : step (s.go (.opening quote false)) quote = s.go (.opening quote true) := by
        rcases hquote with rfl | rfl <;> rfl
      show step (step (s.go (.opening quote false)) quote) after = _
      rw [hsecond, step, if_neg hafter]
      show (if after = quote then _
        else ((s.go (.opening quote true)).push (.string "")).start after) = _
      rw [if_neg hne]
      exact start_go (s.push (.string "")) _ after
  | cons c cs =>
      obtain ⟨x, rest, hx, hxne⟩ := exists_quotedChar quote hback c
      have hinside : ((c :: cs).flatMap (quotedChar quote isPrintable)).foldl step
          (s.go (.opening quote false))
          = s.go (.inString { quote, read := (c :: cs).reverse }) := by
        have hread := foldl_quotedChars s (u := { quote }) hquote (c :: cs)
        rw [List.append_nil] at hread
        rw [← hread, List.flatMap_cons, hx, List.cons_append, List.foldl_cons, List.foldl_cons,
          step_opening s hxne]
      have hclose : step (s.go (.inString { quote, read := (c :: cs).reverse })) quote
          = (s.push (.string (String.ofList (c :: cs)))).go .between := by
        have hreadable : ¬(quote = '\r' ∨ quote = '\x00') := by
          rcases hquote with rfl | rfl <;> decide
        rw [step_inString s hreadable, readString, if_neg hback, if_pos rfl,
          if_neg Bool.false_ne_true, textOf, List.reverse_reverse]
      rw [List.append_assoc, List.foldl_append, hinside, List.cons_append, List.foldl_cons, hclose,
        List.nil_append, List.foldl_cons, List.foldl_nil, step, if_neg hafter]
      exact start_go _ _ after

-- ================================================================== words

variable {s}

theorem step_inWord {c : Char} (hc : isWordChar c) (read : List Char) :
    step (s.go (.inWord read)) c = s.go (.inWord (c :: read)) := by
  have hreadable : ¬(c = '\r' ∨ c = '\x00') := by
    rintro (rfl | rfl) <;> exact absurd hc (by decide)
  rw [step, if_neg hreadable]
  exact if_pos hc

theorem foldl_word {cs : List Char} (hcs : ∀ c ∈ cs, isWordChar c) (read : List Char) :
    cs.foldl step (s.go (.inWord read)) = s.go (.inWord (cs.reverse ++ read)) := by
  induction cs generalizing read with
  | nil => rfl
  | cons c cs ih =>
      rw [List.foldl_cons, step_inWord (hcs c (.head _)), ih fun d hd => hcs d (.tail _ hd),
        List.reverse_cons, List.append_assoc]
      rfl

/-- A word at the front of a line. -/
theorem step_line {c : Char} (hc : isWordChar c) :
    step {} c = (({} : Lexer).push (.line "")).go (.inWord [c]) := by
  have hne {d : Char} (hd : isWordChar d = false) : c ≠ d := by
    rintro rfl
    rw [hc] at hd
    cases hd
  have hreadable : ¬(c = '\r' ∨ c = '\x00') := not_or.2 ⟨hne (by decide), hne (by decide)⟩
  have hblank : ¬(c = ' ' ∨ c = '\t') := not_or.2 ⟨hne (by decide), hne (by decide)⟩
  have hquote : ¬(c = apostrophe ∨ c = doubleQuote) := not_or.2 ⟨hne (by decide), hne (by decide)⟩
  have hend : c ≠ '\n' := hne (by decide)
  have hcomment : c ≠ '#' := hne (by decide)
  simp [step, start, hreadable, hblank, hquote, hend, hcomment, hc, textOf]

theorem foldl_equals (read : List Char) :
    " = ".toList.foldl step (s.go (.inWord read))
      = ((s.push (.word (textOf read))).push (.symbol '=')).go .between := by
  have hchars : " = ".toList = [' ', '=', ' '] := String.toList_ofList
  rw [hchars]
  rfl

end Lexer

-- =============================================================== assignments

/-- A name that a module can give a meaning to is a word. -/
theorem exists_of_isFree {name : String} (h : isFree name) :
    ∃ c cs, name.toList = c :: cs ∧ ∀ d ∈ c :: cs, Lexer.isWordChar d := by
  simp only [isFree, Expressions.isName, Bool.and_eq_true, List.all_eq_true] at h
  obtain ⟨⟨⟨hall, hhead⟩, -⟩, -⟩ := h
  cases hname : name.toList with
  | nil =>
      rw [hname] at hhead
      cases hhead
  | cons c cs =>
      refine ⟨c, cs, rfl, fun d hd => ?_⟩
      have hd := hall d (hname ▸ hd)
      simp only [Lexer.isWordChar, hd, Bool.true_or]

/-- The tokens of an assignment. -/
theorem tokens?_assign {name : String} (hname : isFree name) (text : String) :
    tokens? (name ++ " = " ++ Text.quoted text)
      = some [.line "", .word name, .symbol '=', .string text] := by
  obtain ⟨c, cs, hchars, hword⟩ := exists_of_isFree hname
  let line : Lexer := ({} : Lexer).push (.line "")
  have hword : name.toList.foldl Lexer.step {} = line.go (.inWord name.toList.reverse) := by
    rw [hchars, List.foldl_cons, Lexer.step_line (hword c (.head _)),
      Lexer.foldl_word fun d hd => hword d (.tail _ hd), List.reverse_cons]
  have hname : Lexer.textOf name.toList.reverse = name := by
    rw [Lexer.textOf, List.reverse_reverse, String.ofList_toList]
  have htarget : (name.toList ++ " = ".toList).foldl Lexer.step {}
      = ((line.push (.word name)).push (.symbol '=')).go .between := by
    rw [List.foldl_append, hword, Lexer.foldl_equals, hname]
  have hvalue := Lexer.foldl_quoted ((line.push (.word name)).push (.symbol '=')) text.toList
    (by decide : '\n' ≠ apostrophe ∧ '\n' ≠ doubleQuote) (by decide)
  have hliteral : (Text.quoted text).toList = quotedChars isPrintable text.toList :=
    String.toList_ofList
  rw [tokens?, String.toList_append, String.toList_append, hliteral, List.append_assoc,
    List.foldl_append, htarget, hvalue, String.ofList_toList]
  rfl

/-- A module that assigns a quoted text to a name sets the name to the text. -/
theorem actions_assign {name : String} (hname : isFree name) (text : String) :
    actions (name ++ " = " ++ Text.quoted text) = [.set name fun _ => .ok (.str text)] := by
  have hstatement : statement? [.word name, .symbol '=', .string text]
      = some (.assign name (.constant (.str text))) := by
    simp [statement?, hname, Expressions.read?, Expressions.step, Expressions.Level.put]
  rw [actions, tokens?_assign hname]
  simp [lines, blocks?, aligned?, statements?, hstatement, description, perform, Expr.eval]

end ModuleText

-- =================================================================== targets

namespace Library

variable {α β : Type}

theorem get_bind (f : Library → LoadM α) (lib : Library) : (get >>= f) lib = f lib lib := rfl

theorem ofExcept_bind (a : α) (f : α → LoadM β) (lib : Library) :
    (ofExcept (.ok a) >>= f) lib = f a lib := rfl

theorem bind_of_ok {m : LoadM α} {lib after : Library} {a : α} (h : m lib = .ok a after)
    (f : α → LoadM β) : (m >>= f) lib = f a after := by
  show EStateM.bind m f lib = _
  rw [EStateM.bind, h]

/-- A module that sets one variable has it afterwards. -/
theorem runModule_set (info : ModuleInfo) (name : String) (value : Node) (lib : Library) :
    ∃ after, runModule info [.set name fun _ => .ok value] lib = .ok () after
      ∧ ∃ m, after.loaded.lookup info.name = some m ∧ m.bindings.get? name = some value := by
  refine ⟨_, rfl, _, lookup_putNamed_self _ _ _, ?_⟩
  rw [Bindings.get?, List.reverse_append]
  exact List.lookup_cons_self

/-- A target in a file that assigns a quoted text to its variable has the text as its value. -/
theorem load_literal {lib : Library} (hhost : lib.host.interpret = ModuleText.actions)
    {spec : String} {target : Target} (htarget : Target.parse lib.files spec = .ok target)
    (hname : ModuleText.isFree target.variableName) {path : Path}
    (hfile : target.place = .file path) (hsuffix : Target.endsIn Target.suffix path.text)
    {place : List String} (hplace : lib.files.find? path = .ok (some place)) (text : String)
    (hcontent : lib.files.get? place
      = some (.text (target.variableName ++ " = " ++ Text.quoted text))) :
    ∃ after, load spec lib = .ok (target, .str text) after := by
  have hactions : Content.actions lib.host
      (.text (target.variableName ++ " = " ++ Text.quoted text))
      = [.set target.variableName fun _ => .ok (.str text)] := by
    rw [Content.actions, hhost, ModuleText.actions_assign hname]
  let info : ModuleInfo :=
    { name := target.moduleName
      file := some place
      portions := if path.name = Target.initFile then some [place.dropLast] else none }
  obtain ⟨after, hrun, m, hmodule, hvalue⟩ :=
    runModule_set info target.variableName (.str text) lib
  have hfileRun : runFile path target.moduleName lib = .ok () after := by
    rw [runFile, get_bind, hplace, Except.mapError, ofExcept_bind]
    simp only [hsuffix, hcontent, hactions]
    exact hrun
  have hget : variableOf target after = .ok (.str text) after := by
    rw [variableOf, get_bind, hmodule]
    simp only [Option.map_some, Option.getD_some, hvalue]
    rfl
  refine ⟨after, ?_⟩
  rw [load, get_bind, htarget, Except.mapError, ofExcept_bind]
  simp only [hfile]
  rw [bind_of_ok hfileRun, bind_of_ok hget]
  rfl

end Library

end FormScript
