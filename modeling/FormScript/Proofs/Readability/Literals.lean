/-
String literals, and how they are read. A literal stands between double
quotes; inside, a quote is written with a backslash before it, and a
backslash is written as it is.

# Telling literals apart

Seen from its end, the inside of a literal has one reading: whatever a
character is written as ends in that character. So no two strings have the
same literal (`scriptChars_inj`), though a backslash of the string and one
that was put before a quote look alike.

# Reading a literal

`readLiteral` is a reader of script: a backslash takes the next character
as it is, and the first other quote closes the literal. So it gives back
every string without a backslash, and stops at the end of its literal
(`scan_written`). It gives back no other string: for a quote or a backslash
that it returns it has gone through two characters (`length_of_scan`), and a
backslash was written as one.
-/
import FormScript.Proofs.Emission
import Mathlib.Data.List.Induction

namespace FormScript

-- =============================================================== writing

@[simp] theorem scriptChar_quote :
    scriptChar Text.doubleQuote = ['\\', Text.doubleQuote] :=
  if_pos rfl

theorem scriptChar_of_ne {c : Char} (h : c ≠ Text.doubleQuote) : scriptChar c = [c] :=
  if_neg h

theorem scriptString_toList (s : String) :
    (scriptString s).toList
      = Text.doubleQuote :: (s.toList.flatMap scriptChar ++ [Text.doubleQuote]) := by
  simp [scriptString, Text.doubleQuote]

/-- Whatever a character is written as ends in the character. -/
theorem scriptChar_ends (c : Char) : ∃ front, scriptChar c = front ++ [c] := by
  by_cases h : c = Text.doubleQuote
  · exact ⟨['\\'], by rw [h, scriptChar_quote]; rfl⟩
  · exact ⟨[], scriptChar_of_ne h⟩

/-- No two strings are written alike. -/
theorem scriptChars_inj {s t : List Char}
    (h : s.flatMap scriptChar = t.flatMap scriptChar) : s = t := by
  -- a string that ends in a character is not written as nothing
  have nonempty (s : List Char) (c : Char) : (s ++ [c]).flatMap scriptChar ≠ [] := by
    obtain ⟨front, hc⟩ := scriptChar_ends c
    simp [hc]
  induction s using List.reverseRecOn generalizing t with
  | nil =>
      cases t using List.reverseRecOn with
      | nil => rfl
      | append_singleton t d _ => exact absurd h.symm (nonempty t d)
  | append_singleton s c ih =>
      cases t using List.reverseRecOn with
      | nil => exact absurd h (nonempty s c)
      | append_singleton t d _ =>
          rw [List.flatMap_append, List.flatMap_append, List.flatMap_singleton,
            List.flatMap_singleton] at h
          have hcd : c = d := by
            obtain ⟨front, hc⟩ := scriptChar_ends c
            obtain ⟨front', hd⟩ := scriptChar_ends d
            rw [hc, hd, ← List.append_assoc, ← List.append_assoc] at h
            exact List.singleton_inj.1 (List.append_inj_right' h rfl)
          subst hcd
          rw [ih (List.append_cancel_right h)]

theorem length_written (s : List Char) :
    (s.flatMap scriptChar).length = s.length + s.count Text.doubleQuote := by
  induction s with
  | nil => rfl
  | cons c s ih =>
      rw [List.flatMap_cons, List.length_append, ih, List.length_cons, List.count_cons]
      by_cases h : c = Text.doubleQuote
      · rw [h, scriptChar_quote, if_pos (beq_self_eq_true _)]
        simp only [List.length_cons, List.length_nil]
        omega
      · rw [scriptChar_of_ne h, if_neg (by simpa using h), List.length_singleton]
        omega

-- =============================================================== reading

/-- The rest of the inside of a literal, and what comes after its closing
quote, if there is one. The character after a backslash is `escaped`. -/
def scanLiteral : (escaped : Bool) → List Char → Option (List Char × List Char)
  | _, [] => none
  | true, c :: cs => (scanLiteral false cs).map (Prod.map (c :: ·) id)
  | false, c :: cs =>
    if c = '\\' then scanLiteral true cs
    else if c = Text.doubleQuote then some ([], cs)
    else (scanLiteral false cs).map (Prod.map (c :: ·) id)

/-- The string that a literal at the front of a text stands for, and the
text after the literal. -/
def readLiteral : List Char → Option (List Char × List Char)
  | [] => none
  | c :: cs => if c = Text.doubleQuote then scanLiteral false cs else none

/-- A string without backslashes is read as it was written, up to its own
closing quote, whatever comes after it. -/
theorem scan_written {s : List Char} (h : '\\' ∉ s) (rest : List Char) :
    scanLiteral false (s.flatMap scriptChar ++ Text.doubleQuote :: rest) = some (s, rest) := by
  induction s with
  | nil => rfl
  | cons c s ih =>
      have hrest := ih fun hmem => h (.tail _ hmem)
      rw [List.flatMap_cons, List.append_assoc]
      by_cases hquote : c = Text.doubleQuote
      · -- the backslash leaves the reader in the state in which the quote is taken
        subst hquote
        show (scanLiteral false (s.flatMap scriptChar ++ Text.doubleQuote :: rest)).map
          (Prod.map (Text.doubleQuote :: ·) id) = _
        rw [hrest]
        rfl
      · have hslash : c ≠ '\\' := by
          rintro rfl
          exact h (.head _)
        rw [scriptChar_of_ne hquote, List.singleton_append, scanLiteral, if_neg hslash,
          if_neg hquote, hrest]
        rfl

/-- The characters that a reader goes through for a string at least: two for
a quote or a backslash, one for any other. -/
def literalLength (s : List Char) : Nat :=
  s.length + s.count Text.doubleQuote + s.count '\\'

theorem literalLength_cons_le (c : Char) (s : List Char) :
    literalLength (c :: s) ≤ literalLength s + 2 := by
  have hne : Text.doubleQuote ≠ '\\' := by decide
  simp only [literalLength, List.length_cons, List.count_cons, beq_iff_eq]
  by_cases h : c = Text.doubleQuote
  · rw [if_pos h, if_neg (h ▸ hne)]
    omega
  · rw [if_neg h]
    split <;> omega

theorem literalLength_cons_of_ne {c : Char} (hslash : c ≠ '\\') (hquote : c ≠ Text.doubleQuote)
    (s : List Char) : literalLength (c :: s) = literalLength s + 1 := by
  simp only [literalLength, List.length_cons, List.count_cons, beq_iff_eq, if_neg hslash,
    if_neg hquote]
  omega

/-- What has been read has been gone through, with the closing quote. The
backslash before an escaped character has been gone through before. -/
theorem length_of_scan {escaped : Bool} {cs s rest : List Char}
    (h : scanLiteral escaped cs = some (s, rest)) :
    literalLength s + 1 + rest.length ≤ cs.length + escaped.toNat := by
  induction cs generalizing escaped s with
  | nil => cases escaped <;> cases h
  | cons c cs ih =>
      have taken {s : List Char}
          (h : (scanLiteral false cs).map (Prod.map (c :: ·) id) = some (s, rest)) :
          ∃ s', s = c :: s' ∧ literalLength s' + 1 + rest.length ≤ cs.length := by
        obtain ⟨⟨s', rest'⟩, hscan, hpair⟩ := Option.map_eq_some_iff.1 h
        cases hpair
        exact ⟨s', rfl, ih hscan⟩
      cases escaped with
      | true =>
          obtain ⟨s', rfl, hlength⟩ := taken h
          have := literalLength_cons_le c s'
          simp only [List.length_cons, Bool.toNat_true]
          omega
      | false =>
          rw [scanLiteral] at h
          by_cases hslash : c = '\\'
          · rw [if_pos hslash] at h
            exact ih h
          · rw [if_neg hslash] at h
            by_cases hquote : c = Text.doubleQuote
            · rw [if_pos hquote] at h
              cases h
              simp only [literalLength, List.length_nil, List.count_nil, List.length_cons,
                Bool.toNat_false]
              omega
            · rw [if_neg hquote] at h
              obtain ⟨s', rfl, hlength⟩ := taken h
              rw [literalLength_cons_of_ne hslash hquote, List.length_cons, Bool.toNat_false]
              omega

/-- A literal is read as the string it was written for, up to its own end,
if and only if the string has no backslash. -/
theorem read_scriptString_iff (s : String) (rest : List Char) :
    readLiteral ((scriptString s).toList ++ rest) = some (s.toList, rest)
      ↔ '\\' ∉ s.toList := by
  have hread : readLiteral ((scriptString s).toList ++ rest)
      = scanLiteral false (s.toList.flatMap scriptChar ++ Text.doubleQuote :: rest) := by
    rw [scriptString_toList, List.cons_append, List.append_assoc, readLiteral, if_pos rfl,
      List.singleton_append]
  rw [hread]
  constructor
  · intro h hmem
    have hlength := length_of_scan h
    have hcount := List.count_pos_iff.2 hmem
    rw [List.length_append, length_written, List.length_cons, Bool.toNat_false,
      literalLength] at hlength
    omega
  · exact fun h => scan_written h rest

-- ============================================================== emission

namespace Emitter

/-- A string is written as its literal, whatever the settings and the forms,
and nothing else changes. -/
theorem emit_str (e : Emitter) (s : String) (r : Run) :
    e.emit (.str s) r = .ok (scriptString s) r := by
  have hplain : e.forms.customCall? (.str s) = none := rfl
  rw [emit, e.emitAt_of_not_custom hplain]
  rfl

/-- String literals are delimited and injective. Every string is written, and
its text is the text of no other string, whoever writes that one. Followed by
any text, it is read as this string, with exactly the text that follows left,
if and only if the string has no backslash. -/
theorem emit_string_literal (e : Emitter) (s : String) (r : Run) :
    ∃ text, e.emit (.str s) r = .ok text r
      ∧ (∀ (e' : Emitter) (t : String) (r' u : Run),
          e'.emit (.str t) r' = .ok text u → s = t)
      ∧ ∀ rest, '\\' ∉ s.toList
          ↔ readLiteral (text.toList ++ rest) = some (s.toList, rest) := by
  refine ⟨scriptString s, e.emit_str s r, ?_, fun rest => (read_scriptString_iff s rest).symm⟩
  intro e' t r' u h
  rw [e'.emit_str] at h
  injection h with htext
  have hchars := congrArg String.toList htext
  rw [scriptString_toList, scriptString_toList] at hchars
  injection hchars with _ hinside
  exact (String.toList_inj.1 (scriptChars_inj (List.append_cancel_right hinside))).symm

/-- A string with quotes is read up to its own end, although what follows
starts with a quote. The literal of a single backslash is no other string's,
but it is not read back: its closing quote is taken for an escaped one. -/
theorem quotedWords_literal :
    readLiteral ("\"say \\\"hi\\\"\"".toList ++ "\" + x".toList)
        = some ("say \"hi\"".toList, "\" + x".toList)
      ∧ readLiteral ("\"\\\"".toList ++ "\" + x".toList) ≠ some ("\\".toList, "\" + x".toList)
      ∧ ∀ t : String, ({} : Emitter).emit (.str t) {} = .ok "\"\\\"" {} → "\\" = t := by
  obtain ⟨words, hwords, -, hread⟩ := emit_string_literal {} "say \"hi\"" {}
  obtain ⟨slash, hslash, hunique, hunread⟩ := emit_string_literal {} "\\" {}
  rw [emit_str] at hwords hslash
  injection hwords with hwords
  injection hslash with hslash
  have hwords' : words = "\"say \\\"hi\\\"\"" := hwords.symm.trans (by decide)
  have hslash' : slash = "\"\\\"" := hslash.symm.trans (by decide)
  rw [hwords'] at hread
  rw [hslash'] at hunique hunread
  refine ⟨(hread _).1 (by decide), fun h => (hunread _).2 h (by decide), fun t ht => ?_⟩
  exact hunique {} t {} {} ht

end Emitter

end FormScript
