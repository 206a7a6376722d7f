/-
Tokens of emitted texts: words, numbers and string literals as lists of
characters. A word and a number are runs of characters of one class, so
each ends where its class does; a string literal ends at its first quote
that no backslash escapes. `Delimited` says what may come after a token
or a larger expression inside another one.
-/
import FormScript.Proofs.PrefixCode
import FormScript.Proofs.Readability.Literals

namespace FormScript

open PrefixCode

-- ================================================================= words

/-- The characters that words are made of. -/
def isWordChar (c : Char) : Bool := isIdentifierPart c || c == '$'

theorem isWordChar_of_start {c : Char} (h : isIdentifierStart c) :
    isWordChar c := by
  simp only [isIdentifierStart, Bool.or_eq_true, beq_iff_eq] at h
  rcases h with (h | rfl) | rfl
  · simp [isWordChar, isIdentifierPart, Char.isAlphanum, h]
  · decide
  · decide

/-- A valid identifier is a word. -/
theorem isWordChar_of_mem {name : String} (h : isIdentifier name) :
    ∀ c ∈ name.toList, isWordChar c := by
  unfold isIdentifier at h
  cases hcs : name.toList with
  | nil => simp
  | cons c cs =>
      rw [hcs] at h
      simp only [Bool.and_eq_true, List.all_eq_true] at h
      intro d hd
      rcases List.mem_cons.1 hd with rfl | hd
      · exact isWordChar_of_start h.1
      · simp [isWordChar, h.2 d hd]

-- ================================================================ numbers

/-- The characters that numbers are made of. -/
def isNumberChar (c : Char) : Bool := c.isDigit || c == '-'

theorem toDigits_ne_nil (n : Nat) : Nat.toDigits 10 n ≠ [] := by
  rw [Nat.toDigits_eq_if (by decide)]
  split <;> simp

theorem toDigits_inj {m n : Nat} (h : Nat.toDigits 10 m = Nat.toDigits 10 n) :
    m = n := by
  rw [← Nat.ofDigitChars_ten_toDigits (n := m), h,
    Nat.ofDigitChars_ten_toDigits]

/-- A number is a sign, if it is negative, and its digits. -/
theorem intText_toList (i : Int) :
    (intText i).toList
      = (if i < 0 then ['-'] else []) ++ Nat.toDigits 10 i.natAbs := by
  unfold intText
  split <;> simp

theorem isNumberChar_of_mem (i : Int) :
    ∀ c ∈ (intText i).toList, isNumberChar c := by
  intro c hc
  rw [intText_toList] at hc
  rcases List.mem_append.1 hc with hc | hc
  · split at hc
    · rw [List.mem_singleton.1 hc]
      rfl
    · cases hc
  · have hdigit := Nat.isDigit_of_mem_toDigits (by decide) (by decide) hc
    simp [isNumberChar, hdigit]

theorem intText_inj {i j : Int} (h : intText i = intText j) : i = j := by
  have sign_ne (k : Nat) (ds : List Char) : '-' :: ds ≠ Nat.toDigits 10 k := by
    intro hk
    have hmem : '-' ∈ Nat.toDigits 10 k := by
      rw [← hk]
      exact .head _
    have hdigit := Nat.isDigit_of_mem_toDigits (by decide) (by decide) hmem
    simp at hdigit
  have hlist := congrArg String.toList h
  rw [intText_toList, intText_toList] at hlist
  by_cases hi : i < 0
  · by_cases hj : j < 0
    · rw [if_pos hi, if_pos hj] at hlist
      injection hlist with _ habs
      have := toDigits_inj habs
      omega
    · rw [if_pos hi, if_neg hj] at hlist
      exact absurd hlist (sign_ne _ _)
  · by_cases hj : j < 0
    · rw [if_neg hi, if_pos hj] at hlist
      exact absurd hlist.symm (sign_ne _ _)
    · rw [if_neg hi, if_neg hj] at hlist
      have := toDigits_inj hlist
      omega

-- ================================================================ strings

/-- A string literal without backslashes ends at its first bare quote. -/
theorem literal_inj {s t u v : List Char} (hs : '\\' ∉ s) (ht : '\\' ∉ t)
    (h : s.flatMap scriptChar ++ Text.doubleQuote :: u
      = t.flatMap scriptChar ++ Text.doubleQuote :: v) : s = t ∧ u = v := by
  have hread := scan_written hs u
  rw [h, scan_written ht v] at hread
  cases hread
  exact ⟨rfl, rfl⟩

-- ============================================================= delimiters

/-- The characters that may come after an expression inside another. -/
def delimiters : List Char := [',', ':', ' ', ')', ']', '\x7d']

/-- What may come after an expression. -/
def Delimited (u : List Char) : Prop := ∀ c ∈ u.head?, c ∈ delimiters

/-- A delimiter ends every run of characters of a class without
delimiters. -/
theorem Delimited.stops {p : Char → Bool} (hp : delimiters.any p = false)
    {u : List Char} (h : Delimited u) : Stops p u := by
  intro c hc
  exact Bool.eq_false_iff.2 (List.any_eq_false.1 hp c (h c hc))

theorem delimited_cons {c : Char} (h : c ∈ delimiters) (u : List Char) :
    Delimited (c :: u) := by
  intro d hd
  cases hd
  exact h

theorem delimited_nil : Delimited [] := by
  intro c hc
  cases hc

theorem stops_word {u : List Char} (h : Delimited u) : Stops isWordChar u :=
  h.stops (by decide)

theorem stops_word_paren (u : List Char) : Stops isWordChar ('(' :: u) := by
  intro c hc
  cases hc
  decide

theorem not_delimited_paren {u : List Char} : ¬ Delimited ('(' :: u) := by
  intro h
  exact absurd (h '(' rfl) (by decide)

end FormScript
