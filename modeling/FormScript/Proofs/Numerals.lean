/-
Whole numbers as they may be written. `Numeral` is the grammar of digits and `Spells`
that of a whole text; both say which number is written, and neither mentions a reader.
Reading accepts exactly the texts of the grammar that have at most `maxDigits` digits, and
gives the number that they spell (`readInteger?_eq_some_iff`).

# The argument

The reader goes from left to right and carries the value of the digits behind it, while
the grammar adds digits at the end. The two meet in one fact: digits that have been read
can be cut off, their value being carried on (`readDigits_append`).

White space is trimmed before anything is read. A spelled number has a digit at its end
and a digit or a sign in front, neither of which is white space, so trimming stops
exactly at the number (`SignedNumeral.trimBoth_eq`).
-/
import FormScript.Number.Reading
import FormScript.Number.Text
import Mathlib.Algebra.Order.Ring.Nat
import Mathlib.Data.List.TakeWhile

namespace FormScript

-- =============================================================== trimming

namespace Text

variable {p : Char → Bool} {cs : List Char}

/-- Whatever is trimmed off satisfies the predicate. -/
theorem exists_trimmed (p : Char → Bool) (cs : List Char) :
    ∃ before after, cs = before ++ trimBoth p cs ++ after
      ∧ (∀ c ∈ before, p c) ∧ ∀ c ∈ after, p c := by
  refine ⟨cs.takeWhile p, ((cs.dropWhile p).reverse.takeWhile p).reverse, ?_, ?_, ?_⟩
  · have hback : trimBoth p cs ++ ((cs.dropWhile p).reverse.takeWhile p).reverse
        = cs.dropWhile p := by
      rw [trimBoth, ← List.reverse_append, List.takeWhile_append_dropWhile, List.reverse_reverse]
    rw [List.append_assoc, hback, List.takeWhile_append_dropWhile]
  · intro c hc
    exact List.mem_takeWhile_imp hc
  · intro c hc
    exact List.mem_takeWhile_imp (List.mem_reverse.1 hc)

theorem trimBoth_eq_nil_iff : trimBoth p cs = [] ↔ ∀ c ∈ cs, p c := by
  constructor
  · intro h
    obtain ⟨before, after, hcs, hbefore, hafter⟩ := exists_trimmed p cs
    rw [hcs, h, List.append_nil]
    exact List.forall_mem_append.2 ⟨hbefore, hafter⟩
  · intro h
    rw [trimBoth, List.dropWhile_eq_nil_iff.2 h]
    rfl

/-- What is put around a text is trimmed off again. -/
theorem trimBoth_padded {before after : List Char} (hbefore : ∀ c ∈ before, p c)
    (hafter : ∀ c ∈ after, p c) : trimBoth p (before ++ cs ++ after) = trimBoth p cs := by
  have hreverse : ∀ c ∈ after.reverse, p c := fun c hc => hafter c (List.mem_reverse.1 hc)
  by_cases hcs : ∀ c ∈ cs, p c
  · rw [trimBoth_eq_nil_iff.2 hcs, trimBoth_eq_nil_iff]
    exact List.forall_mem_append.2 ⟨List.forall_mem_append.2 ⟨hbefore, hcs⟩, hafter⟩
  · have hrest : (cs.dropWhile p).isEmpty = false := by
      rw [Bool.eq_false_iff, ne_eq, List.isEmpty_iff, List.dropWhile_eq_nil_iff]
      exact hcs
    rw [trimBoth, List.append_assoc, List.dropWhile_append_of_pos hbefore, List.dropWhile_append,
      hrest, if_neg Bool.false_ne_true, List.reverse_append,
      List.dropWhile_append_of_pos hreverse]
    rfl

/-- Nothing is trimmed off a text whose first and last characters stay. -/
theorem trimBoth_eq_self (hfirst : ∀ c, cs.head? = some c → p c = false)
    (hlast : ∀ c, cs.getLast? = some c → p c = false) : trimBoth p cs = cs := by
  have stays {l : List Char} (h : ∀ c, l.head? = some c → p c = false) : l.dropWhile p = l := by
    cases l with
    | nil => rfl
    | cons c l => rw [List.dropWhile_cons, h c rfl, if_neg Bool.false_ne_true]
  rw [trimBoth, stays hfirst, stays, List.reverse_reverse]
  intro c hc
  rw [List.head?_reverse] at hc
  exact hlast c hc

end Text

-- ================================================================ grammar

/-- A natural number in decimal digits of any script, with single underscores between
some of them. -/
inductive Numeral : Nat → List Char → Prop where
  | digit {c : Char} {d : Nat} : Text.digitValue? c = some d → Numeral d [c]
  | next {n d : Nat} {cs : List Char} {c : Char} :
    Numeral n cs → Text.digitValue? c = some d → Numeral (n * 10 + d) (cs ++ [c])
  | apart {n d : Nat} {cs : List Char} {c : Char} :
    Numeral n cs → Text.digitValue? c = some d → Numeral (n * 10 + d) (cs ++ ['_', c])

/-- A whole number, with a sign or without one. -/
inductive SignedNumeral : Int → List Char → Prop where
  | bare {n : Nat} {cs : List Char} : Numeral n cs → SignedNumeral n cs
  | plus {n : Nat} {cs : List Char} : Numeral n cs → SignedNumeral n ('+' :: cs)
  | minus {n : Nat} {cs : List Char} : Numeral n cs → SignedNumeral (-n) ('-' :: cs)

/-- A text is a whole number with white space around it, where `blank` tells which
characters are white space. -/
def Spells (blank : Char → Prop) (text : String) (n : Int) : Prop :=
  ∃ before core after, text.toList = before ++ core ++ after
    ∧ (∀ c ∈ before, blank c) ∧ (∀ c ∈ after, blank c) ∧ SignedNumeral n core

/-- The white space that may stand around a number: a tab, a line feed, a vertical tab, a
form feed, a carriage return, a space, or any white space beyond the ASCII characters. -/
def IsPadding (c : Char) : Prop :=
  c ∈ ['\t', '\n', '\x0b', '\x0c', '\r', ' '] ∨ 127 < c.toNat ∧ Text.isBlank c

theorem isNumberBlank_iff {c : Char} : isNumberBlank c ↔ IsPadding c := by
  have hplain : Text.isPlainBlank c ↔ c ∈ ['\t', '\n', '\x0b', '\x0c', '\r', ' '] := by
    simp only [Text.isPlainBlank, Bool.or_eq_true, Bool.and_eq_true, decide_eq_true_eq,
      beq_iff_eq, List.mem_cons, List.not_mem_nil, or_false, ← Char.toNat_inj]
    show _ ↔ c.toNat = 9 ∨ c.toNat = 10 ∨ c.toNat = 11 ∨ c.toNat = 12 ∨ c.toNat = 13 ∨ c.toNat = 32
    omega
  simp only [isNumberBlank, Bool.or_eq_true, Bool.and_eq_true, decide_eq_true_eq]
  rw [hplain]
  rfl

-- ================================================================= digits

/-- No digit of any script lies among the white space. -/
theorem digits_apart_from_blanks :
    (Text.zeroDigits.all fun z => Text.blankRanges.all fun r => r.2 < z || z + 10 ≤ r.1)
      = true := by
  decide +kernel

theorem isBlank_of_digit {c : Char} {d : Nat} (h : Text.digitValue? c = some d) :
    Text.isBlank c = false := by
  obtain ⟨z, hz, -⟩ := Option.map_eq_some_iff.1 h
  have hmem := List.mem_of_find?_eq_some hz
  have hrange := List.find?_some hz
  simp only [Bool.and_eq_true, decide_eq_true_eq] at hrange
  rw [Text.isBlank, List.any_eq_false]
  intro r hr hblank
  have hapart := List.all_eq_true.1 (List.all_eq_true.1 digits_apart_from_blanks z hmem) r hr
  simp only [Bool.or_eq_true, Bool.and_eq_true, decide_eq_true_eq] at hapart hblank
  omega

theorem not_isPadding_of_digit {c : Char} {d : Nat} (h : Text.digitValue? c = some d) :
    ¬IsPadding c := by
  intro hpadding
  rcases hpadding with hplain | ⟨-, hblank⟩
  · have hblank : Text.isBlank c := by
      simp only [List.mem_cons, List.not_mem_nil, or_false] at hplain
      rcases hplain with rfl | rfl | rfl | rfl | rfl | rfl <;> decide
    rw [isBlank_of_digit h] at hblank
    cases hblank
  · rw [isBlank_of_digit h] at hblank
    cases hblank

theorem underscore_of_digit {c : Char} {d : Nat} (h : Text.digitValue? c = some d) : c ≠ '_' := by
  intro heq
  rw [heq] at h
  cases h

theorem readDigits_cons {c : Char} (h : c ≠ '_') (value : Nat) (rest : List Char) :
    readDigits value (c :: rest)
      = (Text.digitValue? c).bind fun d => readDigits (value * 10 + d) rest := by
  rw [readDigits]
  · rfl
  · intro d ds hc
    exact absurd hc h

theorem readDigits_underscore (value : Nat) (c : Char) (rest : List Char) :
    readDigits value ('_' :: c :: rest)
      = (Text.digitValue? c).bind fun d => readDigits (value * 10 + d) rest := rfl

/-- Digits that have been read leave nothing behind but their value. -/
theorem readDigits_append {value n : Nat} {cs : List Char} (h : readDigits value cs = some n)
    (rest : List Char) : readDigits value (cs ++ rest) = readDigits n rest := by
  fun_induction readDigits value cs with
  | case1 value =>
      cases h
      rfl
  | case2 value c cs ih =>
      obtain ⟨d, hd, hcs⟩ := Option.bind_eq_some_iff.1 h
      rw [List.cons_append, List.cons_append, readDigits_underscore, hd]
      exact ih d hcs
  | case3 value c cs hc ih =>
      obtain ⟨d, hd, hcs⟩ := Option.bind_eq_some_iff.1 h
      rw [List.cons_append, readDigits_cons (underscore_of_digit hd), hd]
      exact ih d hcs

/-- What is read behind a numeral makes a longer numeral. -/
theorem Numeral.of_readDigits {value n : Nat} {front rest : List Char}
    (hfront : Numeral value front)
    (h : readDigits value rest = some n) : Numeral n (front ++ rest) := by
  fun_induction readDigits value rest generalizing front with
  | case1 value =>
      cases h
      rw [List.append_nil]
      exact hfront
  | case2 value c rest ih =>
      obtain ⟨d, hd, hrest⟩ := Option.bind_eq_some_iff.1 h
      have hlonger := ih d (hfront.apart hd) hrest
      rw [List.append_assoc] at hlonger
      exact hlonger
  | case3 value c rest hc ih =>
      obtain ⟨d, hd, hrest⟩ := Option.bind_eq_some_iff.1 h
      have hlonger := ih d (hfront.next hd) hrest
      rw [List.append_assoc] at hlonger
      exact hlonger

theorem readNatural?_append {n : Nat} {cs : List Char} (h : readNatural? cs = some n)
    (rest : List Char) : readNatural? (cs ++ rest) = readDigits n rest := by
  cases cs with
  | nil => cases h
  | cons c cs =>
      obtain ⟨d, hd, hcs⟩ := Option.bind_eq_some_iff.1 h
      rw [List.cons_append, readNatural?, hd]
      exact readDigits_append hcs rest

/-- Digits are read exactly if they are a numeral, as the number of the numeral. -/
theorem readNatural?_eq_some_iff {n : Nat} {cs : List Char} :
    readNatural? cs = some n ↔ Numeral n cs := by
  constructor
  · intro h
    cases cs with
    | nil => cases h
    | cons c cs =>
        obtain ⟨d, hd, hcs⟩ := Option.bind_eq_some_iff.1 h
        exact (Numeral.digit hd).of_readDigits hcs
  · intro h
    induction h with
    | digit hd =>
        rw [readNatural?, hd]
        rfl
    | next _ hd ih =>
        rw [readNatural?_append ih, readDigits_cons (underscore_of_digit hd), hd]
        rfl
    | apart _ hd ih =>
        rw [readNatural?_append ih, readDigits_underscore, hd]
        rfl

-- ================================================================== signs

/-- A numeral starts with a digit. -/
theorem Numeral.exists_head {n : Nat} {cs : List Char} (h : Numeral n cs) :
    ∃ c d, cs.head? = some c ∧ Text.digitValue? c = some d := by
  induction h with
  | digit hd => exact ⟨_, _, rfl, hd⟩
  | next _ _ ih =>
      obtain ⟨c, d, hc, hd⟩ := ih
      exact ⟨c, d, by rw [List.head?_append, hc]; rfl, hd⟩
  | apart _ _ ih =>
      obtain ⟨c, d, hc, hd⟩ := ih
      exact ⟨c, d, by rw [List.head?_append, hc]; rfl, hd⟩

/-- A numeral ends with a digit. -/
theorem Numeral.exists_last {n : Nat} {cs : List Char} (h : Numeral n cs) :
    ∃ c d, cs.getLast? = some c ∧ Text.digitValue? c = some d := by
  cases h with
  | digit hd => exact ⟨_, _, rfl, hd⟩
  | next _ hd => exact ⟨_, _, by simp, hd⟩
  | apart _ hd => exact ⟨_, _, by simp, hd⟩

/-- A sign is no digit, so it is taken for one only where a number has it. -/
theorem readSigned?_eq_some_iff {n : Int} {cs : List Char} :
    readSigned? cs = some n ↔ SignedNumeral n cs := by
  constructor
  · intro h
    unfold readSigned? at h
    split at h
    · obtain ⟨k, hk, rfl⟩ := Option.map_eq_some_iff.1 h
      obtain ⟨m, hm, hmk⟩ := Option.bind_eq_some_iff.1 hk
      cases hmk
      exact .minus (readNatural?_eq_some_iff.1 hm)
    · obtain ⟨k, hk, rfl⟩ := Option.map_eq_some_iff.1 h
      obtain ⟨m, hm, hmk⟩ := Option.bind_eq_some_iff.1 hk
      cases hmk
      exact .plus (readNatural?_eq_some_iff.1 hm)
    · obtain ⟨k, hk, rfl⟩ := Option.map_eq_some_iff.1 h
      obtain ⟨m, hm, hmk⟩ := Option.bind_eq_some_iff.1 hk
      cases hmk
      exact .bare (readNatural?_eq_some_iff.1 hm)
  · intro h
    cases h with
    | bare hcs =>
        obtain ⟨c, d, hc, hd⟩ := hcs.exists_head
        have hread := readNatural?_eq_some_iff.2 hcs
        unfold readSigned?
        split
        · cases hc
          cases hd
        · cases hc
          cases hd
        · rw [hread]
          rfl
    | plus hcs =>
        rw [readSigned?, readNatural?_eq_some_iff.2 hcs]
        rfl
    | minus hcs =>
        rw [readSigned?, readNatural?_eq_some_iff.2 hcs]
        rfl

theorem SignedNumeral.exists_last {n : Int} {cs : List Char} (h : SignedNumeral n cs) :
    ∃ c d, cs.getLast? = some c ∧ Text.digitValue? c = some d := by
  have behind {m : Nat} {ds : List Char} (sign : Char) (hds : Numeral m ds) :
      ∃ c d, (sign :: ds).getLast? = some c ∧ Text.digitValue? c = some d := by
    obtain ⟨c, d, hc, hd⟩ := hds.exists_last
    exact ⟨c, d, by rw [List.getLast?_cons, hc]; rfl, hd⟩
  cases h with
  | bare hcs => exact hcs.exists_last
  | plus hcs => exact behind '+' hcs
  | minus hcs => exact behind '-' hcs

theorem SignedNumeral.not_isPadding_head {n : Int} {cs : List Char} (h : SignedNumeral n cs)
    {c : Char}
    (hc : cs.head? = some c) : ¬IsPadding c := by
  cases h with
  | bare hcs =>
      obtain ⟨c', d, hc', hd⟩ := hcs.exists_head
      rw [hc] at hc'
      cases hc'
      exact not_isPadding_of_digit hd
  | plus hcs =>
      cases hc
      simp [← isNumberBlank_iff, isNumberBlank, Text.isPlainBlank]
  | minus hcs =>
      cases hc
      simp [← isNumberBlank_iff, isNumberBlank, Text.isPlainBlank]

/-- Trimming stops at a number. -/
theorem SignedNumeral.trimBoth_eq {n : Int} {cs : List Char} (h : SignedNumeral n cs) :
    Text.trimBoth isNumberBlank cs = cs := by
  have stays {c : Char} (hc : ¬IsPadding c) : isNumberBlank c = false :=
    Bool.eq_false_iff.2 (mt isNumberBlank_iff.1 hc)
  apply Text.trimBoth_eq_self
  · intro c hc
    exact stays (h.not_isPadding_head hc)
  · intro c hc
    obtain ⟨c', d, hc', hd⟩ := h.exists_last
    rw [hc] at hc'
    cases hc'
    exact stays (not_isPadding_of_digit hd)

-- ================================================================== texts

theorem readSigned?_trimmed_iff {text : String} {n : Int} :
    readSigned? (Text.trimBoth isNumberBlank text.toList) = some n ↔ Spells IsPadding text n := by
  rw [readSigned?_eq_some_iff]
  constructor
  · intro h
    obtain ⟨before, after, htext, hbefore, hafter⟩ := Text.exists_trimmed isNumberBlank text.toList
    exact ⟨before, _, after, htext, fun c hc => isNumberBlank_iff.1 (hbefore c hc),
      fun c hc => isNumberBlank_iff.1 (hafter c hc), h⟩
  · intro h
    obtain ⟨before, core, after, htext, hbefore, hafter, hcore⟩ := h
    rw [htext, Text.trimBoth_padded (fun c hc => isNumberBlank_iff.2 (hbefore c hc))
      (fun c hc => isNumberBlank_iff.2 (hafter c hc)), hcore.trimBoth_eq]
    exact hcore

/-- A text that spells a number, in no more digits than are read. -/
structure Legible (text : String) (n : Int) : Prop where
  spells : Spells IsPadding text n
  short : digitCount text.toList ≤ maxDigits

/-- A text is read as a whole number exactly if it spells the number and is not too long. -/
theorem readInteger?_eq_some_iff {text : String} {n : Int} :
    readInteger? text = some n ↔ Legible text n := by
  unfold readInteger?
  by_cases hshort : digitCount text.toList ≤ maxDigits
  · rw [if_pos hshort, readSigned?_trimmed_iff]
    exact ⟨fun h => ⟨h, hshort⟩, Legible.spells⟩
  · rw [if_neg hshort]
    constructor
    · intro h
      cases h
    · intro h
      exact absurd h.short hshort

-- ========================================================== decimal texts

theorem digitValue?_digitChar : ∀ d < 10, Text.digitValue? (Nat.digitChar d) = some d := by decide

/-- The digits of a number are a numeral for it. -/
theorem numeral_toDigits (n : Nat) : Numeral n (Nat.toDigits 10 n) := by
  have hdigit := digitValue?_digitChar
  induction n using Nat.strong_induction_on with
  | _ n ih =>
      rw [Nat.toDigits_eq_if (by decide)]
      by_cases hn : n < 10
      · rw [if_pos hn]
        exact .digit (hdigit n hn)
      · rw [if_neg hn]
        have hvalue : n / 10 * 10 + n % 10 = n := by omega
        have hlonger := (ih (n / 10) (by omega)).next (hdigit (n % 10) (by omega))
        rw [hvalue] at hlonger
        exact hlonger

/-- The decimal text of a number spells it. -/
theorem signedNumeral_intText (n : Int) : SignedNumeral n (intText n).toList := by
  have hdigits := numeral_toDigits n.natAbs
  unfold intText
  by_cases hn : n < 0
  · have hvalue : -(n.natAbs : Int) = n := by omega
    have hsigned := SignedNumeral.minus hdigits
    rw [hvalue] at hsigned
    rw [if_pos hn, String.toList_append, String.toList_ofList, String.toList_ofList]
    exact hsigned
  · have hvalue : (n.natAbs : Int) = n := by omega
    have hsigned := SignedNumeral.bare hdigits
    rw [hvalue] at hsigned
    rw [if_neg hn, String.toList_ofList]
    exact hsigned

theorem digitCount_append (cs ds : List Char) :
    digitCount (cs ++ ds) = digitCount cs + digitCount ds :=
  List.countP_append

/-- There is no digit in the white space around a number. -/
theorem digitCount_of_padding {cs : List Char} (h : ∀ c ∈ cs, IsPadding c) : digitCount cs = 0 := by
  refine List.countP_eq_zero.2 fun c hc hdigit => ?_
  obtain ⟨d, hd⟩ := Option.isSome_iff_exists.1 hdigit
  exact not_isPadding_of_digit hd (h c hc)

theorem digitCount_toDigits (n : Nat) :
    digitCount (Nat.toDigits 10 n) = (Nat.toDigits 10 n).length := by
  have hsome {d : Nat} (hd : d < 10) : (Text.digitValue? (Nat.digitChar d)).isSome := by
    rw [digitValue?_digitChar d hd]
    rfl
  refine List.countP_eq_length.2 ?_
  induction n using Nat.strong_induction_on with
  | _ n ih =>
      intro c hc
      rw [Nat.toDigits_eq_if (by decide)] at hc
      by_cases hn : n < 10
      · rw [if_pos hn, List.mem_singleton] at hc
        exact hc ▸ hsome hn
      · rw [if_neg hn, List.mem_append, List.mem_singleton] at hc
        rcases hc with hc | rfl
        · exact ih (n / 10) (by omega) c hc
        · exact hsome (Nat.mod_lt n (by decide))

/-- The sign of a number is not counted among its digits. -/
theorem digitCount_intText (n : Int) :
    digitCount (intText n).toList = (Nat.toDigits 10 n.natAbs).length := by
  unfold intText
  by_cases hn : n < 0
  · have hsign : digitCount "-".toList = 0 := by decide
    rw [if_pos hn, String.toList_append, digitCount_append, hsign, String.toList_ofList,
      digitCount_toDigits, Nat.zero_add]
  · rw [if_neg hn, String.toList_ofList, digitCount_toDigits]

/-- A decimal text is short enough to be read exactly if its number is small enough. -/
theorem digitCount_intText_le_iff {n : Int} :
    digitCount (intText n).toList ≤ maxDigits ↔ n.natAbs < 10 ^ maxDigits := by
  rw [digitCount_intText]
  exact Nat.length_toDigits_le_iff (by decide) (by decide)

theorem spells_padded (n : Int) {before after : String}
    (hbefore : ∀ c ∈ before.toList, IsPadding c) (hafter : ∀ c ∈ after.toList, IsPadding c) :
    Spells IsPadding (before ++ intText n ++ after) n := by
  refine ⟨before.toList, (intText n).toList, after.toList, ?_, hbefore, hafter,
    signedNumeral_intText n⟩
  rw [String.toList_append, String.toList_append]

/-- The decimal text of a number, with white space around it, is read exactly if the number
is small enough. -/
theorem legible_padded_iff {n : Int} {before after : String}
    (hbefore : ∀ c ∈ before.toList, IsPadding c) (hafter : ∀ c ∈ after.toList, IsPadding c) :
    Legible (before ++ intText n ++ after) n ↔ n.natAbs < 10 ^ maxDigits := by
  have hcount : digitCount (before ++ intText n ++ after).toList
      = digitCount (intText n).toList := by
    rw [String.toList_append, String.toList_append, digitCount_append, digitCount_append,
      digitCount_of_padding hbefore, digitCount_of_padding hafter, Nat.zero_add, Nat.add_zero]
  rw [← digitCount_intText_le_iff, ← hcount]
  exact ⟨Legible.short, fun hshort => ⟨spells_padded n hbefore hafter, hshort⟩⟩

end FormScript
