/-
What the environment may hold. The text of the limit is a whole number of at most
`maxDigits` digits with white space around it, blank or absent; every other text is
refused, and nothing else is. The switch is read apart from the limit, and only its word
counts: neither the case of its letters nor the white space around it.

The two settings take different characters for white space. Whether a text is blank is
asked of all white space, while around a number the four information separators are not
white space: alone they leave the limit at its default, beside a digit they spoil it, and so
does a digit too many (`Config.limits_refused`).
-/
import FormScript.Config
import FormScript.Proofs.Numerals

namespace FormScript

namespace Text

/-- No visible ASCII character is white space. -/
theorem isBlank_of_visible {c : Char} (hlow : 32 < c.toNat) (hhigh : c.toNat < 127) :
    isBlank c = false := by
  simp only [isBlank, blankRanges, List.any_cons, List.any_nil, Bool.or_false, Bool.or_eq_false_iff,
    Bool.and_eq_false_iff, decide_eq_false_iff_not]
  omega

theorem isBlank_toLower (c : Char) : isBlank c.toLower = isBlank c := by
  unfold Char.toLower
  split
  · rename_i h
    have hlow : 65 ≤ c.toNat := UInt32.le_iff_toNat_le.1 h.1
    have hhigh : c.toNat ≤ 90 := UInt32.le_iff_toNat_le.1 h.2
    have hsmall : (c.val + 32).toNat = c.toNat + 32 := by
      rw [UInt32.toNat_add]
      show (c.toNat + 32) % _ = _
      omega
    rw [isBlank_of_visible (c := c) (by omega) (by omega)]
    apply isBlank_of_visible
    · show 32 < (c.val + 32).toNat
      omega
    · show (c.val + 32).toNat < 127
      omega
  · rfl

theorem strip_eq_empty_iff {text : String} : strip text = "" ↔ ∀ c ∈ text.toList, isBlank c := by
  rw [← trimBoth_eq_nil_iff, strip, String.ofList_eq_empty_iff]

/-- Small letters are blank where the others are, so letters may be made small first. -/
theorem map_toLower_trimBoth (cs : List Char) :
    (trimBoth isBlank cs).map Char.toLower = trimBoth isBlank (cs.map Char.toLower) := by
  have hblank : isBlank ∘ Char.toLower = isBlank := funext isBlank_toLower
  simp only [trimBoth, List.dropWhile_map, ← List.map_reverse, hblank]

end Text

namespace Config

-- ================================================================= switch

/-- A text is made of these characters and white space around them. -/
def Holds (text : String) (cs : List Char) : Prop :=
  ∃ before after, text.toList = before ++ cs ++ after
    ∧ (∀ c ∈ before, Text.isBlank c) ∧ ∀ c ∈ after, Text.isBlank c

/-- Two texts differ at most in the case of their ASCII letters and in the white space
around them. -/
def SameWord (s t : String) : Prop :=
  ∃ cs ds, Holds s cs ∧ Holds t ds ∧ cs.map Char.toLower = ds.map Char.toLower

theorem Holds.trimBoth_eq {text : String} {cs : List Char} (h : Holds text cs) :
    Text.trimBoth Text.isBlank text.toList = Text.trimBoth Text.isBlank cs := by
  obtain ⟨before, after, htext, hbefore, hafter⟩ := h
  rw [htext, Text.trimBoth_padded hbefore hafter]

/-- A switch goes by its word. -/
theorem SameWord.readSwitch_eq {s t : String} (h : SameWord s t) : readSwitch s = readSwitch t := by
  obtain ⟨cs, ds, hs, ht, hsame⟩ := h
  have hword : lowerCase (Text.strip s) = lowerCase (Text.strip t) := by
    rw [lowerCase, lowerCase, Text.strip, Text.strip, String.toList_ofList, String.toList_ofList,
      hs.trimBoth_eq, ht.trimBoth_eq, Text.map_toLower_trimBoth, Text.map_toLower_trimBoth, hsame]
  rw [readSwitch, readSwitch, hword]

theorem readSwitch_of_blank {text : String} (h : Text.strip text = "") :
    readSwitch text = true := by
  rw [readSwitch, h]
  decide

-- ============================================================ environment

variable {lookup : String → Option String} {config : Config}

theorem isBlankText_iff {text : String} : isBlankText text ↔ Text.strip text = "" := by
  rw [Text.strip_eq_empty_iff, isBlankText, List.all_eq_true]

theorem nonblank_of_blank {text : String} (h : Text.strip text = "") :
    ofEnvironment.nonblank (some text) = none :=
  if_pos (isBlankText_iff.2 h)

theorem nonblank_of_not_blank {text : String} (h : Text.strip text ≠ "") :
    ofEnvironment.nonblank (some text) = some text :=
  if_neg (mt isBlankText_iff.1 h)

/-- The switch that the environment asks for. -/
def switchOf (lookup : String → Option String) : Bool :=
  ((lookup dedupeVariable).map readSwitch).getD true

theorem switchOf_congr {lookup' : String → Option String}
    (h : Option.Rel SameWord (lookup dedupeVariable) (lookup' dedupeVariable)) :
    switchOf lookup = switchOf lookup' := by
  unfold switchOf
  generalize lookup dedupeVariable = s at h ⊢
  generalize lookup' dedupeVariable = t at h ⊢
  cases h with
  | none => rfl
  | some hword => rw [Option.map_some, Option.map_some, hword.readSwitch_eq]

/-- A blank switch is on, as an absent one is, so that only its word matters. -/
theorem switch_eq (lookup : String → Option String) :
    (ofEnvironment.nonblank (lookup dedupeVariable)).elim true readSwitch = switchOf lookup := by
  unfold switchOf
  cases lookup dedupeVariable with
  | none => rfl
  | some text =>
      by_cases hblank : Text.strip text = ""
      · rw [nonblank_of_blank hblank, Option.map_some, Option.getD_some, Option.elim_none,
          readSwitch_of_blank hblank]
      · rw [nonblank_of_not_blank hblank, Option.map_some, Option.getD_some, Option.elim_some]

theorem ofEnvironment_of_none (h : ofEnvironment.nonblank (lookup limitVariable) = none) :
    ofEnvironment lookup = .ok { dedupe := switchOf lookup } := by
  unfold ofEnvironment
  rw [h, ← switch_eq]
  cases ofEnvironment.nonblank (lookup dedupeVariable) with
  | none => rw [Option.elim_none]
  | some word => rw [Option.elim_some]

theorem ofEnvironment_of_some {text : String}
    (h : ofEnvironment.nonblank (lookup limitVariable) = some text) :
    ofEnvironment lookup = (readInteger? text).elim (.error (.limitText text))
      fun limit => .ok { dedupe := switchOf lookup, limit } := by
  unfold ofEnvironment
  rw [h, ← switch_eq]
  dsimp only
  cases readInteger? text with
  | none => rw [Option.elim_none]
  | some limit =>
      rw [Option.elim_some]
      cases ofEnvironment.nonblank (lookup dedupeVariable) with
      | none => rw [Option.elim_none]
      | some word => rw [Option.elim_some]

theorem ofEnvironment_of_absent (h : lookup limitVariable = none) :
    ofEnvironment lookup = .ok { dedupe := switchOf lookup } :=
  ofEnvironment_of_none (by rw [h]; rfl)

theorem ofEnvironment_of_blank {text : String} (h : lookup limitVariable = some text)
    (hblank : Text.strip text = "") : ofEnvironment lookup = .ok { dedupe := switchOf lookup } :=
  ofEnvironment_of_none (by rw [h, nonblank_of_blank hblank])

theorem ofEnvironment_of_legible {text : String} {n : Int} (h : lookup limitVariable = some text)
    (hblank : Text.strip text ≠ "") (hn : Legible text n) :
    ofEnvironment lookup = .ok { dedupe := switchOf lookup, limit := n } := by
  rw [ofEnvironment_of_some (by rw [h, nonblank_of_not_blank hblank]),
    readInteger?_eq_some_iff.2 hn, Option.elim_some]

theorem ofEnvironment_of_not_legible {text : String} (h : lookup limitVariable = some text)
    (hblank : Text.strip text ≠ "") (hn : ∀ n, ¬Legible text n) :
    ofEnvironment lookup = .error (.limitText text) := by
  have hread : readInteger? text = none := by
    cases hread : readInteger? text with
    | none => rfl
    | some n => exact absurd (readInteger?_eq_some_iff.1 hread) (hn n)
  rw [ofEnvironment_of_some (by rw [h, nonblank_of_not_blank hblank]), hread, Option.elim_none]

theorem dedupe_of_ok (h : ofEnvironment lookup = .ok config) : config.dedupe = switchOf lookup := by
  cases hlimit : ofEnvironment.nonblank (lookup limitVariable) with
  | none =>
      rw [ofEnvironment_of_none hlimit] at h
      cases h
      rfl
  | some text =>
      rw [ofEnvironment_of_some hlimit] at h
      cases hread : readInteger? text with
      | none =>
          rw [hread] at h
          cases h
      | some limit =>
          rw [hread] at h
          cases h
          rfl

/-- A text that spells a number has a digit in it, so it is not blank. -/
theorem not_blank_of_spells {text : String} {n : Int} (h : Spells IsPadding text n) :
    Text.strip text ≠ "" := by
  intro hblank
  obtain ⟨before, core, after, htext, -, -, hcore⟩ := h
  obtain ⟨c, d, hc, hd⟩ := hcore.exists_last
  have hmem : c ∈ text.toList := by
    rw [htext]
    exact List.mem_append_left _ (List.mem_append_right _ (List.mem_of_getLast? hc))
  have hdigit := Text.strip_eq_empty_iff.1 hblank c hmem
  rw [isBlank_of_digit hd] at hdigit
  cases hdigit

/-- Every way that the text of the limit can be, with what comes of it. -/
theorem limit_cases (lookup : String → Option String) :
    ((∀ text, lookup limitVariable = some text → Text.strip text = "")
        ∧ ofEnvironment lookup = .ok { dedupe := switchOf lookup })
      ∨ (∃ text n, lookup limitVariable = some text ∧ Legible text n
        ∧ ofEnvironment lookup = .ok { dedupe := switchOf lookup, limit := n })
      ∨ ∃ text, lookup limitVariable = some text ∧ Text.strip text ≠ ""
        ∧ (∀ n, ¬Legible text n) ∧ ofEnvironment lookup = .error (.limitText text) := by
  cases htext : lookup limitVariable with
  | none =>
      refine .inl ⟨fun text h => ?_, ofEnvironment_of_absent htext⟩
      cases h
  | some text =>
      by_cases hblank : Text.strip text = ""
      · refine .inl ⟨fun other h => ?_, ofEnvironment_of_blank htext hblank⟩
        cases h
        exact hblank
      · by_cases hn : ∃ n, Legible text n
        · obtain ⟨n, hn⟩ := hn
          exact .inr (.inl ⟨text, n, rfl, hn, ofEnvironment_of_legible htext hblank hn⟩)
        · have hnone : ∀ n, ¬Legible text n := fun n h => hn ⟨n, h⟩
          exact .inr (.inr ⟨text, rfl, hblank, hnone,
            ofEnvironment_of_not_legible htext hblank hnone⟩)

/-- A limit that is accepted is the number that its text spells. -/
theorem legible_of_ok (h : ofEnvironment lookup = .ok config) {text : String}
    (htext : lookup limitVariable = some text) (hblank : Text.strip text ≠ "") :
    Legible text config.limit := by
  rcases limit_cases lookup with ⟨hall, -⟩ | ⟨text', n, htext', hn, hok⟩ | ⟨text', -, -, -, herror⟩
  · exact absurd (hall text htext) hblank
  · rw [hok] at h
    cases h
    rw [htext] at htext'
    cases htext'
    exact hn
  · rw [herror] at h
    cases h

/-- The environment is read exactly by its grammar.

- It is refused if and only if the text of the limit is neither blank nor spells a whole
  number in at most `maxDigits` digits, and the text is what the failure tells.
- The limit is the default for an absent or a blank text, and the number that is spelled
  for any other; in particular a number is read back from its decimal text with white
  space around it, or refused there, as it has at most so many digits or more.
- The switch does not depend on the text of the limit, nor on the case of the ASCII
  letters of its own text or on the white space around it. -/
theorem ofEnvironment_grammar (lookup : String → Option String) :
    (∀ e, ofEnvironment lookup = .error e ↔
        ∃ text, lookup limitVariable = some text ∧ Text.strip text ≠ ""
          ∧ (∀ n, ¬Legible text n) ∧ e = .limitText text)
      ∧ (∀ config, ofEnvironment lookup = .ok config →
        ((∀ text, lookup limitVariable = some text → Text.strip text = "") → config.limit = 100)
          ∧ ∀ text, lookup limitVariable = some text → Text.strip text ≠ "" →
            Legible text config.limit)
      ∧ (∀ text n, lookup limitVariable = some text → Legible text n →
        ∃ config, ofEnvironment lookup = .ok config ∧ config.limit = n)
      ∧ (∀ (n : Int) (before after : String), (∀ c ∈ before.toList, IsPadding c) →
        (∀ c ∈ after.toList, IsPadding c) →
        lookup limitVariable = some (before ++ intText n ++ after) →
        ((∃ config, ofEnvironment lookup = .ok config ∧ config.limit = n)
          ↔ n.natAbs < 10 ^ maxDigits))
      ∧ ∀ lookup' config config',
        Option.Rel SameWord (lookup dedupeVariable) (lookup' dedupeVariable) →
        ofEnvironment lookup = .ok config → ofEnvironment lookup' = .ok config' →
        config.dedupe = config'.dedupe := by
  have spelled (text : String) (n : Int) (htext : lookup limitVariable = some text)
      (hn : Legible text n) :
      ∃ config, ofEnvironment lookup = .ok config ∧ config.limit = n :=
    ⟨_, ofEnvironment_of_legible htext (not_blank_of_spells hn.spells) hn, rfl⟩
  refine ⟨?_, ?_, spelled, ?_, ?_⟩
  · intro e
    constructor
    · intro he
      rcases limit_cases lookup with ⟨-, h⟩ | ⟨text, n, -, -, h⟩ | ⟨text, htext, hblank, hn, h⟩
      · rw [h] at he
        cases he
      · rw [h] at he
        cases he
      · rw [h] at he
        cases he
        exact ⟨text, htext, hblank, hn, rfl⟩
    · intro he
      obtain ⟨text, htext, hblank, hn, rfl⟩ := he
      exact ofEnvironment_of_not_legible htext hblank hn
  · intro config hconfig
    constructor
    · intro hblank
      rcases limit_cases lookup with ⟨-, h⟩ | ⟨text, n, htext, hn, h⟩ | ⟨text, -, -, -, h⟩
      · rw [h] at hconfig
        cases hconfig
        rfl
      · exact absurd (hblank text htext) (not_blank_of_spells hn.spells)
      · rw [h] at hconfig
        cases hconfig
    · exact fun text htext hblank => legible_of_ok hconfig htext hblank
  · intro n before after hbefore hafter htext
    rw [← legible_padded_iff hbefore hafter]
    refine ⟨?_, spelled _ n htext⟩
    rintro ⟨config, hconfig, rfl⟩
    exact legible_of_ok hconfig htext (not_blank_of_spells (spells_padded _ hbefore hafter))
  · intro lookup' config config' hsame hconfig hconfig'
    rw [dedupe_of_ok hconfig, dedupe_of_ok hconfig', switchOf_congr hsame]

/-- An environment with white space, a sign, an underscore and digits of two scripts. -/
def paddedEnvironment : String → Option String := fun name =>
  if name = limitVariable then some "\u2003-1_0٣\t"
  else if name = dedupeVariable then some "\x1cOff\n"
  else none

/-- An environment with the same word for the switch and a blank limit. -/
def blankEnvironment : String → Option String := fun name =>
  if name = limitVariable then some "\x1c"
  else if name = dedupeVariable then some "oFF"
  else none

/-- Both are accepted, with one limit as it is written and the other at its default, and
with the same switch. -/
theorem paddedEnvironment_grammar :
    ∃ config config', ofEnvironment paddedEnvironment = .ok config
      ∧ ofEnvironment blankEnvironment = .ok config'
      ∧ config.limit = -103 ∧ config'.limit = 100 ∧ config.dedupe = config'.dedupe := by
  have hlimit : Legible "\u2003-1_0٣\t" (-103) := readInteger?_eq_some_iff.1 rfl
  have hword : SameWord "\x1cOff\n" "oFF" :=
    ⟨['O', 'f', 'f'], ['o', 'F', 'F'],
      ⟨['\x1c'], ['\n'], rfl, List.forall_mem_singleton.2 rfl, List.forall_mem_singleton.2 rfl⟩,
      ⟨[], [], rfl, List.forall_mem_nil _, List.forall_mem_nil _⟩, rfl⟩
  obtain ⟨-, -, hspelled, -, hswitch⟩ := ofEnvironment_grammar paddedEnvironment
  obtain ⟨-, hblank, -⟩ := ofEnvironment_grammar blankEnvironment
  obtain ⟨config, hconfig, hread⟩ := hspelled _ _ rfl hlimit
  have hconfig' : ofEnvironment blankEnvironment = .ok { dedupe := false } := rfl
  have hdefault := (hblank _ hconfig').1 fun text htext => by
    cases htext
    rfl
  exact ⟨config, _, hconfig, hconfig', hread, hdefault,
    hswitch blankEnvironment _ _ (.some hword) hconfig hconfig'⟩

/-- An environment with one text, for the limit. -/
def limitedBy (text : String) : String → Option String := fun name =>
  if name = limitVariable then some text else none

/-- An information separator before a digit beyond the ASCII characters. -/
def separatedLimit : String := "\x1c٣"

/-- The decimal text of a number that is too large is refused. -/
theorem intText_refused {n : Int} (h : ¬n.natAbs < 10 ^ maxDigits) :
    ofEnvironment (limitedBy (intText n)) = .error (.limitText (intText n)) := by
  have hspells : Spells IsPadding (intText n) n :=
    ⟨[], (intText n).toList, [], by simp, List.forall_mem_nil _, List.forall_mem_nil _,
      signedNumeral_intText n⟩
  refine ofEnvironment_of_not_legible rfl (not_blank_of_spells hspells) fun m hm => ?_
  exact h (digitCount_intText_le_iff.1 hm.short)

/-- A one, and as many zeros behind it as a number may have digits. -/
def longLimit : Nat := 10 ^ maxDigits

/-- Two texts that are refused although they spell a number in a wider sense. In the first the
white space in front is of the kind that makes a text blank, and there is a character beyond
ASCII; the second has a digit too many. -/
theorem limits_refused :
    ((∃ c ∈ separatedLimit.toList, 127 < c.toNat)
        ∧ Spells (fun c => Text.isBlank c) separatedLimit 3
        ∧ ofEnvironment (limitedBy separatedLimit) = .error (.limitText separatedLimit))
      ∧ SignedNumeral longLimit (intText longLimit).toList
      ∧ ofEnvironment (limitedBy (intText longLimit))
        = .error (.limitText (intText longLimit)) := by
  refine ⟨⟨⟨'٣', by decide, by decide⟩, ?_, rfl⟩, signedNumeral_intText _,
    intText_refused (Nat.lt_irrefl longLimit)⟩
  exact ⟨['\x1c'], ['٣'], [], rfl, List.forall_mem_singleton.2 rfl, List.forall_mem_nil _,
    .bare (.digit rfl)⟩

end Config

end FormScript
