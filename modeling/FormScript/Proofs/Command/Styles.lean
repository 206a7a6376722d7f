/-
What printing leaves of a text with style codes in it. A style code is an escape character,
an opening square bracket, digits and semicolons, and the letter m. Programs whose output
goes to no terminal are expected to leave such codes out (`Front.RemovesStyles`); what they
do with any other use of the escape character is theirs to say. Texts without codes are the
only ones that arrive as they are (`Text.Styled.eq_iff`).
-/
import FormScript.Command.Plain
import Mathlib.Data.List.TakeWhile

namespace FormScript

namespace Text

-- ============================================================ style codes

/-- Whether a character may stand between the bracket and the letter of a style code. -/
def isStyleParameter (c : Char) : Bool := c.isDigit || c == ';'

/-- A text in which the escape character only starts style codes, and what is left of it
without them. -/
inductive Styled : List Char → List Char → Prop
  | nil : Styled [] []
  | code {params rest out : List Char} : (∀ c ∈ params, isStyleParameter c) → Styled rest out →
      Styled (escapeChar :: '[' :: (params ++ 'm' :: rest)) out
  | keep {c : Char} {rest out : List Char} : c ≠ escapeChar → Styled rest out →
      Styled (c :: rest) (c :: out)

theorem Styled.not_mem_out {s out : List Char} (h : Styled s out) : escapeChar ∉ out := by
  induction h with
  | nil => exact List.not_mem_nil
  | code _ _ ih => exact ih
  | keep hc _ ih =>
      intro hmem
      rcases List.mem_cons.1 hmem with heq | hmem
      · exact hc heq.symm
      · exact ih hmem

/-- A text is left as it is exactly if it has no style code. -/
theorem Styled.eq_iff {s out : List Char} (h : Styled s out) : out = s ↔ escapeChar ∉ s := by
  constructor
  · intro heq
    exact heq ▸ h.not_mem_out
  · intro hnone
    induction h with
    | nil => rfl
    | code _ _ _ => exact absurd List.mem_cons_self hnone
    | keep _ _ ih => rw [ih fun hmem => hnone (List.mem_cons_of_mem _ hmem)]

-- ======================================================== dropping controls

theorem isParameter_of_isStyleParameter {c : Char} (h : isStyleParameter c) : isParameter c := by
  unfold isStyleParameter at h
  unfold isParameter
  rw [h]
  rfl

theorem controlLength_code {params : List Char} (h : ∀ c ∈ params, isStyleParameter c)
    (rest : List Char) :
    controlLength (escapeChar :: '[' :: (params ++ 'm' :: rest)) = params.length + 3 := by
  have hparams (c : Char) (hc : c ∈ params) : isParameter c :=
    isParameter_of_isStyleParameter (h c hc)
  have hstop : ¬isParameter 'm' := by decide
  have htake : (params ++ 'm' :: rest).takeWhile isParameter = params := by
    rw [List.takeWhile_append_of_pos hparams, List.takeWhile_cons_of_neg hstop, List.append_nil]
  have hdrop : (params ++ 'm' :: rest).dropWhile isParameter = 'm' :: rest := by
    rw [List.dropWhile_append_of_pos hparams, List.dropWhile_cons_of_neg hstop]
  rw [controlLength, if_pos rfl, hdrop, htake]
  rfl

theorem controlLength_of_ne {c : Char} (h : c ≠ escapeChar) (rest : List Char) :
    controlLength (c :: rest) = 0 := by
  unfold controlLength
  split
  · rename_i heq
    rw [(List.cons.inj heq).1] at h
    exact if_neg h
  · rfl

theorem dropControls_eq_drop (skipped : Nat) (s : List Char) :
    dropControls skipped s = dropControls 0 (s.drop skipped) := by
  induction s generalizing skipped with
  | nil => rw [List.drop_nil]; rfl
  | cons c rest ih =>
      cases skipped with
      | zero => rfl
      | succ skipped => rw [dropControls, ih, List.drop_succ_cons]

theorem dropControls_code {params : List Char} (h : ∀ c ∈ params, isStyleParameter c)
    (rest : List Char) :
    dropControls 0 (escapeChar :: '[' :: (params ++ 'm' :: rest)) = dropControls 0 rest := by
  have hlength := controlLength_code h rest
  have hsplit : '[' :: (params ++ 'm' :: rest) = ('[' :: (params ++ ['m'])) ++ rest := by simp
  rw [dropControls.eq_def]
  simp only [hlength]
  rw [dropControls_eq_drop, hsplit, List.drop_left' (by simp)]

theorem dropControls_of_ne {c : Char} (h : c ≠ escapeChar) (rest : List Char) :
    dropControls 0 (c :: rest) = c :: dropControls 0 rest := by
  rw [dropControls.eq_def]
  simp only [controlLength_of_ne h]

theorem Styled.dropControls_eq {s out : List Char} (h : Styled s out) : dropControls 0 s = out := by
  induction h with
  | nil => rfl
  | code hparams _ ih => rw [dropControls_code hparams, ih]
  | keep hc _ ih => rw [dropControls_of_ne hc, ih]

end Text

-- ================================================================= fronts

/-- A front that leaves style codes out of what it prints. -/
def Front.RemovesStyles (front : Front) : Prop :=
  ∀ text out : String, Text.Styled text.toList out.toList → (front.print text).failure = none →
    (front.print text).output = out

theorem Command.plainFront_removesStyles : plainFront.RemovesStyles := by
  intro text out h _
  show Text.plainOutput text = out
  rw [Text.plainOutput, h.dropControls_eq, String.ofList_toList]

end FormScript
