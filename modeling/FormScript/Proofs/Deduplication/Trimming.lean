/-
Texts that are trimmed. A declaration that lists each name once is a shorter
text than one that lists repeats, and the texts around the two are alike.
`Trims repeats t t'` compares two texts of this kind: they are equal if nothing
was repeated, `t` is shorter if something was, and in any case they end alike,
so that they are terminated alike as statements.

The first part is about lists of names without their repeats.
-/
import Mathlib.Data.List.Induction
import FormScript.Proofs.Declaring

namespace FormScript

-- ================================================================ repeats

/-- One more name is kept if it is new. -/
theorem eraseDups_concat (xs : List String) (x : String) :
    (xs ++ [x]).eraseDups = if x ∈ xs then xs.eraseDups else xs.eraseDups ++ [x] := by
  rw [List.eraseDups_append]
  by_cases h : x ∈ xs <;> simp [List.removeAll, List.eraseDups_cons, h]

theorem eraseDups_of_nodup {xs : List String} (h : xs.Nodup) : xs.eraseDups = xs := by
  induction xs using List.reverseRecOn with
  | nil => rfl
  | append_singleton xs x ih =>
      rw [← List.concat_eq_append] at h
      obtain ⟨hx, hxs⟩ := (List.nodup_concat xs x).1 h
      rw [eraseDups_concat, if_neg hx, ih hxs]

theorem eraseDups_ne_nil {xs : List String} (h : xs ≠ []) : xs.eraseDups ≠ [] := by
  cases xs with
  | nil => exact absurd rfl h
  | cons x xs =>
      rw [List.eraseDups_cons]
      exact List.cons_ne_nil _ _

theorem length_intercalate_concat {xs : List String} (h : xs ≠ []) (x : String) :
    (", ".intercalate (xs ++ [x])).length = (", ".intercalate xs).length + 2 + x.length := by
  have hsep : ", ".length = 2 := by decide
  rw [String.intercalate_append_of_ne_nil h (List.cons_ne_nil _ _),
    String.intercalate_singleton, String.length_append, String.length_append, hsep]

/-- A list with repeats is written longer than the list without them. -/
theorem length_intercalate_eraseDups {xs : List String} (h : ¬ xs.Nodup) :
    (", ".intercalate xs.eraseDups).length < (", ".intercalate xs).length := by
  induction xs using List.reverseRecOn with
  | nil => exact absurd List.nodup_nil h
  | append_singleton xs x ih =>
      have hnil : xs ≠ [] := by
        rintro rfl
        exact h (by simp)
      rw [eraseDups_concat, length_intercalate_concat hnil]
      by_cases hx : x ∈ xs
      · rw [if_pos hx]
        by_cases hxs : xs.Nodup
        · rw [eraseDups_of_nodup hxs]
          omega
        · have hshorter := ih hxs
          omega
      · have hrepeat : ¬ xs.Nodup := fun hxs => h <| by
          rw [← List.concat_eq_append]
          exact (List.nodup_concat xs x).2 ⟨hx, hxs⟩
        have hshorter := ih hrepeat
        rw [if_neg hx, length_intercalate_concat (eraseDups_ne_nil hnil)]
        omega

-- ================================================================ endings

/-- The last two characters of a text, the last one first. -/
def ending (t : String) : List Char := t.toList.reverse.take 2

/-- The ending of a text depends on the endings of its parts. -/
theorem ending_append (x y : String) :
    ending (x ++ y) = (ending y ++ ending x).take 2 := by
  have htake (as bs : List Char) : (as ++ bs).take 2 = (as.take 2 ++ bs.take 2).take 2 := by
    rcases as with _ | ⟨a, _ | ⟨b, as⟩⟩ <;> simp [List.take_take]
  rw [ending, String.toList_append, List.reverse_append, htake]
  rfl

/-- Whether a text ends like a statement is seen from its ending. -/
theorem isTerminated_eq_of_ending {t t' : String} (h : ending t = ending t') :
    isTerminated t = isTerminated t' := by
  have hfront (cs : List Char) :
      ['\n', ';'].isPrefixOf cs = ['\n', ';'].isPrefixOf (cs.take 2) := by
    rcases cs with _ | ⟨a, _ | ⟨b, cs⟩⟩ <;> simp [List.isPrefixOf]
  have hending (t : String) : isTerminated t = ['\n', ';'].isPrefixOf (ending t) := by
    rw [ending, ← hfront]
    rfl
  rw [hending, hending, h]

-- =============================================================== trimming

/-- Two texts that are equal if nothing is repeated, and of which the first one
is shorter if something is. -/
structure Trims (repeats : Prop) (t t' : String) : Prop where
  same : ¬ repeats → t = t'
  shorter : repeats → t.length < t'.length
  ends : ending t = ending t'

namespace Trims

variable {p q : Prop} {x x' y y' : String}

theorem of_not (h : ¬ p) (t : String) : Trims p t t :=
  ⟨fun _ => rfl, fun hp => absurd hp h, rfl⟩

theorem congr (h : Trims p x x') (hpq : q ↔ p) : Trims q x x' :=
  ⟨fun hq => h.same (mt hpq.2 hq), fun hq => h.shorter (hpq.1 hq), h.ends⟩

theorem length_le (h : Trims p x x') : x.length ≤ x'.length := by
  by_cases hp : p
  · exact Nat.le_of_lt (h.shorter hp)
  · exact Nat.le_of_eq (congrArg String.length (h.same hp))

theorem append (hx : Trims p x x') (hy : Trims q y y') :
    Trims (p ∨ q) (x ++ y) (x' ++ y') where
  same h := by rw [hx.same (mt .inl h), hy.same (mt .inr h)]
  shorter h := by
    have hxle := hx.length_le
    have hyle := hy.length_le
    rw [String.length_append, String.length_append]
    rcases h with hp | hq
    · have := hx.shorter hp
      omega
    · have := hy.shorter hq
      omega
  ends := by rw [ending_append, ending_append, hx.ends, hy.ends]

/-- Texts between the same two texts. -/
theorem between (h : Trims p x x') (opening closing : String) :
    Trims p (opening ++ x ++ closing) (opening ++ x' ++ closing) := by
  have hopening : Trims False opening opening := of_not id opening
  have hclosing : Trims False closing closing := of_not id closing
  exact ((hopening.append h).append hclosing).congr (by simp)

theorem terminate (h : Trims p x x') : Trims p (terminate x) (terminate x') := by
  have hsame := isTerminated_eq_of_ending h.ends
  unfold FormScript.terminate
  rw [← hsame]
  split
  · exact h
  · exact (h.append (of_not id separator : Trims False _ _)).congr (by simp)

/-- Texts in front of others, with a separator between them. -/
theorem intercalate_cons {xs xs' : List String} (hx : Trims p x x')
    (hxs : Trims q (", ".intercalate xs) (", ".intercalate xs')) (hnil : xs = [] ↔ xs' = []) :
    Trims (p ∨ q) (", ".intercalate (x :: xs)) (", ".intercalate (x' :: xs')) := by
  by_cases h : xs = []
  · have h' := hnil.1 h
    subst h h'
    rw [String.intercalate_singleton, String.intercalate_singleton]
    exact hx.congr (or_iff_left fun hq => absurd (hxs.shorter hq) (Nat.lt_irrefl _))
  · rw [String.intercalate_cons_of_ne_nil h, String.intercalate_cons_of_ne_nil (mt hnil.2 h)]
    have hsep : Trims False ", " ", " := of_not id ", "
    exact ((hx.append hsep).append hxs).congr (by simp)

end Trims

/-- A declaration without repeats beside the one with them. -/
theorem declaration_trims (xs : List String) (dedupe dedupe' : Bool) :
    Trims (¬ xs.Nodup) (Scope.declaration { names := xs.eraseDups, dedupe })
      (Scope.declaration { names := xs, dedupe := dedupe' }) := by
  have hdeclaration {xs : List String} (dedupe : Bool) (h : xs ≠ []) :
      Scope.declaration { names := xs, dedupe } = "var " ++ ", ".intercalate xs ++ separator := by
    cases xs with
    | nil => exact absurd rfl h
    | cons x xs => rfl
  by_cases hnil : xs = []
  · subst hnil
    exact .of_not (not_not_intro List.nodup_nil) ""
  · rw [hdeclaration dedupe (eraseDups_ne_nil hnil), hdeclaration dedupe' hnil]
    refine ⟨fun h => ?_, fun h => ?_, ?_⟩
    · rw [eraseDups_of_nodup (not_not.1 h)]
    · have hshorter := length_intercalate_eraseDups h
      simp only [String.length_append]
      omega
    · have hseparator (t : String) : ending (t ++ separator) = ['\n', ';'] := by
        rw [ending_append]
        rfl
      rw [hseparator, hseparator]

end FormScript
