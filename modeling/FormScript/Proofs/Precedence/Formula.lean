/-
Propositional formulas, and what is left of one that is written without
parentheses. `Formula.chars` joins the texts of a formula's parts as they
are. What such a text shows is only a list of clauses, each a list of
names with negation signs in front (`Formula.clauses`): a disjunction puts
the clauses of its parts one after another, a conjunction joins the last
clause of its first part to the first clause of its second
(`Clauses.glue`), and a negation reaches no further than the first name
(`Clauses.bang`).

Main statement: `clauses_chars`, the text of a formula is the text of its
clauses.
-/
import FormScript.Ident
import FormScript.Proofs.PrefixCode

namespace FormScript

open PrefixCode

-- ============================================================== formulas

/-- A propositional formula over names. -/
inductive Formula where
  | symbol (name : String)
  | negation (f : Formula)
  | conjunction (f g : Formula)
  | disjunction (f g : Formula)

namespace Formula

/-- The truth value of a formula under an assignment to the names. -/
def value (ρ : String → Bool) : Formula → Bool
  | symbol name => ρ name
  | negation f => !f.value ρ
  | conjunction f g => f.value ρ && g.value ρ
  | disjunction f g => f.value ρ || g.value ρ

/-- The names in a formula, left to right. -/
def names : Formula → List String
  | symbol name => [name]
  | negation f => f.names
  | conjunction f g | disjunction f g => f.names ++ g.names

/-- The text of a formula without any parentheses. -/
def chars : Formula → List Char
  | symbol name => name.toList
  | negation f => '!' :: f.chars
  | conjunction f g => f.chars ++ ('&' :: '&' :: g.chars)
  | disjunction f g => f.chars ++ ('|' :: '|' :: g.chars)

end Formula

-- =============================================================== clauses

/-- A name with negation signs in front. -/
structure Literal where
  bangs : Nat
  name : String

namespace Literal

def value (ρ : String → Bool) (l : Literal) : Bool :=
  Nat.repeat not l.bangs (ρ l.name)

def chars (l : Literal) : List Char :=
  List.replicate l.bangs '!' ++ l.name.toList

/-- One more negation sign. -/
def bang (l : Literal) : Literal := { l with bangs := l.bangs + 1 }

theorem bang_value (ρ : String → Bool) (l : Literal) :
    l.bang.value ρ = !l.value ρ := rfl

theorem bang_chars (l : Literal) : l.bang.chars = '!' :: l.chars := rfl

end Literal

/-- Names that all have to hold. -/
abbrev Clause := List Literal

namespace Clause

def value (ρ : String → Bool) (C : Clause) : Bool := C.all (·.value ρ)

def chars (C : Clause) : List Char := ['&', '&'].intercalate (C.map Literal.chars)

theorem value_singleton (ρ : String → Bool) (l : Literal) :
    value ρ [l] = l.value ρ := by
  simp [value]

theorem value_append (ρ : String → Bool) (C D : Clause) :
    value ρ (C ++ D) = (value ρ C && value ρ D) :=
  List.all_append

theorem chars_append {C D : Clause} (hC : C ≠ []) (hD : D ≠ []) :
    chars (C ++ D) = chars C ++ ('&' :: '&' :: chars D) := by
  cases C with
  | nil => exact absurd rfl hC
  | cons l C =>
      cases D with
      | nil => exact absurd rfl hD
      | cons m D =>
          simp only [chars, List.cons_append, intercalate_cons_eq]
          simp [tail]

end Clause

/-- Clauses of which one has to hold. -/
abbrev Clauses := List Clause

namespace Clauses

def value (ρ : String → Bool) (cs : Clauses) : Bool := cs.any (Clause.value ρ)

def chars (cs : Clauses) : List Char := ['|', '|'].intercalate (cs.map Clause.chars)

def names (cs : Clauses) : List String := cs.flatten.map Literal.name

theorem names_cons (C : Clause) (cs : Clauses) :
    names (C :: cs) = C.map Literal.name ++ names cs := by
  simp [names]

theorem names_append (cs ds : Clauses) :
    names (cs ++ ds) = names cs ++ names ds := by
  simp [names]

/-- Clauses that have a text: there is one, and none of them is empty. -/
structure Proper (cs : Clauses) : Prop where
  nonempty : cs ≠ []
  clauses : ∀ C ∈ cs, C ≠ []

theorem value_singleton (ρ : String → Bool) (C : Clause) :
    value ρ [C] = C.value ρ := by
  simp [value]

theorem value_cons (ρ : String → Bool) (C : Clause) (cs : Clauses) :
    value ρ (C :: cs) = (C.value ρ || value ρ cs) := rfl

theorem value_append (ρ : String → Bool) (cs ds : Clauses) :
    value ρ (cs ++ ds) = (value ρ cs || value ρ ds) :=
  List.any_append

theorem chars_append {cs ds : Clauses} (hcs : cs ≠ []) (hds : ds ≠ []) :
    chars (cs ++ ds) = chars cs ++ ('|' :: '|' :: chars ds) := by
  cases cs with
  | nil => exact absurd rfl hcs
  | cons C cs =>
      cases ds with
      | nil => exact absurd rfl hds
      | cons D ds =>
          simp only [chars, List.cons_append, intercalate_cons_eq]
          simp [tail]

theorem Proper.append {cs ds : Clauses} (hcs : Proper cs) (hds : Proper ds) :
    Proper (cs ++ ds) where
  nonempty := by simp [hcs.nonempty]
  clauses := by
    intro C hC
    rcases List.mem_append.1 hC with hC | hC
    · exact hcs.clauses C hC
    · exact hds.clauses C hC

-- ============================================================== negation

/-- A negation sign in front of the first name. -/
def bang : Clauses → Clauses
  | (l :: C) :: cs => (l.bang :: C) :: cs
  | cs => cs

theorem bang_bang_value (ρ : String → Bool) (cs : Clauses) :
    value ρ (bang (bang cs)) = value ρ cs := by
  match cs with
  | [] => rfl
  | [] :: cs => rfl
  | (l :: C) :: cs =>
      show value ρ ((l.bang.bang :: C) :: cs) = _
      simp [value, Clause.value, Literal.bang_value]

theorem bang_names (cs : Clauses) : names (bang cs) = names cs := by
  match cs with
  | [] => rfl
  | [] :: cs => rfl
  | (l :: C) :: cs => rfl

/-- Clauses that have a text start with a name. -/
theorem Proper.exists_cons {cs : Clauses} (h : Proper cs) :
    ∃ l C rest, cs = (l :: C) :: rest := by
  match cs, h with
  | [], h => exact absurd rfl h.nonempty
  | [] :: cs, h => exact absurd rfl (h.clauses [] (.head _))
  | (l :: C) :: cs, _ => exact ⟨l, C, cs, rfl⟩

theorem Proper.bang {cs : Clauses} (h : Proper cs) : Proper (bang cs) := by
  obtain ⟨l, C, rest, rfl⟩ := h.exists_cons
  refine ⟨List.cons_ne_nil _ _, fun D hD => ?_⟩
  rcases List.mem_cons.1 hD with rfl | hD
  · exact List.cons_ne_nil _ _
  · exact h.clauses D (.tail _ hD)

theorem bang_chars {cs : Clauses} (h : Proper cs) :
    chars (bang cs) = '!' :: chars cs := by
  obtain ⟨l, C, rest, rfl⟩ := h.exists_cons
  show chars ((l.bang :: C) :: rest) = _
  simp only [chars, intercalate_cons_eq, Clause.chars, Literal.bang_chars]
  rfl

-- =========================================================== conjunction

/-- The last of some clauses joined to the first of others. -/
def glue : Clauses → Clauses → Clauses
  | [], ds => ds
  | [C], [] => [C]
  | [C], D :: ds => (C ++ D) :: ds
  | C :: B :: cs, ds => C :: glue (B :: cs) ds

theorem glue_append (cs : Clauses) (C D : Clause) (ds : Clauses) :
    glue (cs ++ [C]) (D :: ds) = cs ++ (C ++ D) :: ds := by
  induction cs with
  | nil => rfl
  | cons B cs ih =>
      cases cs with
      | nil => rfl
      | cons A cs =>
          show B :: glue (A :: cs ++ [C]) (D :: ds) = _
          rw [ih]
          rfl

/-- Clauses end with a clause. -/
theorem exists_append {cs : Clauses} (h : cs ≠ []) :
    ∃ init last, cs = init ++ [last] :=
  ⟨cs.dropLast, cs.getLast h, (List.dropLast_concat_getLast h).symm⟩

/-- The parts of two lists of clauses around the place where they are
joined. -/
theorem Proper.exists_glue {cs ds : Clauses} (hcs : Proper cs)
    (hds : Proper ds) :
    ∃ init last first rest, cs = init ++ [last] ∧ ds = first :: rest
      ∧ glue cs ds = init ++ (last ++ first) :: rest
      ∧ last ≠ [] ∧ first ≠ [] := by
  obtain ⟨init, last, rfl⟩ := exists_append hcs.nonempty
  cases ds with
  | nil => exact absurd rfl hds.nonempty
  | cons first rest =>
      exact ⟨init, last, first, rest, rfl, rfl, glue_append _ _ _ _,
        hcs.clauses last (by simp), hds.clauses first (.head _)⟩

theorem Proper.glue {cs ds : Clauses} (hcs : Proper cs) (hds : Proper ds) :
    Proper (glue cs ds) := by
  obtain ⟨init, last, first, rest, rfl, rfl, hglue, hlast, _⟩ :=
    hcs.exists_glue hds
  rw [hglue]
  refine ⟨by simp, fun C hC => ?_⟩
  rcases List.mem_append.1 hC with hC | hC
  · exact hcs.clauses C (List.mem_append_left _ hC)
  · rcases List.mem_cons.1 hC with rfl | hC
    · simp [hlast]
    · exact hds.clauses C (.tail _ hC)

theorem glue_names {cs ds : Clauses} (hcs : Proper cs) (hds : Proper ds) :
    names (glue cs ds) = names cs ++ names ds := by
  obtain ⟨init, last, first, rest, rfl, rfl, hglue, _, _⟩ :=
    hcs.exists_glue hds
  rw [hglue, names_append, names_append, names_cons, names_cons, names_cons,
    List.map_append]
  simp [names]

theorem glue_chars {cs ds : Clauses} (hcs : Proper cs) (hds : Proper ds) :
    chars (glue cs ds) = chars cs ++ ('&' :: '&' :: chars ds) := by
  obtain ⟨init, last, first, rest, rfl, rfl, hglue, hlast, hfirst⟩ :=
    hcs.exists_glue hds
  -- the joined clause has the text of its two parts with the sign between
  have hjoined : chars ((last ++ first) :: rest)
      = chars [last] ++ ('&' :: '&' :: chars (first :: rest)) := by
    simp only [chars, intercalate_cons_eq, Clause.chars_append hlast hfirst]
    simp [tail]
  rw [hglue]
  cases init with
  | nil => exact hjoined
  | cons B init =>
      rw [chars_append (List.cons_ne_nil _ _) (List.cons_ne_nil _ _),
        chars_append (List.cons_ne_nil _ _) (List.cons_ne_nil _ _), hjoined]
      simp

end Clauses

-- ================================================= clauses of a formula

namespace Formula

open Clauses

/-- The clauses that the text of a formula shows. -/
def clauses : Formula → Clauses
  | symbol name => [[⟨0, name⟩]]
  | negation f => bang f.clauses
  | conjunction f g => glue f.clauses g.clauses
  | disjunction f g => f.clauses ++ g.clauses

theorem clauses_proper (f : Formula) : Proper f.clauses := by
  induction f with
  | symbol name => exact ⟨by simp [clauses], by simp [clauses]⟩
  | negation f ih => exact ih.bang
  | conjunction f g ihf ihg => exact ihf.glue ihg
  | disjunction f g ihf ihg => exact ihf.append ihg

theorem clauses_names (f : Formula) : Clauses.names f.clauses = f.names := by
  induction f with
  | symbol name => rfl
  | negation f ih => rw [clauses, bang_names, ih, names]
  | conjunction f g ihf ihg =>
      rw [clauses, glue_names f.clauses_proper g.clauses_proper, ihf, ihg,
        names]
  | disjunction f g ihf ihg =>
      rw [clauses, names_append, ihf, ihg, names]

/-- The text of a formula is the text of its clauses. -/
theorem clauses_chars (f : Formula) : Clauses.chars f.clauses = f.chars := by
  induction f with
  | symbol name => simp [clauses, Clauses.chars, Clause.chars, Literal.chars, chars]
  | negation f ih => rw [clauses, bang_chars f.clauses_proper, ih, chars]
  | conjunction f g ihf ihg =>
      rw [clauses, glue_chars f.clauses_proper g.clauses_proper, ihf, ihg,
        chars]
  | disjunction f g ihf ihg =>
      rw [clauses, chars_append f.clauses_proper.nonempty
        g.clauses_proper.nonempty, ihf, ihg, chars]

end Formula

end FormScript
