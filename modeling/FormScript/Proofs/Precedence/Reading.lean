/-
Reading a text as a formula. `Reads` is the grammar of the three logical
operators in a script: a negation sign binds tighter than a conjunction
sign, a conjunction sign tighter than a disjunction sign, and parentheses
set a part apart.

# The argument

A text without parentheses shows clauses, and a reading of it means what
they mean (`Reads.shows`). Clauses are told apart by their text
(`Clauses.chars_inj`): a literal is a run of negation signs and a run of
word characters, and each kind of list has a separator of its own. So all
readings of such a text mean the same, and the text of a formula is read
as the clauses of the formula (`Formula.value_of_reads`), whatever the formula
itself means.
-/
import FormScript.Proofs.Precedence.Formula
import FormScript.Proofs.Readability.Tokens

namespace FormScript

open PrefixCode

-- =============================================================== grammar

/-- The levels of the grammar, the tightest first. -/
inductive Level where
  | operand
  | conjunction
  | disjunction

/-- A text is read as a formula at a level of the grammar. -/
inductive Reads : Level → List Char → Formula → Prop
  | name {s : String} (valid : isIdentifier s) :
      Reads .operand s.toList (.symbol s)
  | negation {t : List Char} {f : Formula} (inner : Reads .operand t f) :
      Reads .operand ('!' :: t) (.negation f)
  | group {t : List Char} {f : Formula} (inner : Reads .disjunction t f) :
      Reads .operand ('(' :: (t ++ [')'])) f
  | operand {t : List Char} {f : Formula} (part : Reads .operand t f) :
      Reads .conjunction t f
  | conjunction {t u : List Char} {f g : Formula}
      (left : Reads .conjunction t f) (right : Reads .operand u g) :
      Reads .conjunction (t ++ ('&' :: '&' :: u)) (.conjunction f g)
  | clause {t : List Char} {f : Formula} (part : Reads .conjunction t f) :
      Reads .disjunction t f
  | disjunction {t u : List Char} {f g : Formula}
      (left : Reads .disjunction t f) (right : Reads .conjunction u g) :
      Reads .disjunction (t ++ ('|' :: '|' :: u)) (.disjunction f g)

/-- A clause that can be read. -/
structure Clause.Valid (C : Clause) : Prop where
  nonempty : C ≠ []
  names : ∀ l ∈ C, isIdentifier l.name

/-- Clauses that can be read. -/
structure Clauses.Valid (cs : Clauses) : Prop where
  nonempty : cs ≠ []
  clauses : ∀ C ∈ cs, Clause.Valid C

theorem Clauses.Proper.valid {cs : Clauses} (h : cs.Proper)
    (hnames : ∀ name ∈ cs.names, isIdentifier name) : cs.Valid := by
  refine ⟨h.nonempty, fun C hC => ⟨h.clauses C hC, fun l hl => ?_⟩⟩
  refine hnames l.name (List.mem_map.2 ⟨l, ?_, rfl⟩)
  exact List.mem_flatten.2 ⟨C, hC, hl⟩

-- ================================================== texts without groups

/-- A text shows a literal, a clause or clauses, as the level says, that
mean what the formula means. -/
def Shows : Level → List Char → Formula → Prop
  | .operand, t, f =>
    ∃ l : Literal, isIdentifier l.name ∧ t = l.chars
      ∧ ∀ ρ, f.value ρ = l.value ρ
  | .conjunction, t, f =>
    ∃ C : Clause, C.Valid ∧ t = C.chars ∧ ∀ ρ, f.value ρ = C.value ρ
  | .disjunction, t, f =>
    ∃ cs : Clauses, cs.Valid ∧ t = cs.chars ∧ ∀ ρ, f.value ρ = cs.value ρ

/-- A reading of a text without parentheses means what the text shows. -/
theorem Reads.shows {level : Level} {t : List Char} {f : Formula}
    (h : Reads level t f) (hparen : '(' ∉ t) : Shows level t f := by
  induction h with
  | name valid => exact ⟨⟨0, _⟩, valid, rfl, fun ρ => rfl⟩
  | negation _ ih =>
      obtain ⟨l, valid, rfl, hvalue⟩ := ih fun hm => hparen (.tail _ hm)
      refine ⟨l.bang, valid, rfl, fun ρ => ?_⟩
      rw [Formula.value, hvalue, Literal.bang_value]
  | group _ _ => exact absurd (.head _) hparen
  | operand _ ih =>
      obtain ⟨l, valid, rfl, hvalue⟩ := ih hparen
      refine ⟨[l], ⟨List.cons_ne_nil _ _, ?_⟩, ?_, fun ρ => ?_⟩
      · simpa using valid
      · simp [Clause.chars]
      · rw [hvalue, Clause.value_singleton]
  | conjunction _ _ ihl ihr =>
      obtain ⟨C, hC, rfl, hvalueC⟩ := ihl
        fun hm => hparen (List.mem_append_left _ hm)
      obtain ⟨l, valid, rfl, hvalue⟩ := ihr
        fun hm => hparen (List.mem_append_right _ (.tail _ (.tail _ hm)))
      refine ⟨C ++ [l], ⟨by simp, fun m hm => ?_⟩, ?_, fun ρ => ?_⟩
      · rcases List.mem_append.1 hm with hm | hm
        · exact hC.names m hm
        · rw [List.mem_singleton.1 hm]
          exact valid
      · rw [Clause.chars_append hC.nonempty (List.cons_ne_nil _ _)]
        simp [Clause.chars]
      · rw [Formula.value, hvalueC, hvalue, Clause.value_append,
          Clause.value_singleton]
  | clause _ ih =>
      obtain ⟨C, hC, rfl, hvalue⟩ := ih hparen
      refine ⟨[C], ⟨List.cons_ne_nil _ _, fun D hD => ?_⟩, ?_, fun ρ => ?_⟩
      · rw [List.mem_singleton.1 hD]
        exact hC
      · simp [Clauses.chars]
      · rw [hvalue, Clauses.value_singleton]
  | disjunction _ _ ihl ihr =>
      obtain ⟨cs, hcs, rfl, hvaluecs⟩ := ihl
        fun hm => hparen (List.mem_append_left _ hm)
      obtain ⟨C, hC, rfl, hvalue⟩ := ihr
        fun hm => hparen (List.mem_append_right _ (.tail _ (.tail _ hm)))
      refine ⟨cs ++ [C], ⟨by simp, fun D hD => ?_⟩, ?_, fun ρ => ?_⟩
      · rcases List.mem_append.1 hD with hD | hD
        · exact hcs.clauses D hD
        · rw [List.mem_singleton.1 hD]
          exact hC
      · rw [Clauses.chars_append hcs.nonempty (List.cons_ne_nil _ _)]
        simp [Clauses.chars]
      · rw [Formula.value, hvaluecs, hvalue, Clauses.value_append,
          Clauses.value_singleton]

-- ============================================== clauses from their texts

/-- What may come after a clause: nothing, or a disjunction sign. -/
def EndsClause (u : List Char) : Prop := ∀ c ∈ u.head?, c = '|'

theorem stops_cons {p : Char → Bool} {c : Char} (h : p c = false)
    (u : List Char) : Stops p (c :: u) := by
  intro d hd
  cases hd
  exact h

/-- A name does not go on the negation signs in front of it. -/
theorem stops_bang {name : String} (h : isIdentifier name) (u : List Char) :
    Stops (· == '!') (name.toList ++ u) := by
  unfold isIdentifier at h
  cases hcs : name.toList with
  | nil =>
      rw [hcs] at h
      cases h
  | cons c cs =>
      rw [hcs] at h
      simp only [Bool.and_eq_true] at h
      refine stops_cons ?_ _
      rw [beq_eq_false_iff_ne]
      rintro rfl
      exact absurd h.1 (by decide)

/-- A literal is told apart by its signs and its name. -/
theorem literal_readable {l : Literal} (valid : isIdentifier l.name) :
    Readable (fun m : Literal => isIdentifier m.name) Literal.chars
      (Stops isWordChar) l := by
  intro m validm u v hu hv h
  rw [Literal.chars, Literal.chars, List.append_assoc, List.append_assoc] at h
  have hbangs : ∀ k : Nat, ∀ c ∈ List.replicate k '!', (c == '!') = true := by
    intro k c hc
    rw [List.eq_of_mem_replicate hc]
    rfl
  obtain ⟨hsigns, hnames⟩ := run_inj (hbangs _) (hbangs _)
    (stops_bang valid u) (stops_bang validm v) h
  obtain ⟨hname, huv⟩ := run_inj (isWordChar_of_mem valid)
    (isWordChar_of_mem validm) hu hv hnames
  have hcount : l.bangs = m.bangs := by
    have hlength := congrArg List.length hsigns
    rwa [List.length_replicate, List.length_replicate] at hlength
  have hlm : l = m := by
    cases l
    cases m
    exact congr (congrArg Literal.mk hcount) (String.toList_inj.1 hname)
  exact ⟨hlm, huv⟩

theorem clause_ends : Ends (Stops isWordChar) '&' EndsClause where
  follows := by
    intro w hw c hc
    rw [hw c hc]
    decide
  stops := by
    intro w hw
    exact absurd (hw '&' rfl) (by decide)

theorem clauses_end : Ends EndsClause '|' (· = []) where
  follows := by
    rintro w rfl c hc
    cases hc
  stops := fun w hw => List.cons_ne_nil _ _ hw

/-- A clause is told apart by its literals. -/
theorem clause_readable {C : Clause} (hC : C.Valid) :
    Readable Clause.Valid Clause.chars EndsClause C := by
  intro D hD u v hu hv h
  cases C with
  | nil => exact absurd rfl hC.nonempty
  | cons l C =>
      cases D with
      | nil => exact absurd rfl hD.nonempty
      | cons m D =>
          exact cons_inj (fun w => stops_cons (by decide) _) clause_ends
            (fun k hk => literal_readable (hC.names k hk)) hD.names hu hv h

/-- Clauses are told apart by their text. -/
theorem Clauses.chars_inj {cs ds : Clauses} (hcs : cs.Valid) (hds : ds.Valid)
    (h : cs.chars = ds.chars) : cs = ds := by
  cases cs with
  | nil => exact absurd rfl hcs.nonempty
  | cons C cs =>
      cases ds with
      | nil => exact absurd rfl hds.nonempty
      | cons D ds =>
          have hsep : ∀ w, EndsClause ('|' :: ['|'] ++ w) := by
            intro w c hc
            cases hc
            rfl
          have hchars : chars (C :: cs) ++ [] = chars (D :: ds) ++ [] := by
            rw [h]
          exact (cons_inj hsep clauses_end
            (fun B hB => clause_readable (hcs.clauses B hB)) hds.clauses
            rfl rfl hchars).1

-- ============================================================== readings

theorem literal_reads {l : Literal} (valid : isIdentifier l.name) :
    ∃ f, Reads .operand l.chars f := by
  obtain ⟨bangs, name⟩ := l
  induction bangs with
  | zero => exact ⟨.symbol name, .name valid⟩
  | succ bangs ih =>
      obtain ⟨f, hf⟩ := ih valid
      exact ⟨.negation f, .negation hf⟩

theorem clause_reads {C : Clause} (hC : C.Valid) :
    ∃ f, Reads .conjunction C.chars f := by
  -- a reading of what stands in front goes on over the other literals
  have more : ∀ (C : Clause), (∀ l ∈ C, isIdentifier l.name) → ∀ t f,
      Reads .conjunction t f →
        ∃ g, Reads .conjunction (t ++ tail ['&', '&'] Literal.chars C) g := by
    intro C
    induction C with
    | nil =>
        intro _ t f hf
        exact ⟨f, by simpa [tail] using hf⟩
    | cons l C ih =>
        intro valid t f hf
        obtain ⟨g, hg⟩ := literal_reads (valid l (.head _))
        obtain ⟨k, hk⟩ := ih (fun m hm => valid m (.tail _ hm)) _ _
          (.conjunction hf hg)
        exact ⟨k, by simpa [tail] using hk⟩
  cases C with
  | nil => exact absurd rfl hC.nonempty
  | cons l C =>
      obtain ⟨f, hf⟩ := literal_reads (hC.names l (.head _))
      rw [Clause.chars, intercalate_cons_eq]
      exact more C (fun m hm => hC.names m (.tail _ hm)) _ f (.operand hf)

theorem clauses_read {cs : Clauses} (hcs : cs.Valid) :
    ∃ f, Reads .disjunction cs.chars f := by
  have more : ∀ (cs : Clauses), (∀ C ∈ cs, Clause.Valid C) → ∀ t f,
      Reads .disjunction t f →
        ∃ g, Reads .disjunction (t ++ tail ['|', '|'] Clause.chars cs) g := by
    intro cs
    induction cs with
    | nil =>
        intro _ t f hf
        exact ⟨f, by simpa [tail] using hf⟩
    | cons C cs ih =>
        intro valid t f hf
        obtain ⟨g, hg⟩ := clause_reads (valid C (.head _))
        obtain ⟨k, hk⟩ := ih (fun D hD => valid D (.tail _ hD)) _ _
          (.disjunction hf hg)
        exact ⟨k, by simpa [tail] using hk⟩
  cases cs with
  | nil => exact absurd rfl hcs.nonempty
  | cons C cs =>
      obtain ⟨f, hf⟩ := clause_reads (hcs.clauses C (.head _))
      rw [Clauses.chars, intercalate_cons_eq]
      exact more cs (fun D hD => hcs.clauses D (.tail _ hD)) _ f (.clause hf)

-- ============================================== the text of a formula

namespace Formula

/-- A formula whose names can be read. -/
def Valid (f : Formula) : Prop := ∀ name ∈ f.names, isIdentifier name

theorem Valid.clauses {f : Formula} (h : f.Valid) : f.clauses.Valid := by
  refine f.clauses_proper.valid ?_
  rw [f.clauses_names]
  exact h

theorem not_mem_joined {c d : Char} {t u : List Char} (hd : c ≠ d)
    (ht : c ∉ t) (hu : c ∉ u) : c ∉ t ++ (d :: d :: u) := by
  simp [hd, ht, hu]

/-- No parenthesis stands in the text of a formula. -/
theorem paren_not_mem_chars {f : Formula} (h : f.Valid) : '(' ∉ f.chars := by
  induction f with
  | symbol name =>
      intro hm
      have hword := isWordChar_of_mem (h name (.head _)) '(' hm
      exact absurd hword (by decide)
  | negation f ih =>
      intro hm
      rcases List.mem_cons.1 hm with hc | hm
      · exact absurd hc (by decide)
      · exact ih h hm
  | conjunction f g ihf ihg =>
      refine not_mem_joined (by decide) (ihf ?_) (ihg ?_)
      · exact fun name hname => h name (List.mem_append_left _ hname)
      · exact fun name hname => h name (List.mem_append_right _ hname)
  | disjunction f g ihf ihg =>
      refine not_mem_joined (by decide) (ihf ?_) (ihg ?_)
      · exact fun name hname => h name (List.mem_append_left _ hname)
      · exact fun name hname => h name (List.mem_append_right _ hname)

/-- The text of a formula can be read. -/
theorem exists_reads {f : Formula} (h : f.Valid) :
    ∃ g, Reads .disjunction f.chars g := by
  rw [← f.clauses_chars]
  exact clauses_read h.clauses

/-- Every reading of the text of a formula means what its clauses mean. -/
theorem value_of_reads {f g : Formula} (h : f.Valid)
    (hg : Reads .disjunction f.chars g) (ρ : String → Bool) :
    g.value ρ = f.clauses.value ρ := by
  obtain ⟨cs, hcs, hchars, hvalue⟩ := hg.shows (paren_not_mem_chars h)
  rw [← f.clauses_chars] at hchars
  rw [hvalue ρ, Clauses.chars_inj h.clauses hcs hchars]

end Formula

end FormScript
