/-
The meaning of logical forms. A tree of symbols, `and`, `or` and `!` stands
for a formula (`Node.Denotes`), and its text is the formula without any
parentheses (`Denotes.written`). Read as a script, where a negation sign
binds tighter than a conjunction sign and that tighter than a disjunction
sign, the text need not mean what the tree means: `(and (or a b) c)` is
written `a||b&&c`.

Main statement: `Emitter.emitAt_logical_faithful` says when the meaning is
kept. It is kept if the formula is faithful (every connective under an even
number of negations, no disjunction inside a conjunction), and for trees
whose symbols are all different only then.
-/
import FormScript.Proofs.Precedence.Faithful
import FormScript.Proofs.Precedence.Reading
import FormScript.Proofs.Writing

namespace FormScript

open PrefixCode

-- ================================================================= trees

/-- The two connectives with any number of operands. -/
inductive Connective where
  | conjunction
  | disjunction

namespace Connective

/-- The head of a form with this connective. -/
def head : Connective → String
  | conjunction => "and"
  | disjunction => "or"

/-- The character that is written twice between operands. -/
def sign : Connective → Char
  | conjunction => '&'
  | disjunction => '|'

/-- Two formulas with this connective between them. -/
def join : Connective → Formula → Formula → Formula
  | conjunction => .conjunction
  | disjunction => .disjunction

/-- Operands with this connective between them. -/
def chain (c : Connective) (f : Formula) : List Formula → Formula
  | [] => f
  | g :: fs => c.join f (c.chain g fs)

theorem join_chars (c : Connective) (f g : Formula) :
    (c.join f g).chars = f.chars ++ (c.sign :: c.sign :: g.chars) := by
  cases c <;> rfl

theorem join_names (c : Connective) (f g : Formula) :
    (c.join f g).names = f.names ++ g.names := by
  cases c <;> rfl

/-- Operands are written with the sign of their connective between them. -/
theorem chain_chars (c : Connective) (f : Formula) (fs : List Formula) :
    (c.chain f fs).chars
      = [c.sign, c.sign].intercalate ((f :: fs).map Formula.chars) := by
  induction fs generalizing f with
  | nil => simp [chain]
  | cons g fs ih =>
      rw [chain, join_chars, ih, intercalate_cons_eq, intercalate_cons_eq]
      simp [tail]

theorem chain_valid (c : Connective) {f : Formula} {fs : List Formula}
    (hf : f.Valid) (hfs : ∀ g ∈ fs, g.Valid) : (c.chain f fs).Valid := by
  induction fs generalizing f with
  | nil => exact hf
  | cons g fs ih =>
      have hg := ih (hfs g (.head _)) fun k hk => hfs k (.tail _ hk)
      intro name hname
      rw [chain, join_names] at hname
      rcases List.mem_append.1 hname with hname | hname
      · exact hf name hname
      · exact hg name hname

end Connective

/-- A tree of symbols, `and` and `or` with at least one operand and `!` with
one stands for a formula over the local names of the symbols. -/
inductive Node.Denotes : Node → Formula → Prop
  | symbol (id : Ident) (valid : isIdentifier id.name) :
      Denotes (.sym id) (.symbol id.name)
  | negation (id : Ident) (head : id.name = "!") {n : Node} {f : Formula}
      (operand : Denotes n f) : Denotes (.form [.sym id, n]) (.negation f)
  | joined (c : Connective) (id : Ident) (head : id.name = c.head) {n : Node}
      {f : Formula} (first : Denotes n f) (rest : List (Node × Formula))
      (others : ∀ p ∈ rest, Denotes p.1 p.2) :
      Denotes (.form (.sym id :: n :: rest.map Prod.fst))
        (c.chain f (rest.map Prod.snd))

namespace Node

theorem Denotes.valid {n : Node} {f : Formula} (h : n.Denotes f) :
    f.Valid := by
  induction h with
  | symbol id valid =>
      intro name hname
      rw [List.mem_singleton.1 hname]
      exact valid
  | negation _ _ _ ih => exact ih
  | joined c _ _ _ rest _ ih ihs =>
      refine c.chain_valid ih fun g hg => ?_
      obtain ⟨p, hp, rfl⟩ := List.mem_map.1 hg
      exact ihs p hp

-- ================================================================= texts

theorem joined_layout (c : Connective) {id : Ident} (head : id.name = c.head)
    (args : List Node) :
    (form (sym id :: args)).layout
      = .joinNodes (String.ofList [c.sign, c.sign]) args := by
  show Layout.symbolForm id args = _
  rw [Layout.symbolForm, head]
  cases c with
  | conjunction => rfl
  | disjunction => rfl

theorem negation_layout {id : Ident} (head : id.name = "!") (n : Node) :
    (form [sym id, n]).layout = .seq [.text "!", .node n] := by
  show Layout.symbolForm id [n] = _
  rw [Layout.symbolForm, head]
  rfl

/-- A tree is written as the formula it stands for, without parentheses. -/
theorem Denotes.written {n : Node} {f : Formula} (h : n.Denotes f) :
    n.Written (String.ofList f.chars) := by
  induction h with
  | symbol id valid =>
      rw [Formula.chars, String.ofList_toList]
      exact written_sym valid
  | @negation id head n f _ ih =>
      refine written_of_layout fun e levels he => ?_
      have htext : String.ofList (Formula.negation f).chars
          = "!" ++ String.ofList f.chars := by
        rw [Formula.chars, String.ofList_cons]
        rfl
      rw [negation_layout head, htext]
      exact Layout.append_yields (Layout.text_yields "!") (ih e levels he)
  | @joined c id head n f _ rest _ ih ihs =>
      refine written_of_layout fun e levels he => ?_
      have hwritten : ∀ m ∈ n :: rest.map Prod.fst, m.Written m.text := by
        intro m hm
        rcases List.mem_cons.1 hm with rfl | hm
        · exact ih.written_text
        · obtain ⟨p, hp, rfl⟩ := List.mem_map.1 hm
          exact (ihs p hp).written_text
      have htexts : (n :: rest.map Prod.fst).map (String.toList ∘ text)
          = (f :: rest.map Prod.snd).map Formula.chars := by
        rw [List.map_cons, List.map_cons, List.map_map, List.map_map]
        refine congr (congrArg List.cons ?_) (List.map_congr_left fun p hp => ?_)
        · exact (congrArg String.toList ih.text_eq).trans String.toList_ofList
        · exact (congrArg String.toList (ihs p hp).text_eq).trans
            String.toList_ofList
      have htext : String.ofList (c.chain f (rest.map Prod.snd)).chars
          = (String.ofList [c.sign, c.sign]).intercalate
              ((n :: rest.map Prod.fst).map text) := by
        rw [c.chain_chars, ← htexts, ← String.toList_inj, String.toList_ofList,
          String.toList_intercalate, String.toList_ofList, List.map_map]
      rw [joined_layout c head, htext]
      exact Layout.joinNodes_yields (fun m hm => hwritten m hm e levels he) _

end Node

-- ============================================================== meanings

namespace Emitter

/-- Without custom forms a tree that stands for a formula is emitted as a
text that can be read, and every reading of it means what the clauses of
the formula mean. That is what the tree means if the formula is faithful,
and, if the symbols are all different, only then. -/
theorem emitAt_logical_faithful (e : Emitter) (he : e.forms = .empty)
    (levels : Nat) (r : Run) {n : Node} {f : Formula} (h : n.Denotes f) :
    ∃ t, e.emitAt levels n r = .ok t r
      ∧ (∃ g, Reads .disjunction t.toList g)
      ∧ (∀ g, Reads .disjunction t.toList g →
          ∀ ρ, g.value ρ = f.clauses.value ρ)
      ∧ (f.Faithful → ∀ g, Reads .disjunction t.toList g →
          ∀ ρ, g.value ρ = f.value ρ)
      ∧ (f.names.Nodup → (∀ g, Reads .disjunction t.toList g →
          ∀ ρ, g.value ρ = f.value ρ) → f.Faithful) := by
  have hvalid := h.valid
  obtain ⟨g, hg⟩ := Formula.exists_reads hvalid
  refine ⟨String.ofList f.chars, h.written e levels he r, ?_⟩
  rw [String.toList_ofList]
  refine ⟨⟨g, hg⟩, fun k hk => Formula.value_of_reads hvalid hk, ?_, ?_⟩
  · intro hfaithful k hk ρ
    rw [Formula.value_of_reads hvalid hk]
    exact hfaithful.agrees ρ
  · intro hnodup hkept
    refine Formula.faithfulAt_of_agrees hnodup fun ρ => ?_
    rw [Formula.Agrees, ← Formula.value_of_reads hvalid hg]
    exact hkept g hg ρ

/-- A disjunction of a conjunction and a disjunction under two negations. -/
def guardedChoice : Node :=
  .form [.sym ⟨"or", none⟩,
    .form [.sym ⟨"and", none⟩, .sym ⟨"a", none⟩,
      .form [.sym ⟨"!", none⟩, .sym ⟨"b", none⟩]],
    .form [.sym ⟨"!", none⟩, .form [.sym ⟨"!", none⟩,
      .form [.sym ⟨"or", none⟩, .sym ⟨"c", none⟩, .sym ⟨"d", none⟩]]]]

/-- The formula that it stands for. -/
def guardedChoiceFormula : Formula :=
  .disjunction (.conjunction (.symbol "a") (.negation (.symbol "b")))
    (.negation (.negation (.disjunction (.symbol "c") (.symbol "d"))))

theorem guardedChoice_denotes : guardedChoice.Denotes guardedChoiceFormula := by
  have symbol (name : String) (valid : isIdentifier name) :
      (Node.sym ⟨name, none⟩).Denotes (.symbol name) := .symbol ⟨name, none⟩ valid
  have pair (c : Connective) {m n : Node} {f g : Formula} (hm : m.Denotes f)
      (hn : n.Denotes g) :
      (Node.form [.sym ⟨c.head, none⟩, m, n]).Denotes (c.join f g) :=
    .joined c ⟨c.head, none⟩ rfl hm [(n, g)] (by simpa using hn)
  have bang {n : Node} {f : Formula} (hn : n.Denotes f) :
      (Node.form [.sym ⟨"!", none⟩, n]).Denotes (.negation f) :=
    .negation ⟨"!", none⟩ rfl hn
  have hand := pair .conjunction (symbol "a" (by decide))
    (bang (symbol "b" (by decide)))
  have hor := pair .disjunction (symbol "c" (by decide))
    (symbol "d" (by decide))
  exact pair .disjunction hand (bang (bang hor))

/-- The tree is emitted as a text that means what the tree means. -/
theorem guardedChoice_meaning :
    ∃ t g, emitAt {} 0 guardedChoice {} = .ok t {}
      ∧ Reads .disjunction t.toList g
      ∧ ∀ ρ, g.value ρ = guardedChoiceFormula.value ρ := by
  obtain ⟨t, ht, ⟨g, hg⟩, -, hkept, -⟩ :=
    emitAt_logical_faithful {} rfl 0 {} guardedChoice_denotes
  have hfaithful : guardedChoiceFormula.Faithful :=
    ⟨rfl, rfl, ⟨rfl, trivial, trivial⟩, ⟨rfl, rfl, trivial, trivial⟩⟩
  exact ⟨t, g, ht, hg, hkept hfaithful g hg⟩

/-- A disjunction inside a conjunction loses its meaning: the text of
`(and (or a b) c)` holds where only `a` does. -/
theorem disjunction_in_conjunction_meaning :
    ∃ t g, emitAt {} 0
        (.form [.sym ⟨"and", none⟩,
          .form [.sym ⟨"or", none⟩, .sym ⟨"a", none⟩, .sym ⟨"b", none⟩],
          .sym ⟨"c", none⟩]) {} = .ok t {}
      ∧ Reads .disjunction t.toList g
      ∧ g.value (· == "a") = true
      ∧ (Formula.conjunction (.disjunction (.symbol "a") (.symbol "b"))
          (.symbol "c")).value (· == "a") = false := by
  have name {s : String} (valid : isIdentifier s) :
      Reads .conjunction s.toList (.symbol s) := .operand (.name valid)
  refine ⟨"a||b&&c", .disjunction (.symbol "a")
    (.conjunction (.symbol "b") (.symbol "c")), rfl, ?_, rfl, rfl⟩
  exact .disjunction (.clause (name (s := "a") (by decide)))
    (.conjunction (name (s := "b") (by decide)) (.name (s := "c") (by decide)))

end Emitter

end FormScript
