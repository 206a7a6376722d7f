/-
Where the clauses of a `try` form stand does not matter. Its arguments are told apart into
a body, catch clauses and finally clauses, and what is written depends on these three alone:
the block of the body, then that of the catch clause, then that of the finally clause. Two
lists of arguments with the same parts (`Layout.SameParts`) succeed alike, however their
clauses stand among the statements.

# The argument

`Layout.BlocksWritten` says what a `try` form with given parts leaves, block by block, and a
form is written successfully exactly if this holds of its own parts
(`Layout.run_tryBlock_ok_iff`). A clause that is there at most once may be told apart in any
order. Clauses that are missing or there too often are found before anything is written
(`Layout.tryBlock_of_flaw`), so then the whole run is left as it was.
-/
import FormScript.Proofs.Sequencing

namespace FormScript

namespace Layout

-- ================================================================== parts

/-- Arguments of a `try` form with the same body, and with the same clauses in any order. -/
structure SameParts (xs ys : List Node) : Prop where
  body : xs.filter (!isClause ·) = ys.filter (!isClause ·)
  catches : (xs.filterMap catchClause?).Perm (ys.filterMap catchClause?)
  finallies : (xs.filterMap finallyClause?).Perm (ys.filterMap finallyClause?)

/-- What is wrong with the number of clauses. -/
def clauseFlaw? (catches finallies : Nat) : Option MalformedTry :=
  if catches = 0 ∧ finallies = 0 then some .noClause
  else if 1 < catches then some .manyCatches
  else if 1 < finallies then some .manyFinallies
  else none

/-- Statements in braces behind a heading. -/
def braced (heading body : String) : String := heading ++ "\x7b\n" ++ body ++ "\x7d\n"

section Blocks

variable (dedupe : Bool) (write : Node → EmitM String)

/-- The block of a catch clause is written: first the name of what is caught, then the
statements. -/
inductive CatchWritten : List Node → Run → String → Run → Prop
  | handled {name : Node} {body : List Node} {r s r' : Run} {x y : String}
      (caught : write name r = .ok x s)
      (handling : (statements body).run dedupe write s = .ok y r') :
      CatchWritten (name :: body) r (braced ("catch(" ++ x ++ ")") y) r'

/-- The block of a finally clause is written. -/
inductive FinallyWritten : List Node → Run → String → Run → Prop
  | closed {body : List Node} {r r' : Run} {y : String}
      (closing : (statements body).run dedupe write r = .ok y r') :
      FinallyWritten body r (braced "finally" y) r'

/-- There is at most one clause of a kind, and if there is one, its block is written. -/
inductive OneWritten (block : List Node → Run → String → Run → Prop) :
    List (List Node) → Run → String → Run → Prop
  | none {r : Run} : OneWritten block [] r "" r
  | one {clause : List Node} {r r' : Run} {t : String} (written : block clause r t r') :
      OneWritten block [clause] r t r'

/-- A `try` form with these parts is written: the block of its body, then those of its
clauses, of which there is at least one. -/
inductive BlocksWritten (body : List Node) (catches finallies : List (List Node)) :
    Run → String → Run → Prop
  | blocks {r s s' r' : Run} {b c f : String} (some : catches ≠ [] ∨ finallies ≠ [])
      (tried : (statements body).run dedupe write r = .ok b s)
      (caught : OneWritten (CatchWritten dedupe write) catches s c s')
      (closed : OneWritten (FinallyWritten dedupe write) finallies s' f r') :
      BlocksWritten body catches finallies r (braced "try" b ++ c ++ f) r'

end Blocks

variable {dedupe : Bool} {write : Node → EmitM String} {r r' : Run} {t : String}

theorem OneWritten.length_le {block : List Node → Run → String → Run → Prop}
    {clauses : List (List Node)} (h : OneWritten block clauses r t r') : clauses.length ≤ 1 := by
  cases h <;> simp

/-- At most one clause has no order. -/
theorem clauses_eq_of_perm {xs ys : List (List Node)} (hperm : xs.Perm ys)
    (hlength : xs.length ≤ 1) : xs = ys := by
  rcases xs with _ | ⟨x, _ | ⟨x', rest⟩⟩
  · exact (List.nil_perm.1 hperm).symm
  · exact List.singleton_perm.1 hperm
  · simp at hlength

/-- So what is written for some parts is written for the same clauses in any order. -/
theorem BlocksWritten.of_perm {body : List Node}
    {catches catches' finallies finallies' : List (List Node)}
    (h : BlocksWritten dedupe write body catches finallies r t r')
    (hcatches : catches.Perm catches') (hfinallies : finallies.Perm finallies') :
    BlocksWritten dedupe write body catches' finallies' r t r' := by
  cases h with
  | blocks some tried caught closed =>
      have hsame := clauses_eq_of_perm hcatches caught.length_le
      have hsame' := clauses_eq_of_perm hfinallies closed.length_le
      subst hsame hsame'
      exact .blocks some tried caught closed

-- ================================================================= blocks

theorem run_catchPart_ok_iff {args clause : List Node} :
    (tryBlock.catchPart args clause).run dedupe write r = .ok t r'
      ↔ CatchWritten dedupe write clause r t r' := by
  cases clause with
  | nil =>
      constructor
      · intro h
        cases h
      · intro h
        cases h
  | cons name body =>
      have htext (x y : String) : "catch(" ++ (x ++ (")\x7b\n" ++ (y ++ "\x7d\n")))
          = braced ("catch(" ++ x ++ ")") y := by
        simp only [braced, String.append_assoc]
        rfl
      have hrun : (tryBlock.catchPart args (name :: body)).run dedupe write = do
          let x ← write name
          let y ← (statements body).run dedupe write
          return braced ("catch(" ++ x ++ ")") y := by
        simp only [tryBlock.catchPart, seq, run, bind_assoc, pure_bind, htext]
      rw [hrun, EmitM.bind_ok_iff]
      constructor
      · rintro ⟨x, s, hx, hmore⟩
        obtain ⟨y, s', hy, hreturn⟩ := EmitM.bind_ok_iff.1 hmore
        cases hreturn
        exact .handled hx hy
      · intro h
        cases h with
        | handled caught handling =>
            exact ⟨_, _, caught, EmitM.bind_ok_iff.2 ⟨_, _, handling, rfl⟩⟩

theorem run_finallyPart_ok_iff {clause : List Node} :
    (tryBlock.finallyPart clause).run dedupe write r = .ok t r'
      ↔ FinallyWritten dedupe write clause r t r' := by
  have htext (y : String) : "finally\x7b\n" ++ (y ++ "\x7d\n") = braced "finally" y := by
    simp only [braced, String.append_assoc]
    rfl
  have hrun : (tryBlock.finallyPart clause).run dedupe write = do
      let y ← (statements clause).run dedupe write
      return braced "finally" y := by
    simp only [tryBlock.finallyPart, seq, run, bind_assoc, pure_bind, htext]
  rw [hrun, EmitM.bind_ok_iff]
  constructor
  · rintro ⟨y, s, hy, hreturn⟩
    cases hreturn
    exact .closed hy
  · intro h
    cases h with
    | closed closing => exact ⟨_, _, closing, rfl⟩

theorem run_clauses_ok_iff {part : List Node → Layout}
    {block : List Node → Run → String → Run → Prop}
    (hpart : ∀ {clause r t r'}, (part clause).run dedupe write r = .ok t r' ↔ block clause r t r')
    {clauses : List (List Node)} (h : clauses.length ≤ 1) :
    (seq (clauses.map part)).run dedupe write r = .ok t r' ↔ OneWritten block clauses r t r' := by
  rcases clauses with _ | ⟨clause, _ | ⟨clause', rest⟩⟩
  · constructor
    · intro hrun
      cases hrun
      exact .none
    · intro hwritten
      cases hwritten
      rfl
  · refine hpart.trans ⟨.one, fun hwritten => ?_⟩
    cases hwritten with
    | one written => exact written
  · simp at h

-- ================================================================== flaws

theorem clauseFlaw?_eq_none_iff {catches finallies : Nat} :
    clauseFlaw? catches finallies = none
      ↔ catches ≤ 1 ∧ finallies ≤ 1 ∧ (catches ≠ 0 ∨ finallies ≠ 0) := by
  unfold clauseFlaw?
  grind

/-- Clauses that are wrong in number are all that is seen of a `try` form. -/
theorem tryBlock_of_flaw {args : List Node} {cause : MalformedTry}
    (h : clauseFlaw? (args.filterMap catchClause?).length (args.filterMap finallyClause?).length
      = some cause) :
    tryBlock args = .fail (.form (.malformedTry cause args)) := by
  unfold tryBlock
  generalize args.filterMap catchClause? = catches at h ⊢
  generalize args.filterMap finallyClause? = finallies at h ⊢
  rcases catches with _ | ⟨c, _ | ⟨c', cs⟩⟩
  · rcases finallies with _ | ⟨f, _ | ⟨f', fs⟩⟩
    · cases h
      rfl
    · cases h
    · cases h
      rfl
  · rcases finallies with _ | ⟨f, _ | ⟨f', fs⟩⟩
    · cases h
    · cases h
    · cases h
      rfl
  · cases h
    rfl

theorem tryBlock_of_no_flaw {args : List Node}
    (h : clauseFlaw? (args.filterMap catchClause?).length (args.filterMap finallyClause?).length
      = none) :
    tryBlock args
      = seq [.text "try\x7b\n", statements (args.filter (!isClause ·)), .text "\x7d\n",
          seq ((args.filterMap catchClause?).map (tryBlock.catchPart args)),
          seq ((args.filterMap finallyClause?).map tryBlock.finallyPart)] := by
  unfold tryBlock
  generalize args.filterMap catchClause? = catches at h ⊢
  generalize args.filterMap finallyClause? = finallies at h ⊢
  rcases catches with _ | ⟨c, _ | ⟨c', cs⟩⟩
  · rcases finallies with _ | ⟨f, _ | ⟨f', fs⟩⟩
    · cases h
    · rfl
    · cases h
  · rcases finallies with _ | ⟨f, _ | ⟨f', fs⟩⟩
    · rfl
    · rfl
    · cases h
  · cases h

theorem BlocksWritten.no_flaw {body : List Node} {catches finallies : List (List Node)}
    (h : BlocksWritten dedupe write body catches finallies r t r') :
    clauseFlaw? catches.length finallies.length = none := by
  cases h with
  | blocks some tried caught closed =>
      refine clauseFlaw?_eq_none_iff.2 ⟨caught.length_le, closed.length_le, ?_⟩
      simpa using some

/-- A `try` form is written exactly if the blocks of its parts are. -/
theorem run_tryBlock_ok_iff {args : List Node} :
    (tryBlock args).run dedupe write r = .ok t r'
      ↔ BlocksWritten dedupe write (args.filter (!isClause ·)) (args.filterMap catchClause?)
          (args.filterMap finallyClause?) r t r' := by
  cases hflaw : clauseFlaw? (args.filterMap catchClause?).length
      (args.filterMap finallyClause?).length with
  | some cause =>
      rw [tryBlock_of_flaw hflaw]
      constructor
      · intro h
        cases h
      · intro h
        rw [h.no_flaw] at hflaw
        cases hflaw
  | none =>
      obtain ⟨hcatches, hfinallies, hsome⟩ := clauseFlaw?_eq_none_iff.1 hflaw
      have htext (b c f : String) : "try\x7b\n" ++ (b ++ ("\x7d\n" ++ (c ++ f)))
          = braced "try" b ++ c ++ f := by
        simp only [braced, String.append_assoc]
        rfl
      have hclause : args.filterMap catchClause? ≠ [] ∨ args.filterMap finallyClause? ≠ [] := by
        simpa using hsome
      rw [tryBlock_of_no_flaw hflaw]
      simp only [seq, run, bind_assoc, pure_bind, htext]
      rw [EmitM.bind_ok_iff]
      constructor
      · rintro ⟨b, s, htried, hclauses⟩
        obtain ⟨c, s', hcaught, hlast⟩ := EmitM.bind_ok_iff.1 hclauses
        obtain ⟨f, s'', hclosed, hreturn⟩ := EmitM.bind_ok_iff.1 hlast
        cases hreturn
        exact .blocks hclause htried ((run_clauses_ok_iff run_catchPart_ok_iff hcatches).1 hcaught)
          ((run_clauses_ok_iff run_finallyPart_ok_iff hfinallies).1 hclosed)
      · intro h
        cases h with
        | @blocks s s' _ b c f _ tried caught closed =>
            refine ⟨b, s, tried, EmitM.bind_ok_iff.2 ⟨c, s', ?_, ?_⟩⟩
            · exact (run_clauses_ok_iff run_catchPart_ok_iff hcatches).2 caught
            · refine EmitM.bind_ok_iff.2 ⟨f, r', ?_, rfl⟩
              exact (run_clauses_ok_iff run_finallyPart_ok_iff hfinallies).2 closed

end Layout

-- =============================================================== emission

namespace Emitter

open Layout

/-- The clauses of a `try` form may stand anywhere among its arguments, where `try` is no
custom form.

- If a `try` form is written successfully, then so is one whose arguments have the same
  parts, from the same run, with the same text and the same effects. The text is the block
  of the body, then that of the catch clause if there is one, then that of the finally
  clause if there is one, each written from the run that the one before it left.
- With no clause at all, more than one catch clause or more than one finally clause, the
  form fails as malformed and leaves the run as it was. -/
theorem try_clauses_anywhere (e : Emitter) (htry : e.forms.get? "try" = none) (levels : Nat)
    (ns : Option String) :
    (∀ xs ys, SameParts xs ys → ∀ r t r',
      e.emitAt levels (.form (.sym ⟨"try", ns⟩ :: xs)) r = .ok t r' →
        e.emitAt levels (.form (.sym ⟨"try", ns⟩ :: ys)) r = .ok t r'
          ∧ BlocksWritten e.config.dedupe (e.emitAt levels) (xs.filter (!isClause ·))
              (xs.filterMap catchClause?) (xs.filterMap finallyClause?) r t r')
      ∧ ∀ xs,
        let catches := (xs.filterMap catchClause?).length
        let finallies := (xs.filterMap finallyClause?).length
        (catches = 0 ∧ finallies = 0) ∨ 1 < catches ∨ 1 < finallies →
          ∃ cause, clauseFlaw? catches finallies = some cause
            ∧ ∀ r, e.emitAt levels (.form (.sym ⟨"try", ns⟩ :: xs)) r
              = .error (.form (.malformedTry cause xs)) r := by
  have hspecial : SpecialForm.ofName? "try" = some .tryBlock := rfl
  have hemit (args : List Node) : e.emitAt levels (.form (.sym ⟨"try", ns⟩ :: args))
      = (tryBlock args).run e.config.dedupe (e.emitAt levels) :=
    e.emitAt_special ⟨"try", ns⟩ hspecial htry args
  constructor
  · intro xs ys hparts r t r' h
    rw [hemit] at h ⊢
    have hblocks := run_tryBlock_ok_iff.1 h
    have hblocks' := hblocks.of_perm hparts.catches hparts.finallies
    rw [hparts.body] at hblocks'
    exact ⟨run_tryBlock_ok_iff.2 hblocks', hblocks⟩
  · intro xs catches finallies hwrong
    cases hflaw : clauseFlaw? catches finallies with
    | none =>
        have hright := clauseFlaw?_eq_none_iff.1 hflaw
        omega
    | some cause =>
        refine ⟨cause, rfl, fun r => ?_⟩
        rw [hemit, tryBlock_of_flaw hflaw]
        rfl

open Node in
/-- Statements of a `try` form, one of which calls a keyword that is named like a clause. -/
def triedStatements : List Node :=
  [call "var" [symbol "a", .int 1], .form [.keyword ⟨"catch", none⟩, symbol "x"]]

open Node in
/-- A clause of either kind, each of which declares a name. -/
def declaringClauses : List Node :=
  [call "catch" [symbol "e", call "var" [symbol "b", .int 2]],
    call "finally" [call "var" [symbol "c", .int 3]]]

/-- The text of the statements with the clauses. -/
def triedText : String :=
  "try\x7b\na = 1;\ncatch(x);\n\x7d\n" ++ "catch(e)\x7b\nb = 2;\n\x7d\n"
    ++ "finally\x7b\nc = 3;\n\x7d\n"

/-- The clauses may stand in front of the statements, in the other order, or behind them, but
they must not be missing. -/
theorem triedStatements_anywhere :
    SameParts (declaringClauses.reverse ++ triedStatements) (triedStatements ++ declaringClauses)
      ∧ emitAt {} 0 (.form (.sym ⟨"try", none⟩ :: (triedStatements ++ declaringClauses)))
          { scope := some {} }
        = .ok triedText { scope := some { names := ["a", "b", "c"] } }
      ∧ emitAt {} 0 (.form (.sym ⟨"try", none⟩ :: triedStatements)) { scope := some {} }
        = .error (.form (.malformedTry .noClause triedStatements)) { scope := some {} } := by
  have hparts : SameParts (declaringClauses.reverse ++ triedStatements)
      (triedStatements ++ declaringClauses) := ⟨rfl, .refl _, .refl _⟩
  obtain ⟨hsame, hflawed⟩ := try_clauses_anywhere {} rfl 0 none
  have hfront : emitAt {} 0
      (.form (.sym ⟨"try", none⟩ :: (declaringClauses.reverse ++ triedStatements)))
      { scope := some {} } = .ok triedText { scope := some { names := ["a", "b", "c"] } } := rfl
  obtain ⟨cause, hcause, herror⟩ := hflawed triedStatements (.inl ⟨rfl, rfl⟩)
  cases hcause
  exact ⟨hparts, (hsame _ _ hparts _ _ _ hfront).1, herror _⟩

end Emitter

end FormScript
