/-
Sequencing flattens. Statements that stand in a `do` form of their own may as well
stand among the statements around it, and several forms that are put together as a
fragment make the program that they make one after another.

# The argument

A list of statements is written piece by piece (`Layout.run_statements_append`), and
every statement ends in the separator, so a block that holds at least one does too. To
the list around it such a block is a statement that is terminated already: terminating
it adds nothing, and what is left is the list of its own statements. An empty block has
no end, and terminating it leaves an empty statement; this is why blocks must not be
empty here.
-/
import FormScript.Proofs.Cutoff

namespace FormScript

-- ============================================================ termination

theorem isTerminated_iff {text : String} :
    isTerminated text ↔ separator.toList <:+ text.toList :=
  List.isSuffixOf_iff_suffix

/-- Only the end of a text matters. -/
theorem isTerminated_append (x : String) {y : String} (h : isTerminated y) :
    isTerminated (x ++ y) := by
  rw [isTerminated_iff] at h ⊢
  rw [String.toList_append]
  exact h.trans (List.suffix_append _ _)

theorem isTerminated_terminate (text : String) : isTerminated (terminate text) := by
  unfold terminate
  split
  · assumption
  · exact isTerminated_append text rfl

theorem terminate_of_isTerminated {text : String} (h : isTerminated text) :
    terminate text = text :=
  if_pos h

namespace EmitM

/-- A computation whose text, if it gives one, is terminated. -/
def Ends (m : EmitM String) : Prop := ∀ r t r', m r = .ok t r' → isTerminated t

/-- A text that is terminated is not terminated once more. -/
theorem bind_terminate {α : Type} {m : EmitM String} (hm : m.Ends) (f : String → EmitM α) :
    (m >>= fun x => f (terminate x)) = m >>= f := by
  funext r
  cases h : m r with
  | ok t s => rw [bind_ok h, bind_ok h, terminate_of_isTerminated (hm r t s h)]
  | error e s => rw [bind_error h, bind_error h]

end EmitM

-- ============================================================= statements

namespace Layout

variable {dedupe : Bool} {write : Node → EmitM String}

/-- One part, then the others. -/
theorem run_seq_cons (l : Layout) (ls : List Layout) :
    (seq (l :: ls)).run dedupe write = do
      let x ← l.run dedupe write
      let y ← (seq ls).run dedupe write
      return x ++ y := by
  cases ls with
  | nil =>
      show l.run dedupe write = l.run dedupe write >>= fun x => pure "" >>= fun y => pure (x ++ y)
      simp only [pure_bind, String.append_empty, bind_pure]
  | cons m ls => rfl

theorem run_statements_nil : (statements []).run dedupe write = pure "" := rfl

/-- One statement, then the others. -/
theorem run_statements_cons (n : Node) (rest : List Node) :
    (statements (n :: rest)).run dedupe write = do
      let x ← EmitM.iterated (write n)
      let y ← (statements rest).run dedupe write
      return terminate x ++ y := by
  rw [statements, List.map_cons, run_seq_cons]
  show ((EmitM.iterated (write n) >>= fun x => pure (terminate x)) >>= _) = _
  simp only [bind_assoc, pure_bind]
  rfl

/-- A list of statements is written piece by piece. -/
theorem run_statements_append (xs ys : List Node) :
    (statements (xs ++ ys)).run dedupe write = do
      let x ← (statements xs).run dedupe write
      let y ← (statements ys).run dedupe write
      return x ++ y := by
  induction xs with
  | nil =>
      simp only [List.nil_append, run_statements_nil, pure_bind, String.empty_append, bind_pure]
  | cons n xs ih =>
      simp only [List.cons_append, run_statements_cons, ih, bind_assoc, pure_bind,
        String.append_assoc]

/-- Statements are written by an iteration, so another one around it makes no
difference. -/
theorem iterated_run_statements (ns : List Node) :
    EmitM.iterated ((statements ns).run dedupe write) = (statements ns).run dedupe write := by
  induction ns with
  | nil => rfl
  | cons n rest ih =>
      simp only [run_statements_cons, EmitM.iterated_bind, EmitM.iterated_iterated,
        EmitM.iterated_pure, ih]

/-- Statements, if there are any, end as the last of them does. -/
theorem run_statements_ends {ns : List Node} (h : ns ≠ []) :
    ((statements ns).run dedupe write).Ends := by
  induction ns with
  | nil => exact absurd rfl h
  | cons n rest ih =>
      intro r t r' ht
      rw [run_statements_cons] at ht
      obtain ⟨x, s, hx, hmore⟩ := EmitM.bind_ok_iff.1 ht
      obtain ⟨y, s', hy, hreturn⟩ := EmitM.bind_ok_iff.1 hmore
      cases hreturn
      cases rest with
      | nil =>
          cases hy
          rw [String.append_empty]
          exact isTerminated_terminate x
      | cons m rest =>
          have hrest : isTerminated y := ih (List.cons_ne_nil m rest) s y r' hy
          exact isTerminated_append _ hrest

/-- A node that is written as a block of statements may be replaced by them. -/
theorem run_statements_flatten {block : Node} {ys : List Node} (hys : ys ≠ [])
    (hblock : write block = (statements ys).run dedupe write) (xs zs : List Node) :
    (statements (xs ++ block :: zs)).run dedupe write
      = (statements (xs ++ ys ++ zs)).run dedupe write := by
  have hends : ((statements ys).run dedupe write).Ends := run_statements_ends hys
  have hterminated := EmitM.bind_terminate hends fun x => do
    let y ← (statements zs).run dedupe write
    return x ++ y
  rw [List.append_assoc, run_statements_append xs, run_statements_append xs, run_statements_cons,
    hblock, iterated_run_statements, hterminated, run_statements_append ys]

end Layout

-- ================================================================= blocks

namespace Emitter

/-- Where `do` is no custom form, a block is written as its statements. -/
theorem emitAt_block {e : Emitter} (hdo : e.forms.get? "do" = none) (levels : Nat)
    (ns : Option String) (ys : List Node) :
    e.emitAt levels (.form (.sym ⟨"do", ns⟩ :: ys))
      = (Layout.statements ys).run e.config.dedupe (e.emitAt levels) := by
  have hspecial : SpecialForm.ofName? "do" = some .block := rfl
  exact e.emitAt_special ⟨"do", ns⟩ hspecial hdo ys

/-- Where `do` is no custom form, a fragment is written as a program like its forms. -/
theorem emitProgram_fragment {e : Emitter} (hdo : e.forms.get? "do" = none) (forms : List Node) :
    e.emitProgram [.fragment forms] = e.emitProgram forms := by
  have hblock : e.emit (.form (.sym ⟨"do", none⟩ :: forms))
      = (Layout.statements forms).run e.config.dedupe e.emit := emitAt_block hdo _ none forms
  rcases forms with _ | ⟨n, _ | ⟨m, rest⟩⟩
  · -- a scope is opened for the fragment although there is nothing to write in it
    show EmitM.inScope e.newScope (e.emit (.form [.sym ⟨"do", none⟩])) = _
    rw [hblock]
    rfl
  · rfl
  · show EmitM.inScope e.newScope (e.emit (.form (.sym ⟨"do", none⟩ :: n :: m :: rest))) = _
    rw [hblock]
    rfl

/-- Sequencing flattens, where `do` is no custom form. A block with at least one
statement is written like its statements, wherever it stands among others and however
many levels of expansion are left; and a fragment of any number of forms is the program
of these forms. Both hold from every run, whether they succeed or fail. -/
theorem block_flattens (e : Emitter) (hdo : e.forms.get? "do" = none) :
    (∀ (levels : Nat) (ns : Option String) (xs ys zs : List Node), ys ≠ [] →
      (Layout.statements (xs ++ .form (.sym ⟨"do", ns⟩ :: ys) :: zs)).run e.config.dedupe
          (e.emitAt levels)
        = (Layout.statements (xs ++ ys ++ zs)).run e.config.dedupe (e.emitAt levels))
    ∧ ∀ forms : List Node, e.emitProgram [.fragment forms] = e.emitProgram forms :=
  ⟨fun levels ns xs ys zs hys =>
    Layout.run_statements_flatten hys (emitAt_block hdo levels ns ys) xs zs,
    emitProgram_fragment hdo⟩

/-- An empty block is no exception to termination: it becomes an empty statement. -/
example : ({} : Emitter).emitLayout (.statements [.form [.sym ⟨"do", none⟩]]) {}
    = .ok ";\n" {} := rfl

/-- A declaration and a countdown. -/
def preparation : List Node :=
  [.form [.sym ⟨"var", none⟩, .sym ⟨"a", none⟩, .int 1],
    .form [.sym ⟨"nest", none⟩, .int 1]]

/-- They may stand in a block between a call and an exit; without the call, they are the
program that their fragment is. -/
theorem preparation_flattened :
    (Layout.statements [.form [.sym ⟨"start", none⟩],
          .form (.sym ⟨"do", none⟩ :: preparation), .form [.sym ⟨"break", none⟩]]).run true
        (countingDown.emitAt 2) { scope := some {} }
      = .ok "start();\na = 1;\n0;\nbreak;\n"
          { scope := some { names := ["a"] }
            streams := { nextStamp := 2 }
            events := #[.expanding "nest", .expanding "nest"] }
    ∧ countingDown.emitProgram [.fragment preparation] {}
      = .ok "var a;\na = 1;\n0;\n"
          { streams := { nextStamp := 2 }
            events := #[.expanding "nest", .expanding "nest"] } := by
  have hdo : countingDown.forms.get? "do" = none := rfl
  obtain ⟨hflat, hprogram⟩ := block_flattens countingDown hdo
  have hys : preparation ≠ [] := List.cons_ne_nil _ _
  have hblock := hflat 2 none [.form [.sym ⟨"start", none⟩]] preparation
    [.form [.sym ⟨"break", none⟩]] hys
  exact ⟨(congrFun hblock _).trans rfl, (congrFun (hprogram preparation) _).trans rfl⟩

end Emitter

end FormScript
