/-
Declarations and assignments agree. Names with values may be declared in one `var` form,
assigned in one `set!` form, or declared one by one in a block of `var` forms. Where a scope
is open, all three write the same text or all three fail; they differ in when they declare
the names, so the two that do leave the same set of names, which is that of the third and the
names themselves. Where no scope is open, the two declarations still agree.

They fail with the same error, with one exception. The `var` form writes its values one by
one, the other two in an iteration, and if an expansion function says that an iteration is at
its end, this comes out of the first as it is and of the others as the failure of theirs
(`Error.iterated`).

# The argument

What is written does not depend on the names that a scope holds, so two emissions may run
side by side from runs that differ in these names only. `EmitM.Widens` says so of a pair of
computations, and how the names that the second one has in addition change on the way.
Sequencing keeps it, and every emission runs beside itself (`Emitter.emitAt_widens`).

Each of the three forms is a sequence of pieces, one for each name and its value, and the
pieces run side by side (`Layout.seq_widens`). One `var` form begins with all the names
declared: beside `set!` it has them in addition throughout, beside the block only those that
the block has not come to yet. The `var` form is put inside an iteration for the comparison,
which makes no difference to its text and its names.
-/
import FormScript.Proofs.Hoisting
import FormScript.Proofs.Sequencing
import FormScript.Proofs.Unscoped

namespace FormScript

-- ================================================================== scopes

namespace Scope

/-- A scope that holds some names in addition to those of another one, or none beside
none. -/
inductive Extends (xs : List String) : Option Scope → Option Scope → Prop
  | unopened : Extends xs none none
  | opened {s s' : Scope} (names : ∀ x, x ∈ s'.names ↔ x ∈ s.names ∨ x ∈ xs) :
      Extends xs (some s) (some s')

variable {xs : List String} {s s' : Option Scope}

theorem extends_refl (s : Option Scope) : Extends [] s s := by
  cases s with
  | none => exact .unopened
  | some s => exact .opened fun x => by simp

theorem Extends.isSome_eq (h : Extends xs s s') : s'.isSome = s.isSome := by
  cases h <;> rfl

/-- Names that are declared in the second scope are held in addition. -/
theorem Extends.declare_right (h : Extends [] s s') (names : List String) :
    Extends names s (s'.map (·.declareAll names)) := by
  cases h with
  | unopened => exact .unopened
  | opened hnames =>
      refine .opened fun x => ?_
      rw [mem_declareAll, hnames]
      simp

/-- A name that is declared in the first scope is no longer held in addition. -/
theorem Extends.declare_left {name : String} (h : Extends (name :: xs) s s') :
    Extends xs (s.map (·.declareAll [name])) s' := by
  cases h with
  | unopened => exact .unopened
  | opened hnames =>
      refine .opened fun x => ?_
      rw [hnames, mem_declareAll, List.mem_cons, List.mem_singleton, or_assoc]

/-- What both scopes declare makes no difference. -/
theorem Extends.declare_both (h : Extends xs s s') (names : List String) :
    Extends xs (s.map (·.declareAll names)) (s'.map (·.declareAll names)) := by
  cases h with
  | unopened => exact .unopened
  | opened hnames =>
      refine .opened fun x => ?_
      rw [mem_declareAll, mem_declareAll, hnames, or_right_comm]

end Scope

/-- A run that differs from another one in that its scope holds some names in addition. -/
structure Run.Extends (xs : List String) (r r' : Run) : Prop where
  streams : r'.streams = r.streams
  events : r'.events = r.events
  scope : Scope.Extends xs r.scope r'.scope

-- ============================================================ side by side

namespace EmitM

variable {α β : Type} {isOpen : Bool} {xs ys zs : List String} {m m' : EmitM α}

/-- A computation beside one whose scope holds names in addition, at the beginning and at
the end: both fail with the same error, or both succeed with the same result. Scopes are
open on both sides or on neither. -/
def Widens (isOpen : Bool) (xs ys : List String) (m m' : EmitM α) : Prop :=
  ∀ r r', Run.Extends xs r r' → r.scope.isSome = isOpen →
    (∃ a s s', m r = .ok a s ∧ m' r' = .ok a s' ∧ Run.Extends ys s s' ∧ s.scope.isSome = isOpen)
      ∨ ∃ e s s', m r = .error e s ∧ m' r' = .error e s'

theorem pure_widens (a : α) : Widens isOpen xs xs (pure a : EmitM α) (pure a) :=
  fun r r' h hopen => .inl ⟨a, r, r', rfl, rfl, h, hopen⟩

theorem bind_widens {f f' : α → EmitM β} (hm : Widens isOpen xs ys m m')
    (hf : ∀ a, Widens isOpen ys zs (f a) (f' a)) :
    Widens isOpen xs zs (m >>= f) (m' >>= f') := by
  intro r r' h hopen
  rcases hm r r' h hopen with ⟨a, s, s', hs, hs', hext, hopen'⟩ | ⟨e, s, s', hs, hs'⟩
  · rw [bind_ok hs, bind_ok hs']
    exact hf a s s' hext hopen'
  · exact .inr ⟨e, s, s', bind_error hs, bind_error hs'⟩

theorem iterated_widens (h : Widens isOpen xs ys m m') :
    Widens isOpen xs ys (iterated m) (iterated m') := by
  intro r r' hext hopen
  rcases h r r' hext hopen with ⟨a, s, s', hs, hs', hafter⟩ | ⟨e, s, s', hs, hs'⟩
  · exact .inl ⟨a, s, s', iterated_ok_iff.2 hs, iterated_ok_iff.2 hs', hafter⟩
  · exact .inr ⟨e.iterated, s, s', iterated_error hs, iterated_error hs'⟩

/-- The second computation may declare names first, which it then has in addition. -/
theorem Widens.declare_right {names : List String} (h : Widens isOpen names ys m m') :
    Widens isOpen [] ys m (declare names >>= fun _ => m') :=
  fun r r' hext hopen =>
    h r { r' with scope := r'.scope.map (·.declareAll names) }
      ⟨hext.streams, hext.events, hext.scope.declare_right names⟩ hopen

/-- The first computation may declare a name first that the second one has already. -/
theorem Widens.declare_left {name : String} (h : Widens isOpen xs ys m m') :
    Widens isOpen (name :: xs) ys (declare [name] >>= fun _ => m) m' :=
  fun r r' hext hopen =>
    h { r with scope := r.scope.map (·.declareAll [name]) } r'
      ⟨hext.streams, hext.events, hext.scope.declare_left⟩ (by rwa [Option.isSome_map])

/-- From one open scope, the second computation has the names in addition at the end. It is
put inside an iteration for the comparison. -/
theorem Widens.of_open (h : Widens true [] ys m (iterated m')) (s : Scope) (streams : Streams)
    (events : Array Event) :
    (∃ t a b streams' events', m ⟨some s, streams, events⟩ = .ok t ⟨some a, streams', events'⟩
      ∧ m' ⟨some s, streams, events⟩ = .ok t ⟨some b, streams', events'⟩
      ∧ ∀ x, x ∈ b.names ↔ x ∈ a.names ∨ x ∈ ys)
      ∨ ∃ err u v, m ⟨some s, streams, events⟩ = .error err.iterated u
        ∧ m' ⟨some s, streams, events⟩ = .error err v := by
  have hboth := h ⟨some s, streams, events⟩ _ ⟨rfl, rfl, Scope.extends_refl (some s)⟩ rfl
  refine hboth.imp ?_ ?_
  · rintro ⟨t, ⟨a, _, _⟩, ⟨b, _, _⟩, hm, hm', ⟨hstreams, hevents, hscope⟩, hopen⟩
    cases hstreams
    cases hevents
    cases hscope with
    | unopened => cases hopen
    | opened hnames => exact ⟨t, _, _, _, _, hm, iterated_ok_iff.1 hm', hnames⟩
  · rintro ⟨_, u, v, hm, hm'⟩
    obtain ⟨err, herr, rfl⟩ := iterated_error_iff.1 hm'
    exact ⟨err, u, v, hm, herr⟩

/-- Without a scope, both computations end in one run. -/
theorem Widens.of_unopened (h : Widens false [] ys m (iterated m')) (streams : Streams)
    (events : Array Event) :
    (∃ t u, m ⟨none, streams, events⟩ = .ok t u ∧ m' ⟨none, streams, events⟩ = .ok t u)
      ∨ ∃ err u v, m ⟨none, streams, events⟩ = .error err.iterated u
        ∧ m' ⟨none, streams, events⟩ = .error err v := by
  have hboth := h ⟨none, streams, events⟩ _ ⟨rfl, rfl, Scope.extends_refl none⟩ rfl
  refine hboth.imp ?_ ?_
  · rintro ⟨t, ⟨a, _, _⟩, ⟨b, _, _⟩, hm, hm', ⟨hstreams, hevents, hscope⟩, hopen⟩
    cases hstreams
    cases hevents
    cases hscope with
    | unopened => exact ⟨t, _, hm, iterated_ok_iff.1 hm'⟩
    | opened hnames => cases hopen
  · rintro ⟨_, u, v, hm, hm'⟩
    obtain ⟨err, herr, rfl⟩ := iterated_error_iff.1 hm'
    exact ⟨err, u, v, hm, herr⟩

theorem iterated_declare (names : List String) : iterated (declare names) = declare names := rfl

section Inline

variable {dedupe : Bool} {write : Node → EmitM String}

theorem run_inline (t : String) (r : Run) :
    (Layout.inline t).run dedupe write r = .ok (if r.scope.isSome then "" else t) r := rfl

/-- A text that is needed in place stands on both sides or on neither. -/
theorem inline_widens (t : String) :
    Widens isOpen xs xs ((Layout.inline t).run dedupe write)
      ((Layout.inline t).run dedupe write) := by
  intro r r' h hopen
  refine .inl ⟨_, r, r', run_inline t r, ?_, h, hopen⟩
  rw [run_inline, h.scope.isSome_eq]

/-- Where scopes are open there is no such text. -/
theorem blank_widens (t : String) :
    Widens true xs xs (pure "") ((Layout.inline t).run dedupe write) := by
  intro r r' h hopen
  refine .inl ⟨"", r, r', rfl, ?_, h, hopen⟩
  rw [run_inline, h.scope.isSome_eq, hopen]
  rfl

end Inline

end EmitM

/-- From any two open scopes an emission fails with the same error. -/
theorem Emitter.emitAt_error_of_open {e : Emitter} {levels : Nat} {n : Node} {s : Scope}
    {streams : Streams} {events : Array Event} {err : Error} {u : Run}
    (h : e.emitAt levels n ⟨some s, streams, events⟩ = .error err u) (s' : Scope) :
    ∃ u', e.emitAt levels n ⟨some s', streams, events⟩ = .error err u' := by
  -- without a scope both fail alike
  have hbare := (e.emitAt_unscoped levels n ⟨some s, streams, events⟩).error h
  have hother := e.emitAt_unscoped levels n ⟨some s', streams, events⟩
  cases h' : e.emitAt levels n ⟨some s', streams, events⟩ with
  | ok t u' =>
      obtain ⟨t', hok, -⟩ := hother.ok h'
      cases hbare.symm.trans hok
  | error err' u' =>
      injection hbare.symm.trans (hother.error h') with herr
      exact ⟨u', by rw [herr]⟩

/-- An emission runs beside itself, whatever names its scope holds. -/
theorem Emitter.emitAt_widens (e : Emitter) (levels : Nat) (n : Node) (isOpen : Bool)
    (xs : List String) : EmitM.Widens isOpen xs xs (e.emitAt levels n) (e.emitAt levels n) := by
  rintro ⟨scope, streams, events⟩ ⟨scope', streams', events'⟩ ⟨hstreams, hevents, hscope⟩ hopen
  cases hstreams
  cases hevents
  cases hscope with
  | unopened =>
      cases h : e.emitAt levels n ⟨none, streams, events⟩ with
      | ok t u =>
          have hnone : u.scope = none := ((e.emitAt_declares levels n).of_ok h).eq_none
          refine .inl ⟨t, u, u, rfl, rfl, ⟨rfl, rfl, ?_⟩, ?_⟩
          · rw [hnone]
            exact .unopened
          · rw [hnone]
            exact hopen
      | error err u => exact .inr ⟨err, u, u, rfl, rfl⟩
  | @opened s s' hnames =>
      cases h : e.emitAt levels n ⟨some s, streams, events⟩ with
      | ok t u =>
          obtain ⟨events', hall⟩ := e.emitAt_hoists levels n h
          have hself := h.symm.trans (hall s)
          cases hself
          refine .inl ⟨t, _, _, rfl, hall s', ⟨rfl, rfl, ?_⟩, hopen⟩
          exact (Scope.Extends.opened hnames).declare_both _
      | error err u =>
          obtain ⟨u', h'⟩ := emitAt_error_of_open h s'
          exact .inr ⟨err, u, u', rfl, h'⟩

-- ================================================================== pieces

namespace Layout

/-- Names and values in turn. -/
def inTurn (pairs : List (Node × Node)) : List Node := pairs.flatMap fun p => [p.1, p.2]

/-- The names of some pairs. -/
def namesOf (pairs : List (Node × Node)) : List String := pairs.map fun p => localName p.1

/-- How a name and its value are written in a declaration. -/
def initialised (p : Node × Node) : Layout :=
  seq [.inline "var ", .text (localName p.1 ++ " = "), .node p.2, .text separator]

/-- How a name and its value are written in an assignment. -/
def assigned (p : Node × Node) : Layout :=
  seq [.item p.1, .text " = ", .item p.2, .text separator]

theorem evens_inTurn (pairs : List (Node × Node)) : evens (inTurn pairs) = pairs.map Prod.fst := by
  induction pairs with
  | nil => rfl
  | cons p rest ih => exact congrArg (p.1 :: ·) ih

theorem initialisers_inTurn (pairs : List (Node × Node)) :
    initialisers (inTurn pairs) = pairs.map initialised := by
  induction pairs with
  | nil => rfl
  | cons p rest ih => exact congrArg (initialised p :: ·) ih

theorem assignments_inTurn (pairs : List (Node × Node)) :
    assignments (inTurn pairs) = pairs.map assigned := by
  induction pairs with
  | nil => rfl
  | cons p rest ih => exact congrArg (assigned p :: ·) ih

theorem length_inTurn (pairs : List (Node × Node)) :
    (inTurn pairs).length = 2 * pairs.length := by
  induction pairs with
  | nil => rfl
  | cons p rest ih =>
      show (inTurn rest).length + 2 = 2 * (rest.length + 1)
      omega

/-- A declaration of names with values declares all the names, then writes the pieces. -/
theorem declaration_inTurn {pairs : List (Node × Node)} (h : ∀ p ∈ pairs, p.1.isName) :
    declaration (inTurn pairs)
      = .append (.declare (namesOf pairs)) (seq (pairs.map initialised)) := by
  have hvalid : ∀ n ∈ evens (inTurn pairs), n.isName := by
    rw [evens_inTurn]
    exact List.forall_mem_map.2 h
  obtain ⟨names, hnames⟩ := declaredNames_ok_iff.2 hvalid
  have hlocal : names = namesOf pairs := by
    rw [declaredNames_ok hnames, evens_inTurn, List.map_map]
    rfl
  rw [declaration, hnames, initialisers_inTurn, hlocal]

variable {dedupe : Bool} {write : Node → EmitM String}

theorem run_ident {id : Ident} (h : isIdentifier id.name) (shown : String) :
    (ident shown id).run dedupe write = pure id.name := by
  rw [ident, if_pos h]
  rfl

/-- The text of a name and its value. -/
def settingText (n : Node) (value : String) : String :=
  localName n ++ " = " ++ value ++ separator

theorem run_initialised (p : Node × Node) :
    (initialised p).run dedupe write = do
      let x ← (inline "var ").run dedupe write
      let y ← write p.2
      return x ++ settingText p.1 y := by
  simp only [initialised, seq, run, bind_assoc, pure_bind, settingText, String.append_assoc]

theorem iterated_run_initialised (p : Node × Node) :
    EmitM.iterated ((initialised p).run dedupe write) = do
      let x ← (inline "var ").run dedupe write
      let y ← EmitM.iterated (write p.2)
      return x ++ settingText p.1 y := by
  have hinline : EmitM.iterated ((inline "var ").run dedupe write)
      = (inline "var ").run dedupe write := rfl
  simp only [run_initialised, EmitM.iterated_bind, EmitM.iterated_pure, hinline]

theorem run_assigned {p : Node × Node} (hname : write p.1 = pure (localName p.1)) :
    (assigned p).run dedupe write = do
      let y ← EmitM.iterated (write p.2)
      return settingText p.1 y := by
  simp only [assigned, seq, run, hname, EmitM.iterated_pure, bind_assoc, pure_bind, settingText,
    String.append_assoc]

theorem run_initialised_ends (p : Node × Node) : ((initialised p).run dedupe write).Ends := by
  intro r t r' h
  rw [run_initialised] at h
  obtain ⟨x, s, -, hmore⟩ := EmitM.bind_ok_iff.1 h
  obtain ⟨y, s', -, hreturn⟩ := EmitM.bind_ok_iff.1 hmore
  cases hreturn
  exact isTerminated_append _ (isTerminated_append _ rfl)

/-- Pieces run side by side if each does, where the names that the second side has in
addition depend on the pieces to come. The second side is inside an iteration. -/
theorem seq_widens {isOpen : Bool} {f g : Node × Node → Layout}
    (ahead : List (Node × Node) → List String) {pairs : List (Node × Node)}
    (h : ∀ p ∈ pairs, ∀ rest, EmitM.Widens isOpen (ahead (p :: rest)) (ahead rest)
      ((f p).run dedupe write) (EmitM.iterated ((g p).run dedupe write))) :
    EmitM.Widens isOpen (ahead pairs) (ahead []) ((seq (pairs.map f)).run dedupe write)
      (EmitM.iterated ((seq (pairs.map g)).run dedupe write)) := by
  induction pairs with
  | nil => exact EmitM.pure_widens ""
  | cons p rest ih =>
      simp only [List.map_cons, run_seq_cons, EmitM.iterated_bind, EmitM.iterated_pure]
      refine EmitM.bind_widens (h p (.head _) rest) fun x => ?_
      refine EmitM.bind_widens (ih fun q hq => h q (.tail _ hq)) fun y => ?_
      exact EmitM.pure_widens (x ++ y)

end Layout

-- =============================================================== emission

namespace Emitter

open Layout

variable (e : Emitter) (levels : Nat)

/-- A name is written as it is. -/
theorem emitAt_name {n : Node} (h : n.isName) : e.emitAt levels n = pure (localName n) := by
  cases n with
  | sym id =>
      rw [e.emitAt_of_not_custom rfl]
      exact run_ident h id.text
  | keyword id =>
      rw [e.emitAt_of_not_custom rfl]
      exact run_ident h (keywordText id)
  | _ => cases h

variable {e levels} {pairs : List (Node × Node)}

theorem initialised_widens (isOpen : Bool) (xs : List String) (p : Node × Node) :
    EmitM.Widens isOpen xs xs ((initialised p).run e.config.dedupe (e.emitAt levels))
      ((initialised p).run e.config.dedupe (e.emitAt levels)) := by
  rw [run_initialised]
  refine EmitM.bind_widens (EmitM.inline_widens "var ") fun x => ?_
  refine EmitM.bind_widens (e.emitAt_widens levels p.2 isOpen xs) fun y => ?_
  exact EmitM.pure_widens _

/-- Where a scope is open, an assignment is written like an initialised name inside an
iteration. -/
theorem assigned_widens {p : Node × Node} (h : p.1.isName) (xs : List String) :
    EmitM.Widens true xs xs ((assigned p).run e.config.dedupe (e.emitAt levels))
      (EmitM.iterated ((initialised p).run e.config.dedupe (e.emitAt levels))) := by
  have hblank : (assigned p).run e.config.dedupe (e.emitAt levels) = do
      let x ← pure ""
      let y ← EmitM.iterated (e.emitAt levels p.2)
      return x ++ settingText p.1 y := by
    simp only [run_assigned (e.emitAt_name levels h), pure_bind, String.empty_append]
  have hvalue := EmitM.iterated_widens (e.emitAt_widens levels p.2 true xs)
  rw [hblank, iterated_run_initialised]
  refine EmitM.bind_widens (EmitM.blank_widens "var ") fun x => ?_
  refine EmitM.bind_widens hvalue fun y => ?_
  exact EmitM.pure_widens _

/-- A declaration of some names with their values. -/
def declaring (pairs : List (Node × Node)) : Node := .form (.sym ⟨"var", none⟩ :: inTurn pairs)

/-- An assignment to the names. -/
def assigning (pairs : List (Node × Node)) : Node := .form (.sym ⟨"set!", none⟩ :: inTurn pairs)

/-- A block of declarations, one for each name. -/
def declaringApart (pairs : List (Node × Node)) : Node :=
  .form (.sym ⟨"do", none⟩ :: pairs.map fun p => declaring [p])

theorem emitAt_declaring (hvar : e.forms.get? "var" = none) (hnames : ∀ p ∈ pairs, p.1.isName) :
    e.emitAt levels (declaring pairs)
      = EmitM.declare (namesOf pairs) >>= fun _ =>
        (seq (pairs.map initialised)).run e.config.dedupe (e.emitAt levels) := by
  have hspecial : SpecialForm.ofName? "var" = some .declaration := rfl
  rw [declaring, e.emitAt_special ⟨"var", none⟩ hspecial hvar]
  show (declaration (inTurn pairs)).run _ _ = _
  rw [declaration_inTurn hnames]
  simp only [run, bind_assoc, pure_bind, String.empty_append, bind_pure]

theorem emitAt_assigning (hset : e.forms.get? "set!" = none) (hpairs : pairs ≠ []) :
    e.emitAt levels (assigning pairs)
      = (seq (pairs.map assigned)).run e.config.dedupe (e.emitAt levels) := by
  have hspecial : SpecialForm.ofName? "set!" = some .assignment := rfl
  have hlength := length_inTurn pairs
  have hpositive : 0 < pairs.length := List.length_pos_iff.2 hpairs
  have hwell : ((inTurn pairs).isEmpty || (inTurn pairs).length % 2 == 1) = false := by
    rw [Bool.or_eq_false_iff, List.isEmpty_eq_false_iff, ← List.length_pos_iff, hlength]
    exact ⟨by omega, beq_false_of_ne (by omega)⟩
  rw [assigning, e.emitAt_special ⟨"set!", none⟩ hspecial hset]
  show (if (inTurn pairs).isEmpty || (inTurn pairs).length % 2 == 1 then _ else _ : Layout).run
    _ _ = _
  rw [hwell, if_neg Bool.false_ne_true, assignments_inTurn]

/-- A declaration of one name, as a statement among others, is its piece with the name declared
first. -/
theorem run_statement_declaring (hvar : e.forms.get? "var" = none) {p : Node × Node}
    (hname : p.1.isName) :
    (statement (.item (declaring [p]))).run e.config.dedupe (e.emitAt levels)
      = EmitM.declare [localName p.1] >>= fun _ =>
        EmitM.iterated ((initialised p).run e.config.dedupe (e.emitAt levels)) := by
  have hends : (EmitM.iterated ((initialised p).run e.config.dedupe (e.emitAt levels))).Ends :=
    fun r t r' h => run_initialised_ends p r t r' (EmitM.iterated_ok_iff.1 h)
  have hone : e.emitAt levels (declaring [p]) = EmitM.declare [localName p.1] >>= fun _ =>
      (initialised p).run e.config.dedupe (e.emitAt levels) := by
    rw [emitAt_declaring hvar (List.forall_mem_singleton.2 hname), List.map_singleton, seq]
    rfl
  show (EmitM.iterated (e.emitAt levels (declaring [p])) >>= fun x => pure (terminate x)) = _
  rw [hone, EmitM.iterated_bind, EmitM.iterated_declare, bind_assoc,
    EmitM.bind_terminate hends pure, bind_pure]

-- ============================================================== agreement

/-- Where a scope is open, an assignment runs beside a declaration, which ends with the names
in addition. -/
theorem assigning_widens (hvar : e.forms.get? "var" = none) (hset : e.forms.get? "set!" = none)
    (hpairs : pairs ≠ []) (hnames : ∀ p ∈ pairs, p.1.isName) :
    EmitM.Widens true [] (namesOf pairs) (e.emitAt levels (assigning pairs))
      (EmitM.iterated (e.emitAt levels (declaring pairs))) := by
  rw [emitAt_assigning hset hpairs, emitAt_declaring hvar hnames, EmitM.iterated_bind,
    EmitM.iterated_declare]
  refine EmitM.Widens.declare_right ?_
  -- the names have been declared before the first piece
  exact seq_widens (fun _ => namesOf pairs) fun p hp _ => assigned_widens (hnames p hp) _

/-- Declarations one by one run beside a declaration of all the names, which ends with none in
addition. -/
theorem declaringApart_widens (hvar : e.forms.get? "var" = none)
    (hdo : e.forms.get? "do" = none) (hnames : ∀ p ∈ pairs, p.1.isName) (isOpen : Bool) :
    EmitM.Widens isOpen [] [] (e.emitAt levels (declaringApart pairs))
      (EmitM.iterated (e.emitAt levels (declaring pairs))) := by
  rw [declaringApart, emitAt_block hdo, statements, List.map_map, emitAt_declaring hvar hnames,
    EmitM.iterated_bind, EmitM.iterated_declare]
  refine EmitM.Widens.declare_right ?_
  -- the names of the pieces to come have been declared on one side only
  refine seq_widens namesOf fun p hp rest => ?_
  show EmitM.Widens isOpen (localName p.1 :: namesOf rest) (namesOf rest)
    ((statement (.item (declaring [p]))).run e.config.dedupe (e.emitAt levels)) _
  rw [run_statement_declaring hvar (hnames p hp)]
  exact (EmitM.iterated_widens (initialised_widens isOpen (namesOf rest) p)).declare_left

/-- Where a scope is open, a declaration, an assignment and declarations one by one write the
same text and leave the same streams and events, or all of them fail. Both declarations leave
the same names, which are those that the assignment leaves and the declared ones. Without a
scope both declarations write the same text and leave the same run, or both fail. In failing,
the assignment and the declarations one by one have the error that the error of the one
declaration is inside an iteration: the same one, unless it is that of an expansion function
that said an iteration was at its end. -/
theorem declarations_agree (e : Emitter) (hvar : e.forms.get? "var" = none)
    (hset : e.forms.get? "set!" = none) (hdo : e.forms.get? "do" = none) (levels : Nat)
    (pairs : List (Node × Node)) (hpairs : pairs ≠ []) (hnames : ∀ p ∈ pairs, p.1.isName)
    (streams : Streams) (events : Array Event) :
    (∀ s : Scope,
      (∃ t a b c streams' events',
        e.emitAt levels (declaring pairs) ⟨some s, streams, events⟩
            = .ok t ⟨some a, streams', events'⟩
          ∧ e.emitAt levels (assigning pairs) ⟨some s, streams, events⟩
            = .ok t ⟨some b, streams', events'⟩
          ∧ e.emitAt levels (declaringApart pairs) ⟨some s, streams, events⟩
            = .ok t ⟨some c, streams', events'⟩
          ∧ (∀ x, x ∈ a.names ↔ x ∈ c.names)
          ∧ ∀ x, x ∈ a.names ↔ x ∈ b.names ∨ x ∈ namesOf pairs)
        ∨ ∃ err u v w,
          e.emitAt levels (declaring pairs) ⟨some s, streams, events⟩ = .error err u
            ∧ e.emitAt levels (assigning pairs) ⟨some s, streams, events⟩
              = .error err.iterated v
            ∧ e.emitAt levels (declaringApart pairs) ⟨some s, streams, events⟩
              = .error err.iterated w)
      ∧ ((∃ t u, e.emitAt levels (declaring pairs) ⟨none, streams, events⟩ = .ok t u
            ∧ e.emitAt levels (declaringApart pairs) ⟨none, streams, events⟩ = .ok t u)
        ∨ ∃ err u w, e.emitAt levels (declaring pairs) ⟨none, streams, events⟩ = .error err u
            ∧ e.emitAt levels (declaringApart pairs) ⟨none, streams, events⟩
              = .error err.iterated w) := by
  have hapart (isOpen : Bool) : EmitM.Widens isOpen [] [] (e.emitAt levels (declaringApart pairs))
      (EmitM.iterated (e.emitAt levels (declaring pairs))) :=
    declaringApart_widens hvar hdo hnames isOpen
  constructor
  · intro s
    have hassign : EmitM.Widens true [] (namesOf pairs) (e.emitAt levels (assigning pairs))
        (EmitM.iterated (e.emitAt levels (declaring pairs))) :=
      assigning_widens hvar hset hpairs hnames
    -- both are compared with the declaration of all the names, which ends in one way
    rcases hassign.of_open s streams events with
      ⟨t, b, a, streams', events', hb, ha, hmore⟩ | ⟨err, v, u, hv, hu⟩
    · rcases (hapart true).of_open s streams events with
        ⟨_, c, _, _, _, hc, ha', hsame⟩ | ⟨_, _, _, -, hu⟩
      · cases ha.symm.trans ha'
        refine .inl ⟨t, a, b, c, _, _, ha, hb, hc, fun x => ?_, hmore⟩
        rw [hsame, or_iff_left List.not_mem_nil]
      · cases ha.symm.trans hu
    · rcases (hapart true).of_open s streams events with
        ⟨_, _, _, _, _, -, ha, -⟩ | ⟨_, w, _, hw, hu'⟩
      · cases ha.symm.trans hu
      · cases hu.symm.trans hu'
        exact .inr ⟨err, u, v, w, hu, hv, hw⟩
  · rcases (hapart false).of_unopened streams events with ⟨t, u, hc, ha⟩ | ⟨err, w, u, hw, hu⟩
    · exact .inl ⟨t, u, ha, hc⟩
    · exact .inr ⟨err, u, w, hu, hw⟩

/-- A form whose expansion says that an iteration is at its end. -/
def halting : Emitter :=
  { forms := Registry.empty.insert "halt"
      (CustomForm.constant fun _ => .error (.host (.exhausted ""))) }

open Node in
/-- Where the value of a name halts, the one declaration fails with what the form said, and
the assignment and the declarations one by one fail with something else, in a scope; and the
declarations do so without one. -/
theorem halting_disagrees :
    let pairs := [(symbol "x", call "halt" [])]
    let failure := fun (n : Node) (scope : Option Scope) =>
      match halting.emitAt 1 n { scope } with
      | .ok _ _ => none
      | .error err _ => some err
    failure (declaring pairs) (some {}) = some (.host (.exhausted ""))
      ∧ failure (assigning pairs) (some {}) = some (.host .brokenIteration)
      ∧ failure (declaringApart pairs) (some {}) = some (.host .brokenIteration)
      ∧ failure (declaring pairs) none = some (.host (.exhausted ""))
      ∧ failure (declaringApart pairs) none = some (.host .brokenIteration) :=
  ⟨rfl, rfl, rfl, rfl, rfl⟩

open Node in
/-- Two names, the first with a value that declares a third, the second with a countdown. -/
def settings : List (Node × Node) :=
  [(symbol "a", call "do" [call "var" [symbol "c", .int 2]]),
    (.keyword ⟨"b", none⟩, call "nest" [.int 1])]

/-- A scope with the name `x` ends with all four names after either kind of declaration, and
after the assignment with those that are not assigned to. -/
theorem settings_agree :
    (∃ b c, countingDown.emitAt 2 (assigning settings) { scope := some { names := ["x"] } }
          = .ok "a = c = 2;\n;\nb = 0;\n"
            { scope := some b
              streams := { nextStamp := 2 }
              events := #[.expanding "nest", .expanding "nest"] }
        ∧ countingDown.emitAt 2 (declaringApart settings) { scope := some { names := ["x"] } }
          = .ok "a = c = 2;\n;\nb = 0;\n"
            { scope := some c
              streams := { nextStamp := 2 }
              events := #[.expanding "nest", .expanding "nest"] }
        ∧ (∀ x, x ∈ ["x", "a", "b", "c"] ↔ x ∈ c.names)
        ∧ ∀ x, x ∈ ["x", "a", "b", "c"] ↔ x ∈ b.names ∨ x ∈ ["a", "b"])
      ∧ countingDown.emitAt 2 (declaringApart settings) {}
        = .ok "var a = var c = 2;\n;\nvar b = 0;\n"
          { streams := { nextStamp := 2 }
            events := #[.expanding "nest", .expanding "nest"] } := by
  have hdeclared : countingDown.emitAt 2 (declaring settings) { scope := some { names := ["x"] } }
      = .ok "a = c = 2;\n;\nb = 0;\n"
        { scope := some { names := ["x", "a", "b", "c"] }
          streams := { nextStamp := 2 }
          events := #[.expanding "nest", .expanding "nest"] } := rfl
  have hbare : countingDown.emitAt 2 (declaring settings) {}
      = .ok "var a = var c = 2;\n;\nvar b = 0;\n"
        { streams := { nextStamp := 2 }
          events := #[.expanding "nest", .expanding "nest"] } := rfl
  obtain ⟨hscoped, hunscoped⟩ := declarations_agree countingDown rfl rfl rfl 2 settings
    (List.cons_ne_nil _ _) (by decide) {} #[]
  constructor
  · rcases hscoped { names := ["x"] } with
      ⟨t, a, b, c, _, _, ha, hb, hc, hsame, hmore⟩ | ⟨err, u, _, _, hu, -⟩
    · cases hdeclared.symm.trans ha
      exact ⟨b, c, hb, hc, hsame, hmore⟩
    · cases hdeclared.symm.trans hu
  · rcases hunscoped with ⟨t, u, ha, hc⟩ | ⟨err, u, _, hu, -⟩
    · cases hbare.symm.trans ha
      exact hc
    · cases hbare.symm.trans hu

end Emitter

end FormScript
