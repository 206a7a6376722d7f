/-
The moments of an emission. An emission as a whole is a function from one run
to the next; this file says what lies between: `Emitter.Passes` relates a layout
and the run that its writing starts from to every moment on the way, before and
after each part of it, inside its children, inside expansions, inside bodies
with scopes of their own, and between any two names of one declaration.

At a moment inside a body the scope that is open is the body's own, and those
around it are set aside, so a `Moment` holds the run and the scopes set aside.

- The scope that was open at the start (`Moment.outermost`) only ever grows by
  valid names, from the start to each moment and from there to the end, however
  the emission ends (`Emitter.Passes.grows`).
- What is written on the way (`Emitter.Includes`) is a part of the layout, or of a
  child or an expansion, and the run that its own writing starts from.
-/
import FormScript.Proofs.Declaring

namespace FormScript

-- ================================================================ moments

/-- The state of an emission under way: the run, in which the innermost scope is
open, and the scopes set aside for it, the innermost of them first. -/
structure Moment where
  run : Run
  aside : List (Option Scope) := []

namespace Moment

/-- The scope that was open when the emission began. -/
def outermost (m : Moment) : Option Scope := m.aside.getLastD m.run.scope

/-- A moment of the writing of a body, for which a scope is set aside. -/
def within (m : Moment) (outer : Option Scope) : Moment :=
  { m with aside := m.aside ++ [outer] }

@[simp] theorem outermost_within (m : Moment) (outer : Option Scope) :
    (m.within outer).outermost = outer := by
  simp [outermost, within]

end Moment

/-- A run in which an expansion has been noted. -/
def Run.expanding (r : Run) (name : String) : Run :=
  { r with
    streams := r.streams.useStamp
    events := r.events.push (.expanding name) }

/-- While the items numbered from an index on are taken from a stream, one of
them is written from some run. -/
inductive EmitM.Takes (write : Node → EmitM String) (id : Identity) :
    (index : Nat) → (items : List Node) → (r : Run) → Node → Run → Prop
  | now {index : Nat} {n : Node} {rest : List Node} {r : Run}
      (left : r.streams.position id ≤ index) :
      Takes write id index (n :: rest) r n
        { r with streams := r.streams.advance id (index + 1) }
  | later {index : Nat} {n m : Node} {rest : List Node} {r s u : Run} {x : String}
      (left : r.streams.position id ≤ index)
      (written : write n { r with streams := r.streams.advance id (index + 1) } = .ok x s)
      (more : Takes write id (index + 1) rest s m u) :
      Takes write id index (n :: rest) r m u
  | passed {index : Nat} {n m : Node} {rest : List Node} {r u : Run}
      (gone : index < r.streams.position id)
      (more : Takes write id (index + 1) rest r m u) :
      Takes write id index (n :: rest) r m u

/-- The moments that an emitter passes when it writes a layout, with this many
levels of expansion left. -/
inductive Emitter.Passes (e : Emitter) : (levels : Nat) → Layout → Run → Moment → Prop
  | start {levels : Nat} {l : Layout} {r : Run} : e.Passes levels l r ⟨r, []⟩
  /-- The end, be it a success or a failure. -/
  | stop {levels : Nat} {l : Layout} {r : Run} :
      e.Passes levels l r ⟨(l.run e.config.dedupe (e.emitAt levels)).after r, []⟩
  | declaring {levels : Nat} {names : List String} {r : Run} (count : Nat) :
      e.Passes levels (.declare names) r
        ⟨{ r with scope := r.scope.map (·.declareAll (names.take count)) }, []⟩
  | first {levels : Nat} {a b : Layout} {r : Run} {m : Moment}
      (h : e.Passes levels a r m) : e.Passes levels (.append a b) r m
  | second {levels : Nat} {a b : Layout} {r s : Run} {x : String} {m : Moment}
      (written : a.run e.config.dedupe (e.emitAt levels) r = .ok x s)
      (h : e.Passes levels b s m) : e.Passes levels (.append a b) r m
  | back {levels : Nat} {a b : Layout} {r : Run} {m : Moment}
      (h : e.Passes levels b r m) : e.Passes levels (.late a b) r m
  | front {levels : Nat} {a b : Layout} {r s : Run} {y : String} {m : Moment}
      (written : b.run e.config.dedupe (e.emitAt levels) r = .ok y s)
      (h : e.Passes levels a s m) : e.Passes levels (.late a b) r m
  | twice {levels : Nat} {a : Layout} {between : String} {r : Run} {m : Moment}
      (h : e.Passes levels a r m) : e.Passes levels (.twice a between) r m
  | statement {levels : Nat} {a : Layout} {r : Run} {m : Moment}
      (h : e.Passes levels a r m) : e.Passes levels (.statement a) r m
  | inside {levels : Nat} {a : Layout} {r : Run} {m : Moment}
      (h : e.Passes levels a { r with scope := some { dedupe := e.config.dedupe } } m) :
      e.Passes levels (.enclosed a) r (m.within r.scope)
  | item {levels : Nat} {n : Node} {r : Run} {m : Moment}
      (h : e.Passes levels (.node n) r m) : e.Passes levels (.item n) r m
  | taking {levels : Nat} {id : Identity} {items : List Node} {n : Node} {r s : Run}
      {m : Moment} (taken : EmitM.Takes (e.emitAt levels) id 0 items r n s)
      (h : e.Passes levels (.node n) s m) : e.Passes levels (.stream id items) r m
  | child {levels : Nat} {n : Node} {r : Run} {m : Moment}
      (plain : e.forms.customCall? n = none) (h : e.Passes levels n.layout r m) :
      e.Passes levels (.node n) r m
  | expansion {levels : Nat} {n n' : Node} {call : Call} {r : Run} {m : Moment}
      (custom : e.forms.customCall? n = some call)
      (expanded : call.form.expand r.streams.nextStamp call.args = .ok n')
      (h : e.Passes levels (.node n') (r.expanding call.name) m) :
      e.Passes (levels + 1) (.node n) r m

-- ================================================================= growth

namespace EmitM

variable {α β : Type}

/-- A last step that only turns the result changes nothing in the run. -/
theorem after_map (m : EmitM α) (g : α → β) (r : Run) :
    (m >>= fun a => pure (g a)).after r = m.after r := by
  cases h : m r with
  | ok a s =>
      rw [after_of_ok h, after_congr (bind_ok h)]
      rfl
  | error e s => rw [after_of_error h, after_of_error (bind_error h)]

theorem after_bind_of_ok {m : EmitM α} {f : α → EmitM β} {r s : Run} {a : α}
    (h : m r = .ok a s) : (m >>= f).after r = (f a).after s :=
  after_congr (bind_ok h)

/-- The open scope grows until an item is written, and after that until the
stream has been read. -/
theorem Takes.grows {write : Node → EmitM String} {id : Identity} {index : Nat}
    {items : List Node} {n : Node} {r s : Run}
    (h : Takes write id index items r n s) (hwrite : ∀ n, (write n).Declares) :
    Scope.GrowsTo r.scope s.scope
      ∧ Scope.GrowsTo ((write n).after s).scope
          ((takeAll write id index items).after r).scope := by
  have hrest (items : List Node) (index : Nat) (x : String) :
      Declares (do
        let xs ← takeAll write id index items
        return x :: xs : EmitM (List String)) :=
    bind_declares (takeAll_declares id (fun n _ => hwrite n) index) fun xs =>
      pure_declares (x :: xs)
  induction h with
  | @now index n rest r left =>
      refine ⟨Scope.growsTo_refl _, ?_⟩
      rw [after_congr (takeAll_cons_eq_of_le left)]
      exact after_bind_grows (hrest rest (index + 1)) _
  | @later index n m rest r s u x left written more ih =>
      refine ⟨((hwrite n).of_ok written).trans ih.1, ?_⟩
      rw [after_congr (takeAll_cons_eq_of_le left), after_bind_of_ok written, after_map]
      exact ih.2
  | @passed index n m rest r u gone more ih =>
      refine ⟨ih.1, ?_⟩
      rw [after_congr (takeAll_cons_of_lt gone)]
      exact ih.2

variable {write : Node → EmitM String} {id : Identity} {index : Nat} {n : Node}
  {rest : List Node} {r : Run}

/-- What is written of a stream whose next item is at hand: this item, then some
of the rest. -/
theorem exists_takes_iff_of_le {D : Node → Run → Prop} {x : String} {s : Run}
    (left : r.streams.position id ≤ index)
    (written : write n { r with streams := r.streams.advance id (index + 1) } = .ok x s) :
    (∃ m u, Takes write id index (n :: rest) r m u ∧ D m u)
      ↔ D n { r with streams := r.streams.advance id (index + 1) }
        ∨ ∃ m u, Takes write id (index + 1) rest s m u ∧ D m u := by
  constructor
  · rintro ⟨m, u, htakes, hD⟩
    cases htakes with
    | now => exact .inl hD
    | later _ written' more =>
        rw [written] at written'
        cases written'
        exact .inr ⟨m, u, more, hD⟩
    | passed gone => omega
  · rintro (hD | ⟨m, u, htakes, hD⟩)
    · exact ⟨n, _, .now left, hD⟩
    · exact ⟨m, u, .later left written htakes, hD⟩

theorem exists_takes_iff_of_lt {D : Node → Run → Prop}
    (gone : index < r.streams.position id) :
    (∃ m u, Takes write id index (n :: rest) r m u ∧ D m u)
      ↔ ∃ m u, Takes write id (index + 1) rest r m u ∧ D m u := by
  constructor
  · rintro ⟨m, u, htakes, hD⟩
    cases htakes with
    | now left => omega
    | later left => omega
    | passed _ more => exact ⟨m, u, more, hD⟩
  · rintro ⟨m, u, htakes, hD⟩
    exact ⟨m, u, .passed gone htakes, hD⟩

end EmitM

namespace Emitter

variable {e : Emitter} {levels : Nat}

/-- What an expansion leaves is what its call leaves. -/
theorem after_expansion {n n' : Node} {call : Call} {r : Run}
    (custom : e.forms.customCall? n = some call)
    (expanded : call.form.expand r.streams.nextStamp call.args = .ok n') :
    (e.emitAt (levels + 1) n).after r
      = (e.emitAt levels n').after (r.expanding call.name) := by
  have hbegin : EmitM.beginExpansion call.name r
      = .ok r.streams.nextStamp (r.expanding call.name) := rfl
  rw [e.emitAt_succ_custom custom, Call.expandWith, EmitM.after_bind_of_ok hbegin, expanded]
  rfl

/-- The scope that is open at the start grows by valid names up to any moment,
and from there to the end. -/
theorem Passes.grows {l : Layout} {r : Run} {m : Moment} (h : e.Passes levels l r m)
    (hl : l.NamesValid) :
    Scope.GrowsTo r.scope m.outermost
      ∧ Scope.GrowsTo m.outermost
          ((l.run e.config.dedupe (e.emitAt levels)).after r).scope := by
  induction h with
  | start => exact ⟨Scope.growsTo_refl _, e.run_declares _ hl _⟩
  | stop => exact ⟨e.run_declares _ hl _, Scope.growsTo_refl _⟩
  | @declaring levels names r count =>
      refine ⟨⟨names.take count, fun x hx => hl x (List.mem_of_mem_take hx), rfl⟩,
        ⟨names.drop count, fun x hx => hl x (List.mem_of_mem_drop hx), ?_⟩⟩
      show r.scope.map _ = (r.scope.map _).map _
      cases r.scope with
      | none => rfl
      | some s =>
          show some (s.declareAll names)
            = some ((s.declareAll (names.take count)).declareAll (names.drop count))
          rw [← Scope.declareAll_append, List.take_append_drop]
  | @first levels a b r m h ih =>
      obtain ⟨hbefore, hbehind⟩ := ih hl.1
      refine ⟨hbefore, hbehind.trans ?_⟩
      exact EmitM.after_bind_grows (fun x => EmitM.bind_declares (e.run_declares _ hl.2)
        fun y => EmitM.pure_declares (x ++ y)) r
  | @second levels a b r s x m written h ih =>
      obtain ⟨hbefore, hbehind⟩ := ih hl.2
      refine ⟨((e.run_declares levels hl.1).of_ok written).trans hbefore, ?_⟩
      rw [Layout.run, EmitM.after_bind_of_ok written, EmitM.after_map]
      exact hbehind
  | @back levels a b r m h ih =>
      obtain ⟨hbefore, hbehind⟩ := ih hl.2
      refine ⟨hbefore, hbehind.trans ?_⟩
      exact EmitM.after_bind_grows (fun y => EmitM.bind_declares (e.run_declares _ hl.1)
        fun x => EmitM.pure_declares (x ++ y)) r
  | @front levels a b r s y m written h ih =>
      obtain ⟨hbefore, hbehind⟩ := ih hl.1
      refine ⟨((e.run_declares levels hl.2).of_ok written).trans hbefore, ?_⟩
      rw [Layout.run, EmitM.after_bind_of_ok written, EmitM.after_map]
      exact hbehind
  | twice h ih =>
      rw [Layout.run, EmitM.after_map]
      exact ih hl
  | statement h ih =>
      rw [Layout.run, EmitM.after_map]
      exact ih hl
  | @inside levels a r m h ih =>
      rw [Moment.outermost_within, Layout.run, EmitM.inScope_scope]
      exact ⟨Scope.growsTo_refl _, Scope.growsTo_refl _⟩
  | item h ih =>
      rw [Layout.run, EmitM.after_iterated]
      exact ih trivial
  | @taking levels id items n r s m taken h ih =>
      obtain ⟨hbefore, hbehind⟩ := ih trivial
      obtain ⟨htaken, hrest⟩ := taken.grows (e.emitAt_declares levels)
      rw [Layout.run, EmitM.after_map, EmitM.after_iterated]
      exact ⟨htaken.trans hbefore, hbehind.trans hrest⟩
  | @child levels n r m plain h ih =>
      rw [Layout.run, e.emitAt_of_not_custom plain]
      exact ih n.layout_announced.namesValid
  | @expansion levels n n' call r m custom expanded h ih =>
      rw [Layout.run, after_expansion custom expanded]
      exact ih trivial

-- ======================================================= what is included

/-- While a layout is written from a run, with this many levels of expansion
left, another one is written from a run of its own, with the levels that are left
by then. -/
inductive Includes (e : Emitter) :
    (levels : Nat) → Layout → Run → (levels' : Nat) → Layout → Run → Prop
  | here {levels : Nat} {l : Layout} {r : Run} : e.Includes levels l r levels l r
  | first {levels k : Nat} {a b l : Layout} {r u : Run} (h : e.Includes levels a r k l u) :
      e.Includes levels (.append a b) r k l u
  | second {levels k : Nat} {a b l : Layout} {r s u : Run} {x : String}
      (written : a.run e.config.dedupe (e.emitAt levels) r = .ok x s)
      (h : e.Includes levels b s k l u) : e.Includes levels (.append a b) r k l u
  | back {levels k : Nat} {a b l : Layout} {r u : Run} (h : e.Includes levels b r k l u) :
      e.Includes levels (.late a b) r k l u
  | front {levels k : Nat} {a b l : Layout} {r s u : Run} {y : String}
      (written : b.run e.config.dedupe (e.emitAt levels) r = .ok y s)
      (h : e.Includes levels a s k l u) : e.Includes levels (.late a b) r k l u
  | twice {levels k : Nat} {a l : Layout} {between : String} {r u : Run}
      (h : e.Includes levels a r k l u) : e.Includes levels (.twice a between) r k l u
  | statement {levels k : Nat} {a l : Layout} {r u : Run} (h : e.Includes levels a r k l u) :
      e.Includes levels (.statement a) r k l u
  | inside {levels k : Nat} {a l : Layout} {r u : Run}
      (h : e.Includes levels a { r with scope := some { dedupe := e.config.dedupe } } k l u) :
      e.Includes levels (.enclosed a) r k l u
  | item {levels k : Nat} {n : Node} {l : Layout} {r u : Run}
      (h : e.Includes levels (.node n) r k l u) : e.Includes levels (.item n) r k l u
  | taking {levels k : Nat} {id : Identity} {items : List Node} {n : Node} {l : Layout}
      {r s u : Run} (taken : EmitM.Takes (e.emitAt levels) id 0 items r n s)
      (h : e.Includes levels (.node n) s k l u) : e.Includes levels (.stream id items) r k l u
  | child {levels k : Nat} {n : Node} {l : Layout} {r u : Run}
      (plain : e.forms.customCall? n = none) (h : e.Includes levels n.layout r k l u) :
      e.Includes levels (.node n) r k l u
  | expansion {levels k : Nat} {n n' : Node} {call : Call} {l : Layout} {r u : Run}
      (custom : e.forms.customCall? n = some call)
      (expanded : call.form.expand r.streams.nextStamp call.args = .ok n')
      (h : e.Includes levels (.node n') (r.expanding call.name) k l u) :
      e.Includes (levels + 1) (.node n) r k l u

end Emitter

end FormScript
