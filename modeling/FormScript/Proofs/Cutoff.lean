/-
The expansion limit only cuts emissions off. An emission that does not end
because a call is refused ends in the same way under every higher limit,
with the same effects; one that does end so has made, up to there, the same
notes that it makes under a higher limit.

# The argument

An emission is handed its levels of expansion apart from the limit in its
settings, and that limit is read for one purpose: a refused call names it in
its error. So the limit in the settings is a label, and an emission whose
error shows the label, whichever label there is, has ended in a refusal
(`Emitter.Refuses`). An expansion may well fail with an error that looks like
a refusal, but it knows no label.

`EmitM.Truncates m m'` compares two computations that are given a label:
either `m` is refused a call, and then what it noted before is the front of
what `m'` notes, or both end in the same way and show no label. Sequencing
keeps this (`EmitM.bind_truncates`), so layouts do, and so does emission
with fewer levels compared to emission with more (`Emitter.emitAt_truncates`).
-/
import FormScript.Proofs.Emission
import FormScript.Registry.Stock

namespace FormScript

-- ================================================================== notes

namespace EmitM

variable {α β : Type}

/-- What has been noted by the end, be it a success or a failure. -/
def notes : EStateM.Result Error Run α → List Event
  | .ok _ s => s.events.toList
  | .error _ s => s.events.toList

/-- A computation that takes no note back. -/
def KeepsNotes (m : EmitM α) : Prop := ∀ r, r.events.toList <+: notes (m r)

theorem pure_keepsNotes (a : α) : KeepsNotes (pure a : EmitM α) :=
  fun _ => List.prefix_rfl

theorem throw_keepsNotes (e : Error) : KeepsNotes (throw e : EmitM α) :=
  fun _ => List.prefix_rfl

/-- What follows a step keeps the notes that the step leaves. -/
theorem notes_bind {m : EmitM α} {f : α → EmitM β}
    (hf : ∀ a, KeepsNotes (f a)) (r : Run) :
    notes (m r) <+: notes ((m >>= f) r) := by
  cases hm : m r with
  | ok a s =>
      rw [bind_ok hm]
      exact hf a s
  | error e s =>
      rw [bind_error hm]
      exact List.prefix_rfl

theorem bind_keepsNotes {m : EmitM α} {f : α → EmitM β}
    (hm : KeepsNotes m) (hf : ∀ a, KeepsNotes (f a)) :
    KeepsNotes (m >>= f) :=
  fun r => (hm r).trans (notes_bind hf r)

/-- A scope that is opened and closed again makes no difference to the
notes. -/
theorem notes_inScope (scope : Scope) (body : EmitM String) (r : Run) :
    notes (inScope scope body r)
      = notes (body { r with scope := some scope }) := by
  unfold inScope
  cases body { r with scope := some scope } with
  | ok x s => rfl
  | error e s => rfl

theorem inScope_keepsNotes {body : EmitM String} (scope : Scope)
    (h : KeepsNotes body) : KeepsNotes (inScope scope body) := by
  intro r
  rw [notes_inScope]
  exact h { r with scope := some scope }

/-- Nor does an iteration around a part. -/
theorem notes_iterated (m : EmitM α) (r : Run) :
    notes (iterated m r) = notes (m r) := by
  unfold iterated
  cases m r with
  | ok a s => rfl
  | error e s => rfl

theorem iterated_keepsNotes {m : EmitM α} (h : KeepsNotes m) :
    KeepsNotes (iterated m) := by
  intro r
  rw [notes_iterated]
  exact h r

theorem ofExcept_keepsNotes (x : Except Error α) : KeepsNotes (ofExcept x) := by
  cases x with
  | ok a => exact pure_keepsNotes a
  | error e => exact throw_keepsNotes e

theorem takeAll_keepsNotes {write : Node → EmitM String} (id : Identity)
    {items : List Node} (h : ∀ n ∈ items, KeepsNotes (write n)) (index : Nat) :
    KeepsNotes (takeAll write id index items) := by
  induction items generalizing index with
  | nil => exact pure_keepsNotes []
  | cons n rest ih =>
      have hrest := ih fun m hm => h m (.tail _ hm)
      have htaken := bind_keepsNotes (h n (.head _)) fun text =>
        bind_keepsNotes (hrest (index + 1)) fun texts =>
          pure_keepsNotes (text :: texts)
      intro r
      by_cases hpos : r.streams.position id ≤ index
      · rw [takeAll_cons_eq_of_le hpos]
        exact htaken { r with streams := r.streams.advance id (index + 1) }
      · rw [takeAll_cons_of_lt (by omega)]
        exact hrest (index + 1) r

end EmitM

theorem Layout.run_keepsNotes {dedupe : Bool} {write : Node → EmitM String}
    {l : Layout} (h : l.All fun n => EmitM.KeepsNotes (write n)) :
    EmitM.KeepsNotes (l.run dedupe write) := by
  induction l with
  | text s => exact EmitM.pure_keepsNotes s
  | node n => exact h
  | item n => exact EmitM.iterated_keepsNotes h
  | fail e => exact EmitM.throw_keepsNotes e
  | append a b iha ihb =>
      exact EmitM.bind_keepsNotes (iha h.1) fun x =>
        EmitM.bind_keepsNotes (ihb h.2) fun y => EmitM.pure_keepsNotes (x ++ y)
  | late a b iha ihb =>
      exact EmitM.bind_keepsNotes (ihb h.2) fun y =>
        EmitM.bind_keepsNotes (iha h.1) fun x => EmitM.pure_keepsNotes (x ++ y)
  | twice a between ih =>
      exact EmitM.bind_keepsNotes (ih h) fun _ => EmitM.pure_keepsNotes _
  | statement a ih =>
      exact EmitM.bind_keepsNotes (ih h) fun _ => EmitM.pure_keepsNotes _
  | declare names => exact fun _ => List.prefix_rfl
  | inline s => exact fun _ => List.prefix_rfl
  | enclosed a ih => exact EmitM.inScope_keepsNotes _ (ih h)
  | stream id items =>
      have hitems := EmitM.iterated_keepsNotes (EmitM.takeAll_keepsNotes id h 0)
      exact EmitM.bind_keepsNotes hitems fun _ => EmitM.pure_keepsNotes _

/-- A call notes its expansion and takes no note back. -/
theorem Call.expandWith_keepsNotes {write : Node → EmitM String} (call : Call)
    (h : ∀ n, EmitM.KeepsNotes (write n)) :
    EmitM.KeepsNotes (call.expandWith write) := by
  refine EmitM.bind_keepsNotes (fun r => ?_) fun stamp =>
    EmitM.bind_keepsNotes (EmitM.ofExcept_keepsNotes _) h
  show r.events.toList <+: (r.events.push (.expanding call.name)).toList
  rw [Array.toList_push]
  exact List.prefix_append _ _

/-- An emission takes no note back. -/
theorem Emitter.emitAt_keepsNotes (e : Emitter) (levels : Nat) (n : Node) :
    EmitM.KeepsNotes (e.emitAt levels n) := by
  refine e.emission_induction
    (P := fun levels n => EmitM.KeepsNotes (e.emitAt levels n)) ?_ ?_ ?_ levels n
  · intro n call hcall
    rw [e.emitAt_zero_custom hcall]
    exact EmitM.throw_keepsNotes _
  · intro levels n call hcall ih
    rw [e.emitAt_succ_custom hcall]
    exact call.expandWith_keepsNotes ih
  · intro levels n hcall ih
    rw [e.emitAt_of_not_custom hcall]
    exact Layout.run_keepsNotes ih

-- ============================================================= truncation

namespace EmitM

variable {α β : Type}

/-- The error of a refused call: it names the form and the limit. -/
def refusal (name : String) (limit : Int) : Error :=
  .form (.depthExceeded (some name) limit)

/-- A computation that is given a limit to name, compared to another one:
either it ends in a refusal that names the limit, and what it noted so far is
the front of what the other notes; or both end alike, whatever the limit. -/
def Truncates (m m' : Int → EmitM α) : Prop :=
  ∀ r, (∃ name s, (∀ limit, m limit r = .error (refusal name limit) s)
          ∧ ∀ limit, s.events.toList <+: notes (m' limit r))
    ∨ ∃ result, ∀ limit, m limit r = result ∧ m' limit r = result

/-- A computation that does not look at the limit. -/
theorem truncates_const (m : EmitM α) :
    Truncates (fun _ => m) (fun _ => m) :=
  fun r => .inr ⟨m r, fun _ => ⟨rfl, rfl⟩⟩

/-- Two computations run in step as long as their first steps do. -/
theorem bind_truncates {m m' : Int → EmitM α} {f f' : Int → α → EmitM β}
    (hm : Truncates m m') (hf : ∀ a, Truncates (f · a) (f' · a))
    (hnotes : ∀ limit a, KeepsNotes (f' limit a)) :
    Truncates (fun limit => m limit >>= f limit)
      (fun limit => m' limit >>= f' limit) := by
  intro r
  rcases hm r with ⟨name, s, hrefused, hfront⟩ | ⟨result, hsame⟩
  · refine .inl ⟨name, s, fun limit => bind_error (hrefused limit), ?_⟩
    exact fun limit => (hfront limit).trans (notes_bind (hnotes limit) r)
  · cases result with
    | error e s =>
        exact .inr ⟨.error e s, fun limit =>
          ⟨bind_error (hsame limit).1, bind_error (hsame limit).2⟩⟩
    | ok a s =>
        -- both have come to the same state, from which the rest is compared
        have hfirst (limit : Int) : (m limit >>= f limit) r = f limit a s :=
          bind_ok (hsame limit).1
        have hsecond (limit : Int) : (m' limit >>= f' limit) r = f' limit a s :=
          bind_ok (hsame limit).2
        simp only [hfirst, hsecond]
        exact hf a s

/-- A last step that does not look at the limit. -/
theorem map_truncates {m m' : Int → EmitM α} (hm : Truncates m m')
    (g : α → β) :
    Truncates (fun limit => m limit >>= fun a => pure (g a))
      (fun limit => m' limit >>= fun a => pure (g a)) :=
  bind_truncates hm (fun _ => truncates_const _) fun _ _ => pure_keepsNotes _

theorem inScope_truncates {body body' : Int → EmitM String} (scope : Scope)
    (h : Truncates body body') :
    Truncates (fun limit => inScope scope (body limit))
      (fun limit => inScope scope (body' limit)) := by
  intro r
  rcases h { r with scope := some scope } with
    ⟨name, s, hrefused, hfront⟩ | ⟨result, hsame⟩
  · refine .inl ⟨name, { s with scope := r.scope }, fun limit => ?_, fun limit => ?_⟩
    · simp only [inScope, hrefused limit]
    · rw [notes_inScope]
      exact hfront limit
  · cases result with
    | ok x s =>
        refine .inr ⟨.ok ((s.scope.getD scope).declaration ++ x)
          { s with scope := r.scope }, fun limit => ?_⟩
        simp only [inScope, hsame limit, and_self]
    | error e s =>
        refine .inr ⟨.error e { s with scope := r.scope }, fun limit => ?_⟩
        simp only [inScope, hsame limit, and_self]

/-- A refusal comes out of an iteration as it is. -/
theorem iterated_truncates {m m' : Int → EmitM α} (h : Truncates m m') :
    Truncates (fun limit => iterated (m limit))
      (fun limit => iterated (m' limit)) := by
  intro r
  rcases h r with ⟨name, s, hrefused, hfront⟩ | ⟨result, hsame⟩
  · refine .inl ⟨name, s, fun limit => ?_, fun limit => ?_⟩
    · simp only [iterated, hrefused limit, refusal, Error.iterated_form]
    · rw [notes_iterated]
      exact hfront limit
  · cases result with
    | ok a s =>
        refine .inr ⟨.ok a s, fun limit => ?_⟩
        simp only [iterated, hsame limit, and_self]
    | error e s =>
        refine .inr ⟨.error e.iterated s, fun limit => ?_⟩
        simp only [iterated, hsame limit, and_self]

theorem takeAll_truncates {write write' : Int → Node → EmitM String}
    (id : Identity) {items : List Node}
    (h : ∀ n ∈ items, Truncates (write · n) (write' · n))
    (hnotes : ∀ limit n, KeepsNotes (write' limit n)) (index : Nat) :
    Truncates (fun limit => takeAll (write limit) id index items)
      (fun limit => takeAll (write' limit) id index items) := by
  induction items generalizing index with
  | nil => exact truncates_const _
  | cons n rest ih =>
      have hrest := ih fun m hm => h m (.tail _ hm)
      have htaken := bind_truncates (h n (.head _))
        (fun text => map_truncates (hrest (index + 1)) (text :: ·))
        fun limit text => bind_keepsNotes
          (takeAll_keepsNotes id (fun m _ => hnotes limit m) (index + 1))
          fun texts => pure_keepsNotes (text :: texts)
      intro r
      by_cases hpos : r.streams.position id ≤ index
      · simp only [takeAll_cons_eq_of_le hpos]
        exact htaken { r with streams := r.streams.advance id (index + 1) }
      · have hlt : index < r.streams.position id := by omega
        simp only [takeAll_cons_of_lt hlt]
        exact hrest (index + 1) r

end EmitM

/-- A layout is cut off where one of its children is. -/
theorem Layout.run_truncates {dedupe : Bool}
    {write write' : Int → Node → EmitM String} {l : Layout}
    (h : l.All fun n => EmitM.Truncates (write · n) (write' · n))
    (hnotes : ∀ limit n, EmitM.KeepsNotes (write' limit n)) :
    EmitM.Truncates (fun limit => l.run dedupe (write limit))
      (fun limit => l.run dedupe (write' limit)) := by
  have hkeeps (l : Layout) (limit : Int) :
      EmitM.KeepsNotes (l.run dedupe (write' limit)) :=
    run_keepsNotes (all_of_forall (hnotes limit) l)
  induction l with
  | text s => exact EmitM.truncates_const _
  | node n => exact h
  | item n => exact EmitM.iterated_truncates h
  | fail e => exact EmitM.truncates_const _
  | append a b iha ihb =>
      exact EmitM.bind_truncates (iha h.1)
        (fun x => EmitM.map_truncates (ihb h.2) (x ++ ·))
        fun limit x => EmitM.bind_keepsNotes (hkeeps b limit) fun y =>
          EmitM.pure_keepsNotes (x ++ y)
  | late a b iha ihb =>
      exact EmitM.bind_truncates (ihb h.2)
        (fun y => EmitM.map_truncates (iha h.1) (· ++ y))
        fun limit y => EmitM.bind_keepsNotes (hkeeps a limit) fun x =>
          EmitM.pure_keepsNotes (x ++ y)
  | twice a between ih => exact EmitM.map_truncates (ih h) _
  | statement a ih => exact EmitM.map_truncates (ih h) _
  | declare names => exact EmitM.truncates_const _
  | inline s => exact EmitM.truncates_const _
  | enclosed a ih => exact EmitM.inScope_truncates _ (ih h)
  | stream id items =>
      have hitems := EmitM.takeAll_truncates id h hnotes 0
      exact EmitM.map_truncates (EmitM.iterated_truncates hitems) _

/-- A call is cut off where its expansion is. -/
theorem Call.expandWith_truncates {write write' : Int → Node → EmitM String}
    (call : Call) (h : ∀ n, EmitM.Truncates (write · n) (write' · n))
    (hnotes : ∀ limit n, EmitM.KeepsNotes (write' limit n)) :
    EmitM.Truncates (fun limit => call.expandWith (write limit))
      (fun limit => call.expandWith (write' limit)) := by
  refine EmitM.bind_truncates (EmitM.truncates_const _) (fun stamp => ?_) ?_
  · exact EmitM.bind_truncates (EmitM.truncates_const _) h hnotes
  · exact fun limit stamp =>
      EmitM.bind_keepsNotes (EmitM.ofExcept_keepsNotes _) (hnotes limit)

-- =============================================================== emission

namespace Emitter

variable (e : Emitter)

/-- The emitter with another limit in its settings. -/
def limited (limit : Int) : Emitter :=
  { e with config := { e.config with limit } }

/-- An emission with fewer levels of expansion is one with more levels, cut
off. -/
theorem emitAt_truncates {levels levels' : Nat} (hle : levels ≤ levels')
    (n : Node) :
    EmitM.Truncates (fun limit => (e.limited limit).emitAt levels n)
      (fun limit => (e.limited limit).emitAt levels' n) := by
  have hnotes (levels : Nat) (limit : Int) (n : Node) :
      EmitM.KeepsNotes ((e.limited limit).emitAt levels n) :=
    (e.limited limit).emitAt_keepsNotes levels n
  revert levels'
  refine e.emission_induction (P := fun levels n => ∀ {levels'},
    levels ≤ levels' →
      EmitM.Truncates (fun limit => (e.limited limit).emitAt levels n)
        (fun limit => (e.limited limit).emitAt levels' n)) ?_ ?_ ?_ levels n
  · intro n call hcall levels' _ r
    refine .inl ⟨call.name, r, fun limit => ?_, fun limit => hnotes levels' limit n r⟩
    show (e.limited limit).emitAt 0 n r = _
    rw [emitAt_zero_custom (e.limited limit) hcall]
    rfl
  · intro levels n call hcall ih levels' hle
    cases levels' with
    | zero => cases hle
    | succ levels' =>
        have hexpand (levels : Nat) (limit : Int) :
            (e.limited limit).emitAt (levels + 1) n
              = call.expandWith ((e.limited limit).emitAt levels) :=
          emitAt_succ_custom _ hcall
        simp only [hexpand]
        exact call.expandWith_truncates
          (fun m => ih m (Nat.le_of_succ_le_succ hle)) (hnotes levels')
  · intro levels n hcall ih levels' hle
    have hwrite (levels : Nat) (limit : Int) :
        (e.limited limit).emitAt levels n
          = n.layout.run e.config.dedupe ((e.limited limit).emitAt levels) :=
      emitAt_of_not_custom _ hcall
    simp only [hwrite]
    exact Layout.run_truncates (ih.imp fun m hm => hm hle) (hnotes levels')

/-- A success with fewer levels of expansion is a success with more levels,
with the same effects. -/
theorem emitAt_ok_of_le {levels levels' : Nat} (hle : levels ≤ levels')
    {n : Node} {r r' : Run} {t : String} (h : e.emitAt levels n r = .ok t r') :
    e.emitAt levels' n r = .ok t r' := by
  rcases e.emitAt_truncates hle n r with ⟨name, s, hrefused, -⟩ | ⟨result, hsame⟩
  · have hself : e.emitAt levels n r = .error _ s := hrefused e.config.limit
    rw [h] at hself
    cases hself
  · have hself : e.emitAt levels n r = result ∧ e.emitAt levels' n r = result :=
      hsame e.config.limit
    rw [hself.2, ← hself.1, h]

/-- An emission ends in a refusal of the emitter's own: whichever limit the
settings have for it to name, with the same levels of expansion it ends in
the error that names this limit. -/
def Refuses (n : Node) (r : Run) : Prop :=
  ∃ name s, ∀ limit,
    (e.limited limit).emitAt e.config.limit.toNat n r
      = .error (EmitM.refusal name limit) s

/-- An emission that ends alike whichever limit it might name has not ended
in a refusal. -/
theorem not_refuses {n : Node} {r : Run} {result : EStateM.Result Error Run String}
    (h : ∀ limit, (e.limited limit).emitAt e.config.limit.toNat n r = result) :
    ¬ e.Refuses n r := by
  rintro ⟨name, s, hrefused⟩
  have hzero := (h 0).symm.trans (hrefused 0)
  rw [(h 1).symm.trans (hrefused 1)] at hzero
  injection hzero with herror
  injection herror with hcause
  injection hcause with _ hlimit
  exact absurd hlimit (by decide)

/-- The limit is a pure cut-off. An emission that is refused a call ends in
the error that names the limit, and what it noted is the front of what the
emission under a higher limit notes. One that is refused a call under the
higher limit is refused one under the lower limit too. One that is not ends
in the same way under both, with the same text or error, the same names
declared and the same notes. -/
theorem emit_limit_cutoff {d d' : Int} (hle : d ≤ d') (n : Node) (r : Run) :
    ((e.limited d).Refuses n r → ∃ name s,
        (e.limited d).emit n r = .error (EmitM.refusal name d) s
          ∧ s.events.toList <+: EmitM.notes ((e.limited d').emit n r))
      ∧ ((e.limited d').Refuses n r → (e.limited d).Refuses n r)
      ∧ (¬ (e.limited d).Refuses n r →
          (e.limited d').emit n r = (e.limited d).emit n r) := by
  have hlevels : d.toNat ≤ d'.toNat := by omega
  rcases e.emitAt_truncates hlevels n r with
    ⟨name, s, hrefused, hfront⟩ | ⟨result, hsame⟩
  · have hrefuses : (e.limited d).Refuses n r := ⟨name, s, hrefused⟩
    exact ⟨fun _ => ⟨name, s, hrefused d, hfront d'⟩, fun _ => hrefuses,
      fun hnot => absurd hrefuses hnot⟩
  · have hlow : ¬ (e.limited d).Refuses n r :=
      not_refuses (e.limited d) fun limit => (hsame limit).1
    have hhigh : ¬ (e.limited d').Refuses n r :=
      not_refuses (e.limited d') fun limit => (hsame limit).2
    exact ⟨fun h => absurd h hlow, fun h => absurd h hhigh,
      fun _ => (hsame d').2.trans (hsame d).1.symm⟩

/-- An emitter with a form that counts down by calling itself. -/
def countingDown : Emitter where
  forms := Registry.empty.insert "nest" (CustomForm.countdown "nest")

/-- A sum of a short countdown and a longer one. -/
def countdowns : Node :=
  .form [.sym ⟨"+", none⟩, .form [.sym ⟨"nest", none⟩, .int 0],
    .form [.sym ⟨"nest", none⟩, .int 2]]

/-- The longer countdown needs three levels. With two it is refused, so it is
with one, after fewer notes; what is written with three is written with a
hundred. -/
theorem countdowns_cutoff :
    (∃ name s, (countingDown.limited 1).emit countdowns {}
          = .error (EmitM.refusal name 1) s
        ∧ s.events.toList
          <+: EmitM.notes ((countingDown.limited 2).emit countdowns {}))
      ∧ (countingDown.limited 100).emit countdowns {}
          = (countingDown.limited 3).emit countdowns {} := by
  have htwo : (countingDown.limited 2).Refuses countdowns {} :=
    ⟨"nest", { streams := { nextStamp := 3 }
               events := #[.expanding "nest", .expanding "nest", .expanding "nest"] },
      fun limit => rfl⟩
  have hthree (limit : Int) : (countingDown.limited limit).emitAt 3 countdowns {}
      = .ok "(0 + 0)"
          { streams := { nextStamp := 4 }
            events := #[.expanding "nest", .expanding "nest", .expanding "nest",
              .expanding "nest"] } := rfl
  have hlow := emit_limit_cutoff countingDown (show (1 : Int) ≤ 2 by decide)
    countdowns {}
  have hhigh := emit_limit_cutoff countingDown (show (3 : Int) ≤ 100 by decide)
    countdowns {}
  exact ⟨hlow.1 (hlow.2.1 htwo), hhigh.2.2 (not_refuses _ hthree)⟩

end Emitter

end FormScript
