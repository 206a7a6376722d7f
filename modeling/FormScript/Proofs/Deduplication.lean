/-
Emission with and without deduplication. A scope that dedupes takes each name
once; one that does not lists all the names that it is given. Apart from the
declarations at the top of bodies the switch changes nothing: emissions with
it on and off fail alike and succeed alike, the one's root scope is the other's
without the repeats, and the two texts are equal exactly if no scope that is
opened on the way is given a name twice (`Emitter.emitProgram_dedupe`).

# The argument

The two emissions run in step (`EmitM.Tracks`), the open scope of the one being
that of the other with its repeats removed (`Scope.once`). The texts are compared
by `Trims`: a body's declaration is trimmed exactly if its scope has repeats, and
all else is put together from the texts of parts.

Which bodies are written on the way is said by `Emitter.Includes`, and which names
one of them gives its scope by the reference collection of names
(`Layout.collect`); `Emitter.Repeats` puts the two together. It does not look at
scopes, and a scope that lists its names ends with just those that were collected
(`Emitter.names_of_listed`).
-/
import FormScript.Proofs.Deduplication.Trimming
import FormScript.Proofs.Hoisting
import FormScript.Proofs.Tracking

namespace FormScript

open EmitM

-- ================================================================= scopes

/-- A scope that lists all its names, made one that takes each of them once. -/
def Scope.once (s : Scope) : Scope := { names := s.names.eraseDups, dedupe := true }

theorem Scope.once_declare {s : Scope} (h : s.dedupe = false) (x : String) :
    (s.declare x).once = s.once.declare x := by
  have hlisted : (s.declare x).names = s.names ++ [x] := by simp [declare, h]
  rw [once, hlisted, eraseDups_concat]
  by_cases hx : x ∈ s.names <;> simp [declare, once, hx]

theorem Scope.once_declareAll {s : Scope} (h : s.dedupe = false) (xs : List String) :
    (s.declareAll xs).once = s.once.declareAll xs := by
  induction xs generalizing s with
  | nil => rfl
  | cons x xs ih =>
      have hlists : (s.declare x).dedupe = false := by rw [declare_dedupe, h]
      rw [declareAll_cons, declareAll_cons, ih hlists, once_declare h]

/-- A run whose scope, if it has one, lists all the names that it is given. -/
def Run.Listing (r : Run) : Prop := ∀ s, r.scope = some s → s.dedupe = false

theorem EmitM.Declares.listing {α : Type} {m : EmitM α} (hm : m.Declares) {r s : Run} {a : α}
    (h : m r = .ok a s) (hr : r.Listing) : s.Listing := by
  obtain ⟨xs, -, hscope⟩ := hm.of_ok h
  intro scope hs
  obtain ⟨old, hold, rfl⟩ := Option.map_eq_some_iff.1 (hscope ▸ hs)
  rw [Scope.declareAll_dedupe, hr old hold]

-- ================================================================ repeats

namespace Emitter

/-- The emitter with the switch set. -/
def deduping (e : Emitter) (dedupe : Bool) : Emitter :=
  { e with config := { e.config with dedupe } }

/-- Some body that is written on the way, be it that of a program or of a
function, gives its scope a name twice. -/
def Repeats (e : Emitter) (levels : Nat) (l : Layout) (r : Run) : Prop :=
  ∃ levels' body u, e.Includes levels l r levels' (.enclosed body) u
    ∧ ¬ (body.collect (e.hoisted levels') u.streams).1.Nodup

variable {e : Emitter} {levels : Nat} {a b : Layout} {r u : Run} {x : String}

theorem not_repeats_text (t : String) : ¬ e.Repeats levels (.text t) r := by
  rintro ⟨k, body, u, hincludes, -⟩
  cases hincludes

theorem not_repeats_declare (names : List String) : ¬ e.Repeats levels (.declare names) r := by
  rintro ⟨k, body, u, hincludes, -⟩
  cases hincludes

theorem not_repeats_inline (t : String) : ¬ e.Repeats levels (.inline t) r := by
  rintro ⟨k, body, u, hincludes, -⟩
  cases hincludes

theorem repeats_append_iff (ha : a.run e.config.dedupe (e.emitAt levels) r = .ok x u) :
    e.Repeats levels (.append a b) r ↔ e.Repeats levels a r ∨ e.Repeats levels b u := by
  constructor
  · rintro ⟨k, body, s, hincludes, hrepeat⟩
    cases hincludes with
    | first h => exact .inl ⟨k, body, s, h, hrepeat⟩
    | second written h =>
        rw [ha] at written
        cases written
        exact .inr ⟨k, body, s, h, hrepeat⟩
  · rintro (⟨k, body, s, h, hrepeat⟩ | ⟨k, body, s, h, hrepeat⟩)
    · exact ⟨k, body, s, .first h, hrepeat⟩
    · exact ⟨k, body, s, .second ha h, hrepeat⟩

theorem repeats_late_iff (hb : b.run e.config.dedupe (e.emitAt levels) r = .ok x u) :
    e.Repeats levels (.late a b) r ↔ e.Repeats levels b r ∨ e.Repeats levels a u := by
  constructor
  · rintro ⟨k, body, s, hincludes, hrepeat⟩
    cases hincludes with
    | back h => exact .inl ⟨k, body, s, h, hrepeat⟩
    | front written h =>
        rw [hb] at written
        cases written
        exact .inr ⟨k, body, s, h, hrepeat⟩
  · rintro (⟨k, body, s, h, hrepeat⟩ | ⟨k, body, s, h, hrepeat⟩)
    · exact ⟨k, body, s, .back h, hrepeat⟩
    · exact ⟨k, body, s, .front hb h, hrepeat⟩

theorem repeats_twice_iff {between : String} :
    e.Repeats levels (.twice a between) r ↔ e.Repeats levels a r := by
  constructor
  · rintro ⟨k, body, s, ⟨⟩, hrepeat⟩
    exact ⟨k, body, s, ‹_›, hrepeat⟩
  · rintro ⟨k, body, s, h, hrepeat⟩
    exact ⟨k, body, s, .twice h, hrepeat⟩

theorem repeats_statement_iff :
    e.Repeats levels (.statement a) r ↔ e.Repeats levels a r := by
  constructor
  · rintro ⟨k, body, s, ⟨⟩, hrepeat⟩
    exact ⟨k, body, s, ‹_›, hrepeat⟩
  · rintro ⟨k, body, s, h, hrepeat⟩
    exact ⟨k, body, s, .statement h, hrepeat⟩

theorem repeats_item_iff {n : Node} :
    e.Repeats levels (.item n) r ↔ e.Repeats levels (.node n) r := by
  constructor
  · rintro ⟨k, body, s, ⟨⟩, hrepeat⟩
    exact ⟨k, body, s, ‹_›, hrepeat⟩
  · rintro ⟨k, body, s, h, hrepeat⟩
    exact ⟨k, body, s, .item h, hrepeat⟩

theorem repeats_node_iff {n : Node} (plain : e.forms.customCall? n = none) :
    e.Repeats levels (.node n) r ↔ e.Repeats levels n.layout r := by
  constructor
  · rintro ⟨k, body, s, hincludes, hrepeat⟩
    cases hincludes with
    | child _ h => exact ⟨k, body, s, h, hrepeat⟩
    | expansion custom =>
        rw [plain] at custom
        cases custom
  · rintro ⟨k, body, s, h, hrepeat⟩
    exact ⟨k, body, s, .child plain h, hrepeat⟩

theorem repeats_expansion_iff {n n' : Node} {call : Call}
    (custom : e.forms.customCall? n = some call)
    (expanded : call.form.expand r.streams.nextStamp call.args = .ok n') :
    e.Repeats (levels + 1) (.node n) r
      ↔ e.Repeats levels (.node n') (r.expanding call.name) := by
  constructor
  · rintro ⟨k, body, s, hincludes, hrepeat⟩
    cases hincludes with
    | child plain =>
        rw [custom] at plain
        cases plain
    | expansion custom' expanded' h =>
        rw [custom] at custom'
        cases custom'
        rw [expanded] at expanded'
        cases expanded'
        exact ⟨k, body, s, h, hrepeat⟩
  · rintro ⟨k, body, s, h, hrepeat⟩
    exact ⟨k, body, s, .expansion custom expanded h, hrepeat⟩

theorem repeats_stream_iff {id : Identity} {items : List Node} :
    e.Repeats levels (.stream id items) r ↔
      ∃ n u, Takes (e.emitAt levels) id 0 items r n u ∧ e.Repeats levels (.node n) u := by
  constructor
  · rintro ⟨k, body, s, hincludes, hrepeat⟩
    cases hincludes with
    | taking taken h => exact ⟨_, _, taken, k, body, s, h, hrepeat⟩
  · rintro ⟨n, u, taken, k, body, s, h, hrepeat⟩
    exact ⟨k, body, s, .taking taken h, hrepeat⟩

/-- A body gives its own scope a name twice, or one that is written inside it
does. -/
theorem repeats_enclosed_iff :
    e.Repeats levels (.enclosed a) r
      ↔ ¬ (a.collect (e.hoisted levels) r.streams).1.Nodup
        ∨ e.Repeats levels a { r with scope := some { dedupe := e.config.dedupe } } := by
  constructor
  · rintro ⟨k, body, s, hincludes, hrepeat⟩
    cases hincludes with
    | here => exact .inl hrepeat
    | inside h => exact .inr ⟨k, body, s, h, hrepeat⟩
  · rintro (hrepeat | ⟨k, body, s, h, hrepeat⟩)
    · exact ⟨levels, a, r, .here, hrepeat⟩
    · exact ⟨k, body, s, .inside h, hrepeat⟩

/-- The scope of a body that lists all its names has at the end those that the
body gave it. -/
theorem names_of_listed
    (ha : a.run e.config.dedupe (e.emitAt levels) { r with scope := some { dedupe := false } }
      = .ok x u) :
    ∃ s, u.scope = some s ∧ s.names = (a.collect (e.hoisted levels) r.streams).1 := by
  obtain ⟨events, hhoists⟩ :=
    Layout.run_hoists (Layout.all_of_forall (e.emitAt_hoists levels) a) ha
  cases ha.symm.trans (hhoists { dedupe := false })
  exact ⟨_, rfl, Scope.names_declareAll rfl _⟩

end Emitter

-- ======================================================== two emissions

/-- Items that are written in step, with texts trimmed, make lists of texts that
are trimmed. -/
theorem EmitM.takeAll_trims {write write' : Node → EmitM String} {D : Node → Run → Prop}
    (id : Identity) {items : List Node} (hwrite : ∀ n, (write' n).Declares)
    (h : ∀ n ∈ items, ∀ r : Run, r.Listing →
      Tracks (·.map Scope.once) (write n) (write' n) r fun t t' _ => Trims (D n r) t t')
    (index : Nat) {r : Run} (hr : r.Listing) :
    Tracks (·.map Scope.once) (takeAll write id index items) (takeAll write' id index items) r
      fun xs xs' _ =>
        Trims (∃ n u, Takes write' id index items r n u ∧ D n u)
          (", ".intercalate xs) (", ".intercalate xs') ∧ (xs = [] ↔ xs' = []) := by
  induction items generalizing index r with
  | nil =>
      refine pure_tracks ⟨.of_not ?_ _, Iff.rfl⟩
      rintro ⟨n, u, htaken, -⟩
      cases htaken
  | cons n rest ih =>
      have hrest := ih fun m hm => h m (.tail _ hm)
      by_cases hpos : r.streams.position id ≤ index
      · refine takeAll_tracks_of_le hpos
          (bind_tracks (h n (.head _) _ hr) fun x x' s hx htrim => ?_)
        refine map_tracks (hrest (index + 1) ((hwrite n).listing hx hr)) _ _
          fun xs xs' s' _ htexts => ?_
        refine ⟨?_, by simp⟩
        exact (htrim.intercalate_cons htexts.1 htexts.2).congr (exists_takes_iff_of_le hpos hx)
      · have hgone : index < r.streams.position id := by omega
        refine takeAll_tracks_of_lt hgone ((hrest (index + 1) hr).imp fun xs xs' s _ htexts => ?_)
        exact ⟨htexts.1.congr (exists_takes_iff_of_lt hgone), htexts.2⟩

namespace Emitter

/-- A layout is written in step with the switch on and off, and the text is
trimmed if a scope that is opened on the way has a name twice. -/
def Dedupes (e : Emitter) (levels : Nat) (l : Layout) (r : Run) : Prop :=
  Tracks (·.map Scope.once) (l.run true ((e.deduping true).emitAt levels))
    (l.run false ((e.deduping false).emitAt levels)) r
    fun t t' _ => Trims ((e.deduping false).Repeats levels l r) t t'

variable {e : Emitter} {levels : Nat}

theorem dedupes_declare (names : List String) {r : Run} (hr : r.Listing) :
    e.Dedupes levels (.declare names) r := by
  have hscope : (r.scope.map (·.declareAll names)).map Scope.once
      = (r.scope.map Scope.once).map (·.declareAll names) := by
    cases hs : r.scope with
    | none => rfl
    | some s => exact congrArg some (Scope.once_declareAll (hr s hs) names)
  refine tracks_of_ok rfl (a := "") ?_ (.of_not ?_ "")
  · show EStateM.Result.ok "" _ = _
    rw [Run.rescope, Run.rescope, hscope]
  · exact not_repeats_declare names

/-- A text in place is left out with both emitters or with none. -/
theorem dedupes_inline (t : String) (r : Run) : e.Dedupes levels (.inline t) r := by
  refine tracks_of_ok (a := if r.scope.isSome then "" else t) rfl ?_ (.of_not ?_ _)
  · show EStateM.Result.ok (if (r.scope.map Scope.once).isSome then "" else t) _ = _
    rw [Option.isSome_map]
  · exact not_repeats_inline t

/-- The declaration of a body is trimmed if the body gives its scope a name
twice. -/
theorem Dedupes.enclosed {l : Layout} {r : Run}
    (h : e.Dedupes levels l { r with scope := some { dedupe := false } }) :
    e.Dedupes levels (.enclosed l) r := by
  refine inScope_tracks_of_body rfl h fun t t' s hbody htrim => ?_
  obtain ⟨scope, hscope, hnames⟩ := names_of_listed (e := e.deduping false) hbody
  rw [hscope]
  refine ((declaration_trims scope.names true scope.dedupe).append htrim).congr ?_
  rw [repeats_enclosed_iff, hnames]
  rfl

/-- A layout is written in step if its children are. -/
theorem run_dedupes {l : Layout} (hl : l.NamesValid)
    (h : l.All fun n => ∀ r : Run, r.Listing → e.Dedupes levels (.node n) r)
    {r : Run} (hr : r.Listing) : e.Dedupes levels l r := by
  have hdeclares {l : Layout} (hl : l.NamesValid) := (e.deduping false).run_declares levels hl
  induction l generalizing r with
  | text t =>
      exact pure_tracks (.of_not (not_repeats_text t) t)
  | node n => exact h r hr
  | item n =>
      refine (iterated_tracks (h r hr)).imp fun t t' s _ htrim => ?_
      exact htrim.congr repeats_item_iff
  | fail err => exact throw_tracks err
  | append a b iha ihb =>
      refine bind_tracks (iha hl.1 h.1 hr) fun x x' s ha hx => ?_
      refine map_tracks (ihb hl.2 h.2 ((hdeclares hl.1).listing ha hr)) _ _ fun y y' s' _ hy => ?_
      exact (hx.append hy).congr (repeats_append_iff ha)
  | late a b iha ihb =>
      refine bind_tracks (ihb hl.2 h.2 hr) fun y y' s hb hy => ?_
      refine map_tracks (iha hl.1 h.1 ((hdeclares hl.2).listing hb hr)) _ _ fun x x' s' _ hx => ?_
      exact (hx.append hy).congr ((repeats_late_iff hb).trans or_comm)
  | twice a between ih =>
      refine map_tracks (ih hl h hr) _ _ fun x x' s _ hx => ?_
      refine ((hx.append (.of_not id between : Trims False _ _)).append hx).congr ?_
      rw [repeats_twice_iff, or_false, or_self]
  | statement a ih =>
      refine map_tracks (ih hl h hr) _ _ fun x x' s _ hx => ?_
      exact hx.terminate.congr repeats_statement_iff
  | declare names => exact dedupes_declare names hr
  | inline t => exact dedupes_inline t r
  | enclosed a ih =>
      refine .enclosed (ih hl h fun s hs => ?_)
      cases hs
      rfl
  | stream id items =>
      have hwrite := (e.deduping false).emitAt_declares levels
      have hitems := iterated_tracks (takeAll_trims id hwrite h 0 hr)
      refine map_tracks hitems _ _ fun xs xs' s _ htexts => ?_
      exact (htexts.1.between "[" "]").congr repeats_stream_iff

/-- A node is written in step with the switch on and off. -/
theorem emitAt_dedupes (e : Emitter) (levels : Nat) (n : Node) :
    ∀ r : Run, r.Listing → e.Dedupes levels (.node n) r := by
  refine e.emission_induction
    (P := fun levels n => ∀ r : Run, r.Listing → e.Dedupes levels (.node n) r)
    ?_ ?_ ?_ levels n
  · intro n call hcall r _
    rw [Dedupes, Layout.run, Layout.run, (e.deduping true).emitAt_zero_custom hcall,
      (e.deduping false).emitAt_zero_custom hcall]
    exact throw_tracks (.form (.depthExceeded (some call.name) e.config.limit))
  · intro levels n call hcall ih r hr
    rw [Dedupes, Layout.run, Layout.run, (e.deduping true).emitAt_succ_custom hcall,
      (e.deduping false).emitAt_succ_custom hcall]
    refine Call.expandWith_tracks fun m hexpand => ?_
    refine (ih m (r.expanding call.name) hr).imp fun t t' s _ htrim => ?_
    exact htrim.congr (repeats_expansion_iff hcall hexpand)
  · intro levels n hcall ih r hr
    rw [Dedupes, Layout.run, Layout.run, (e.deduping true).emitAt_of_not_custom hcall,
      (e.deduping false).emitAt_of_not_custom hcall]
    refine (run_dedupes n.layout_announced.namesValid ih hr).imp fun t t' s _ htrim => ?_
    exact htrim.congr (repeats_node_iff hcall)

/-- So is any layout that names things as those of nodes do. -/
theorem emitLayout_dedupes (e : Emitter) {l : Layout} (hl : l.NamesValid) {r : Run}
    (hr : r.Listing) :
    Tracks (·.map Scope.once) ((e.deduping true).emitLayout l) ((e.deduping false).emitLayout l) r
      fun t t' _ => Trims ((e.deduping false).Repeats e.config.limit.toNat l r) t t' :=
  run_dedupes hl (Layout.all_of_forall (e.emitAt_dedupes _) l) hr

-- =============================================================== programs

/-- The scope of a program as its emission leaves it, whether it succeeds or
fails. An empty program opens none, and declares nothing. -/
def rootScope (e : Emitter) (forms : List Node) (r : Run) : Scope :=
  match programLayout forms with
  | .enclosed body =>
    ((e.emitLayout body).after { r with scope := some e.newScope }).scope.getD e.newScope
  | _ => e.newScope

/-- The root scope that dedupes is the other one without its repeats. -/
theorem rootScope_once (e : Emitter) (forms : List Node) (r : Run) :
    (e.deduping true).rootScope forms r = ((e.deduping false).rootScope forms r).once := by
  unfold rootScope
  split
  · rename_i body hbody
    have hvalid : body.NamesValid := by
      have h := (programLayout_quiet forms).namesValid
      rw [hbody] at h
      exact h
    have hlisting : Run.Listing { r with scope := some (e.deduping false).newScope } := by
      intro s hs
      cases hs
      rfl
    obtain ⟨scope, hscope, -⟩ := ((e.deduping false).emitLayout_declares hvalid
      { r with scope := some (e.deduping false).newScope }).exists_some
    have honce : (((e.deduping true).emitLayout body).after
        { r with scope := some (e.deduping true).newScope }).scope = some scope.once := by
      refine (congrArg Run.scope (e.emitLayout_dedupes hvalid hlisting).after).trans ?_
      rw [Run.rescope, hscope]
      rfl
    rw [honce, hscope, Option.getD_some, Option.getD_some]
  · rfl

/-- Some forms are emitted as a program with the switch on and off, from the
same run. The names of the one root scope are those of the other without
repeats. Either both emissions fail with the same error, or both succeed; then
their texts are equal exactly if no scope that is opened on the way, be it the
root or that of a function body, is given a name twice, and the deduped text is
shorter otherwise. -/
theorem emitProgram_dedupe (e : Emitter) (forms : List Node) (streams : Streams)
    (events : Array Event) :
    ((e.deduping true).rootScope forms { streams, events }).names
        = ((e.deduping false).rootScope forms { streams, events }).names.eraseDups
      ∧ ((∃ err s, (e.deduping true).emitProgram forms { streams, events } = .error err s
            ∧ (e.deduping false).emitProgram forms { streams, events } = .error err s)
        ∨ ∃ t t' s, (e.deduping true).emitProgram forms { streams, events } = .ok t s
            ∧ (e.deduping false).emitProgram forms { streams, events } = .ok t' s
            ∧ (t = t' ↔ ¬ (e.deduping false).Repeats e.config.limit.toNat
                (programLayout forms) { streams, events })
            ∧ ((e.deduping false).Repeats e.config.limit.toNat
                (programLayout forms) { streams, events } → t.length < t'.length)) := by
  refine ⟨congrArg Scope.names (rootScope_once e forms _), ?_⟩
  have hvalid := (programLayout_quiet forms).namesValid
  have hlisting : Run.Listing { streams, events } := fun s hs => by cases hs
  have htracks := e.emitLayout_dedupes hvalid hlisting
  -- no scope is open around a program, so nothing is changed in the run there
  have hclosed := ((e.deduping false).emitLayout_declares hvalid { streams, events }).eq_none
  have hsame {s : Run} (hs : s.scope = none) : s.rescope (·.map Scope.once) = s := by
    cases s
    cases hs
    rfl
  unfold emitProgram
  cases hlist : (e.deduping false).emitLayout (programLayout forms) { streams, events } with
  | error err s =>
      have honce := htracks.error hlist
      rw [after_of_error hlist] at hclosed
      rw [hsame hclosed, hsame rfl] at honce
      exact .inl ⟨err, s, honce, rfl⟩
  | ok t' s =>
      obtain ⟨t, honce, htrim⟩ := htracks.ok hlist
      rw [after_of_ok hlist] at hclosed
      rw [hsame hclosed, hsame rfl] at honce
      refine .inr ⟨t, t', s, honce, rfl, ⟨fun heq hrepeats => ?_, htrim.same⟩, htrim.shorter⟩
      have hshorter := htrim.shorter hrepeats
      rw [heq] at hshorter
      exact Nat.lt_irrefl _ hshorter

/-- A name that is declared again, in the root and in a function body. -/
example :
    let var (name : String) : Node := .form [.sym ⟨"var", none⟩, .sym ⟨name, none⟩]
    let forms := [var "a", var "a",
      .form [.sym ⟨"fn", none⟩, .seq .vector [], var "b", var "b"]]
    (deduping {} true).emitProgram forms {}
        = .ok "var a;\n;\n;\nfunction () \x7b\nvar b;\n;\n;\n \x7d;\n" {}
      ∧ (deduping {} false).emitProgram forms {}
        = .ok "var a, a;\n;\n;\nfunction () \x7b\nvar b, b;\n;\n;\n \x7d;\n" {} :=
  ⟨rfl, rfl⟩

end Emitter

end FormScript
