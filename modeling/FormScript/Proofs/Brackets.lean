/-
Emitted scripts are well bracketed. Brackets come from the forms, which write
them in pairs, and from texts that are copied into the script: strings, regular
expressions, bytes, values of the host, and raw text. If none of these brings a
bracket, and custom forms make no tree that does, every script is balanced in
parentheses, square brackets and braces (`Emitter.emitProgram_wellBracketed`).

# The argument

A node without such texts has a balanced skeleton (`Node.layout_nested`). What
is written of a layout is read by the scanner like its skeleton, if the texts of
the children are balanced (`Layout.run_scan`): declarations at the top of bodies
are made of valid names, and texts in place are left out where a scope is open.
-/
import FormScript.Proofs.Brackets.Skeleton
import FormScript.Proofs.Simulation
import FormScript.Proofs.Tracking
import FormScript.Registry.Stock

namespace FormScript

open Brackets

-- ================================================================== nodes

/-- Whether a node itself copies no bracket into a script: a leaf has a text
without brackets, and a symbol is not the head of raw text. -/
def Node.copiesNoBracket : Node → Bool
  | .str s => (bracketsOf s).isEmpty
  | .regex r => (bracketsOf r.pattern).isEmpty
  | .bytes bs => (bracketsOf (Text.quotedBytes bs)).isEmpty
  | .foreign _ shown => (bracketsOf shown).isEmpty
  | .sym id => id.name != "quote"
  | _ => true

/-- A tree that copies no bracket into a script at any place. -/
def Node.Unbracketed (n : Node) : Prop := n.every copiesNoBracket

instance (n : Node) : Decidable n.Unbracketed :=
  inferInstanceAs (Decidable (n.every Node.copiesNoBracket = true))

theorem Node.unbracketed_iff {n : Node} :
    n.Unbracketed ↔ n.copiesNoBracket ∧ ∀ m ∈ n.children, m.Unbracketed :=
  every_iff

/-- The layout of a node is well bracketed. -/
theorem Node.layout_nested {n : Node} (h : n.Unbracketed) : n.layout.Nested := by
  obtain ⟨hroot, hchildren⟩ := unbracketed_iff.1 h
  unfold Node.layout
  split
  case h_2 b => cases b <;> rfl
  case h_3 i => exact Layout.nested_of_eq_nil (bracketsOf_intText i)
  case h_4 x => exact Layout.nested_of_eq_nil (bracketsOf_number x)
  case h_5 q =>
    split
    · exact Layout.nested_of_eq_nil (bracketsOf_number _)
    · rfl
  case h_6 s =>
    refine Layout.nested_of_eq_nil ?_
    show bracketsOf (scriptString s) = []
    rw [bracketsOf_scriptString]
    exact List.isEmpty_iff.1 hroot
  case h_7 | h_8 => exact Layout.nested_of_eq_nil (Layout.ident_skeleton ..)
  case h_9 r =>
    refine Layout.nested_of_eq_nil ?_
    show bracketsOf ("/" ++ r.pattern ++ "/") = []
    rw [bracketsOf_append, bracketsOf_append, List.isEmpty_iff.1 hroot]
    rfl
  case h_10 | h_11 => exact Layout.nested_of_eq_nil (List.isEmpty_iff.1 hroot)
  case h_14 id args =>
    have hhead := (unbracketed_iff.1 (hchildren (.sym id) (.head _))).1
    exact Layout.symbolForm_nested (bne_iff_ne.1 hhead) args
  case h_15 | h_16 => exact Layout.call_nested ..
  case h_18 kind items =>
    show WellBracketed (bracketsOf "["
      ++ ((Layout.joinNodes ", " items).skeleton ++ bracketsOf "]"))
    rw [Layout.joinNodes_skeleton rfl]
    rfl
  case h_19 kind pairs =>
    have hentries : (Layout.join ", " (pairs.map Layout.entry)).skeleton = [] := by
      rw [Layout.join_skeleton rfl, List.flatMap_eq_nil_iff]
      exact List.forall_mem_map.2 fun pair _ => rfl
    show WellBracketed (bracketsOf "\x7b"
      ++ ((Layout.join ", " (pairs.map Layout.entry)).skeleton ++ bracketsOf "\x7d"))
    rw [hentries]
    rfl
  all_goals rfl

/-- The nodes in the layout of a node copy no bracket if the node does not. -/
theorem Node.Unbracketed.layout_all {n : Node} (h : n.Unbracketed) :
    n.layout.All Node.Unbracketed :=
  Node.layout_all (hereditary_every copiesNoBracket) (fun _ => rfl) (unbracketed_iff.1 h).2

-- ================================================================ writing

/-- A computation whose texts, written in an open scope, are balanced. -/
def EmitM.WritesWellBracketed (m : EmitM String) : Prop :=
  ∀ r t r', m r = .ok t r' → r.scope.isSome → WellBracketed t.toList

theorem wellBracketed_intercalate {xs : List String} (h : ∀ x ∈ xs, WellBracketed x.toList) :
    WellBracketed (", ".intercalate xs).toList := by
  induction xs with
  | nil => rfl
  | cons x xs ih =>
      have hx := h x (.head _)
      have hxs := ih fun y hy => h y (.tail _ hy)
      by_cases hnil : xs = []
      · rw [hnil, String.intercalate_singleton]
        exact hx
      · have hsep : WellBracketed ", ".toList := rfl
        rw [String.intercalate_cons_of_ne_nil hnil, String.toList_append, String.toList_append]
        exact (hx.append hsep).append hxs

/-- Valid names are declared without brackets. -/
theorem Scope.declaration_wellBracketed {s : Scope} (h : ∀ x ∈ s.names, isIdentifier x) :
    WellBracketed s.declaration.toList := by
  have hnames : WellBracketed (", ".intercalate s.names).toList :=
    wellBracketed_intercalate fun x hx =>
      wellBracketed_of_bracketsOf (bracketsOf_identifier (h x hx))
  have hvar : WellBracketed "var ".toList := rfl
  have hseparator : WellBracketed separator.toList := rfl
  unfold declaration
  split
  · rfl
  · rw [String.toList_append, String.toList_append]
    exact (hvar.append hnames).append hseparator

theorem scan_terminate (s : List Char) (text : String) :
    scan s (terminate text).toList = scan s text.toList := by
  have hseparator : WellBracketed separator.toList := rfl
  unfold terminate
  split
  · rfl
  · rw [String.toList_append, scan_append]
    cases scan s text.toList with
    | none => rfl
    | some s' => exact hseparator.scan_eq s'

theorem EmitM.takeAll_wellBracketed {write : Node → EmitM String} {id : Identity}
    {items : List Node} (hdeclares : ∀ n, (write n).Declares)
    (h : ∀ n ∈ items, (write n).WritesWellBracketed) {index : Nat} {r r' : Run} {xs : List String}
    (hr : r.scope.isSome) (hrun : takeAll write id index items r = .ok xs r') :
    ∀ x ∈ xs, WellBracketed x.toList := by
  induction items generalizing index r xs with
  | nil =>
      cases hrun
      simp
  | cons n rest ih =>
      have hrest : ∀ m ∈ rest, (write m).WritesWellBracketed := fun m hm => h m (.tail _ hm)
      by_cases hpos : r.streams.position id ≤ index
      · obtain ⟨x, s, ys, hx, hys, rfl⟩ := (takeAll_cons_of_le hpos).1 hrun
        have hs : s.scope.isSome := ((hdeclares n).of_ok hx).isSome hr
        exact List.forall_mem_cons.2 ⟨h n (.head _) _ x s hx hr, ih hrest hs hys⟩
      · rw [takeAll_cons_of_lt (by omega)] at hrun
        exact ih hrest hr hrun

/-- What is written of a layout in an open scope is read like its skeleton, if
the texts of the children are balanced. -/
theorem Layout.run_scan {dedupe : Bool} {write : Node → EmitM String}
    (hdeclares : ∀ n, (write n).Declares) {l : Layout} (hl : l.NamesValid)
    (h : l.All fun n => (write n).WritesWellBracketed) {r r' : Run} {t : String}
    (hr : r.scope.isSome) (hrun : l.run dedupe write r = .ok t r') (s : List Char) :
    scan s t.toList = scan s l.skeleton := by
  have hopen {l : Layout} (hl : l.NamesValid) {r r' : Run} {t : String}
      (hr : r.scope.isSome) (hrun : l.run dedupe write r = .ok t r') : r'.scope.isSome :=
    ((run_declares hl (all_of_forall hdeclares l)).of_ok hrun).isSome hr
  induction l generalizing r r' t s with
  | text text =>
      cases hrun
      exact (scan_bracketsOf s text).symm
  | node n => exact (h r t r' hrun hr).scan_eq s
  | item n => exact (h r t r' (run_item_ok_iff.1 hrun) hr).scan_eq s
  | fail e => cases hrun
  | append a b iha ihb =>
      obtain ⟨x, u, y, hx, hy, rfl⟩ := run_append_ok_iff.1 hrun
      rw [String.toList_append, scan_append, iha hl.1 h.1 hr hx, skeleton, scan_append]
      exact congrArg _ (funext (ihb hl.2 h.2 (hopen hl.1 hr hx) hy))
  | late a b iha ihb =>
      obtain ⟨y, u, x, hy, hx, rfl⟩ := run_late_ok_iff.1 hrun
      rw [String.toList_append, scan_append, iha hl.1 h.1 (hopen hl.2 hr hy) hx, skeleton,
        scan_append]
      exact congrArg _ (funext (ihb hl.2 h.2 hr hy))
  | twice a between ih =>
      obtain ⟨x, hx, rfl⟩ := run_twice_ok_iff.1 hrun
      have hx := ih hl h hr hx
      rw [String.toList_append, String.toList_append, scan_append, scan_append, hx, skeleton,
        scan_append, scan_append]
      simp only [hx, scan_bracketsOf]
  | statement a ih =>
      obtain ⟨x, hx, rfl⟩ := run_statement_ok_iff.1 hrun
      rw [scan_terminate]
      exact ih hl h hr hx s
  | declare names =>
      cases hrun
      rfl
  | inline text =>
      have hnone : (inline text).run dedupe write r = .ok (if r.scope.isSome then "" else text) r :=
        rfl
      rw [hnone, if_pos hr] at hrun
      cases hrun
      rfl
  | enclosed a ih =>
      obtain ⟨x, u, hx, rfl, -⟩ := run_enclosed_ok_iff.1 hrun
      have hgrows := (run_declares (l := a) hl (all_of_forall hdeclares a)).of_ok hx
      obtain ⟨scope, hscope, -⟩ := hgrows.exists_some
      rw [hscope] at hgrows ⊢
      have hdeclaration := Scope.declaration_wellBracketed (hgrows.valid (by simp))
      rw [String.toList_append, scan_append]
      show (scan s scope.declaration.toList).bind _ = _
      rw [hdeclaration.scan_eq]
      exact ih hl h rfl hx s
  | stream id items =>
      obtain ⟨xs, hxs, rfl⟩ := run_stream_ok_iff.1 hrun
      have htexts := wellBracketed_intercalate (EmitM.takeAll_wellBracketed hdeclares h hr hxs)
      have hpair : WellBracketed (['['] ++ [']']) := rfl
      rw [String.toList_append, String.toList_append]
      exact (hpair.insert htexts).scan_eq s

-- =============================================================== emission

namespace Emitter

/-- A tree that copies no bracket into the script is written with its brackets
balanced. -/
theorem emitAt_wellBracketed {e : Emitter} (hforms : e.forms.Preserves Node.Unbracketed)
    (levels : Nat) (n : Node) : n.Unbracketed → (e.emitAt levels n).WritesWellBracketed := by
  refine e.emission_induction
    (P := fun levels n => n.Unbracketed → (e.emitAt levels n).WritesWellBracketed) ?_ ?_ ?_ levels n
  · intro n call hcall _ r t r' hrun
    rw [e.emitAt_zero_custom hcall] at hrun
    cases hrun
  · intro levels n call hcall ih hn r t r' hrun hr
    rw [e.emitAt_succ_custom hcall] at hrun
    obtain ⟨m, hexpand, hm⟩ := Call.expandWith_ok_iff.1 hrun
    obtain ⟨id, rfl, -, hform⟩ := Registry.customCall?_eq_some hcall
    have hargs : ∀ arg ∈ call.args, arg.Unbracketed := fun arg harg =>
      (Node.unbracketed_iff.1 hn).2 arg (.tail _ harg)
    exact ih m (hforms id.name call.form hform _ call.args m hargs hexpand) _ t r' hm hr
  · intro levels n hcall ih hn r t r' hrun hr
    rw [e.emitAt_of_not_custom hcall] at hrun
    have hscan := Layout.run_scan (e.emitAt_declares levels) n.layout_announced.namesValid
      (ih.mp hn.layout_all) hr hrun []
    rw [WellBracketed, hscan]
    exact Node.layout_nested hn

/-- A program writes no bracket itself. -/
theorem programLayout_skeleton (forms : List Node) : (programLayout forms).skeleton = [] := by
  unfold programLayout
  split
  · rfl
  · rfl
  · exact Layout.statements_skeleton _

theorem programLayout_all {p : Node → Prop} {forms : List Node} (h : ∀ n ∈ forms, p n) :
    (programLayout forms).All p := by
  unfold programLayout
  split
  · trivial
  · exact h _ (.head _)
  · exact Layout.statements_all h

/-- A script is balanced: if no symbol of the forms is named `quote` and no text
of a string, a regular expression, bytes or a host value holds a bracket, and
the custom forms make only such trees of such trees, then every closing bracket
of the script closes the latest one that is open, and none is left open. -/
theorem emitProgram_wellBracketed (e : Emitter) (hforms : e.forms.Preserves Node.Unbracketed)
    (forms : List Node) (h : ∀ n ∈ forms, n.Unbracketed) (r r' : Run) (t : String)
    (hrun : e.emitProgram forms r = .ok t r') : WellBracketed t.toList := by
  -- the text is the same in an open scope, in which nothing is written in place
  obtain ⟨t', hopen, rfl⟩ := (e.emitProgram_tracks forms (fun _ => some {}) r).ok hrun
  have hchildren := (programLayout_all h).imp (emitAt_wellBracketed hforms e.config.limit.toNat)
  have hscan := Layout.run_scan (e.emitAt_declares _) (programLayout_quiet forms).namesValid
    hchildren (r := r.rescope fun _ => some {}) rfl hopen []
  rw [WellBracketed, hscan, programLayout_skeleton]
  rfl

/-- An emitter with one custom form, which collects its arguments in an array. -/
def packing : Emitter where
  forms := Registry.empty.insert "pack" (CustomForm.collect .vector)

theorem packing_preserves : packing.forms.Preserves Node.Unbracketed := by
  intro name form hform stamp args n hargs hexpand
  rw [Registry.eq_of_get?_single hform] at hexpand
  cases hexpand
  exact Node.unbracketed_iff.2 ⟨rfl, hargs⟩

/-- A function that returns an entry of a packed array, and a call of it in a
try form. -/
def packedProgram : List Node :=
  let sym (name : String) : Node := .sym ⟨name, none⟩
  [.form [sym "fn", sym "f", .seq .vector [sym "x"],
      .form [sym "return", .form [sym "aget", .form [sym "pack", sym "x", .str "a\"b"], .int 0]]],
    .form [sym "try", .form [sym "f", .map .object [(.keyword ⟨"k", none⟩, .nil)]],
      .form [sym "catch", sym "e", .form [sym "var", sym "y", sym "e"]]]]

theorem packedProgram_wellBracketed :
    (∀ n ∈ packedProgram, n.Unbracketed)
      ∧ ∃ t s, packing.emitProgram packedProgram {} = .ok t s ∧ WellBracketed t.toList := by
  have hforms : ∀ n ∈ packedProgram, n.Unbracketed := by decide
  have hrun : packing.emitProgram packedProgram {}
      = .ok ("var f, y;\nf = function (x) \x7b\nreturn [x, \"a\\\"b\"][0];\n \x7d;\n"
            ++ "try\x7b\nf(\x7bk: null\x7d);\n\x7d\ncatch(e)\x7b\ny = e;\n\x7d\n;\n")
          { streams := { nextStamp := 1 }
            events := #[.expanding "pack"] } := rfl
  exact ⟨hforms, _, _, hrun,
    emitProgram_wellBracketed packing packing_preserves packedProgram hforms {} _ _ hrun⟩

end Emitter

end FormScript
