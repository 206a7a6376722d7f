/-
Template forms are hygienic. A call of a template form replaces the holes of its body,
each by what the call gives for the parameter of that name, and the names of the
parameters show nowhere else: a hole in an argument is never filled, even if it is named
like a parameter, and a form with other names for its parameters expands in the same way.

# Renaming

`Node.renameHoles` renames the holes of a template wherever filling looks for them. A
walk over the renamed template with renamed values meets the same values in the same
places, so it gives what the walk over the template itself gives
(`Supply.fillNode_rename`). It may give more: a hole that no parameter fills can get the
name of one.

# Counting

The form looks at the number of its arguments before it fills anything. Filling fails for
many reasons but never over a number of arguments (`FillM.Counted`), so a failure that
reports one means that the number was wrong.
-/
import FormScript.Proofs.Filling.Composition
import FormScript.Proofs.Parameters
import FormScript.Registry

namespace FormScript

-- =============================================================== renaming

/-- A hole under another name; one without a name stays without. -/
def Hole.rename (f : String → String) (h : Hole) : Hole := { h with name := h.name.map f }

namespace Node

mutual

/-- A template with its holes renamed. -/
def renameHoles (f : String → String) : Node → Node
  | .hole h => .hole (h.rename f)
  | .form items => .form (renameHolesIn f items)
  | .seq kind items => .seq kind (renameHolesIn f items)
  | .map kind pairs => .map kind (renameHolesInPairs f pairs)
  | n => n
termination_by structural n => n

def renameHolesIn (f : String → String) : List Node → List Node
  | [] => []
  | n :: rest => renameHoles f n :: renameHolesIn f rest
termination_by structural ns => ns

def renameHolesInPairs (f : String → String) : List (Node × Node) → List (Node × Node)
  | [] => []
  | (k, v) :: rest => (renameHoles f k, renameHoles f v) :: renameHolesInPairs f rest
termination_by structural ps => ps

end

end Node

/-- What is bound to a name in `b` is bound to its new name in `b'`. -/
def Bindings.Renamed (f : String → String) (b b' : Bindings) : Prop :=
  ∀ name value, b.get? name = some value → b'.get? (f name) = some value

namespace Supply

open FillM

variable {b b' : Bindings} {f : String → String}

theorem fillDictionary_gives_iff {pairs : List (Node × Node)} {u : Node} :
    (b.supply.fillNode (.map .dictionary pairs)).Gives u
      ↔ ∃ qs, (b.supply.fillEntries [] pairs).Gives qs ∧ u = .map .dictionary qs :=
  map_gives_iff (fillEntries_walks (fun p _ => ⟨replaces _ p.1, replaces _ p.2⟩) [] 0).dry

theorem fillEntries_cons_gives_iff {p : Node × Node} {entered rest qs : List (Node × Node)} :
    (b.supply.fillEntries entered (p :: rest)).Gives qs
      ↔ ∃ key value pairs, (b.supply.fillNode p.1).Gives key
        ∧ (b.supply.fillNode p.2).Gives value ∧ enterPair? entered key value = .ok pairs
        ∧ (b.supply.fillEntries pairs rest).Gives qs := by
  rw [fillEntries, bind_gives_iff (fillNode_dry p.1)]
  simp only [bind_gives_iff (fillNode_dry p.2)]
  constructor
  · rintro ⟨key, hkey, value, hvalue, hqs⟩
    cases henter : enterPair? entered key value with
    | error kind =>
        rw [henter] at hqs
        cases hqs
    | ok pairs =>
        rw [henter] at hqs
        exact ⟨key, value, pairs, hkey, hvalue, henter, hqs⟩
  · rintro ⟨key, value, pairs, hkey, hvalue, henter, hqs⟩
    refine ⟨key, hkey, value, hvalue, ?_⟩
    rw [henter]
    exact hqs

/-- A node gives under new names what it gives under the old ones. -/
def Renames (f : String → String) (b b' : Bindings) (n : Node) : Prop :=
  ∀ u, (b.supply.fillNode n).Gives u → (b'.supply.fillNode (n.renameHoles f)).Gives u

theorem part_rename (h : b.Renamed f b') {n : Node} (hn : Renames f b b' n) {us : List Node}
    (hus : (b.supply.part n).Gives us) : (b'.supply.part (n.renameHoles f)).Gives us := by
  cases n with
  | hole hole =>
      obtain ⟨name, v, hname, hv, hitems⟩ := insertion_gives_iff.1 hus
      refine insertion_gives_iff.2 ⟨f name, v, ?_, h name v hv, hitems⟩
      rw [Hole.rename, hname]
      rfl
  | _ =>
      obtain ⟨u, hu, rfl⟩ := (map_gives_iff (fillNode_dry _)).1 hus
      exact part_gives (hn u hu)

theorem fillItems_rename (h : b.Renamed f b') {items us : List Node}
    (hitems : ∀ n ∈ items, Renames f b b' n) (hus : (b.supply.fillItems items).Gives us) :
    (b'.supply.fillItems (Node.renameHolesIn f items)).Gives us := by
  induction items generalizing us with
  | nil => exact hus
  | cons n rest ih =>
      obtain ⟨first, others, hfirst, hothers, rfl⟩ := fillItems_cons_gives_iff.1 hus
      exact fillItems_cons_gives_iff.2 ⟨first, others, part_rename h (hitems n (.head _)) hfirst,
        ih (fun m hm => hitems m (.tail _ hm)) hothers, rfl⟩

theorem fillPairs_rename {pairs qs : List (Node × Node)}
    (hpairs : ∀ p ∈ pairs, Renames f b b' p.1 ∧ Renames f b b' p.2)
    (hqs : (b.supply.fillPairs pairs).Gives qs) :
    (b'.supply.fillPairs (Node.renameHolesInPairs f pairs)).Gives qs := by
  induction pairs generalizing qs with
  | nil => exact hqs
  | cons p rest ih =>
      obtain ⟨key, value, others, hkey, hvalue, hothers, rfl⟩ := fillPairs_cons_gives_iff.1 hqs
      obtain ⟨hfirst, hsecond⟩ := hpairs p (.head _)
      exact fillPairs_cons_gives_iff.2 ⟨key, value, others, hfirst key hkey, hsecond value hvalue,
        ih (fun m hm => hpairs m (.tail _ hm)) hothers, rfl⟩

theorem fillEntries_rename {pairs entered qs : List (Node × Node)}
    (hpairs : ∀ p ∈ pairs, Renames f b b' p.1 ∧ Renames f b b' p.2)
    (hqs : (b.supply.fillEntries entered pairs).Gives qs) :
    (b'.supply.fillEntries entered (Node.renameHolesInPairs f pairs)).Gives qs := by
  induction pairs generalizing entered with
  | nil => exact hqs
  | cons p rest ih =>
      obtain ⟨key, value, next, hkey, hvalue, henter, hrest⟩ := fillEntries_cons_gives_iff.1 hqs
      obtain ⟨hfirst, hsecond⟩ := hpairs p (.head _)
      exact fillEntries_cons_gives_iff.2 ⟨key, value, next, hfirst key hkey, hsecond value hvalue,
        henter, ih (fun m hm => hpairs m (.tail _ hm)) hrest⟩

theorem fillNode_rename (h : b.Renamed f b') (n : Node) : Renames f b b' n := by
  induction n using Node.children_induction with
  | step n ih =>
      intro u hu
      cases n with
      | hole hole =>
          obtain ⟨hsplice, name, hname, hvalue⟩ := fillHole_gives_iff.1 hu
          refine fillHole_gives_iff.2 ⟨hsplice, f name, ?_, h name u hvalue⟩
          rw [Hole.rename, hname]
          rfl
      | form items =>
          obtain ⟨us, hus, rfl⟩ := fillForm_gives_iff.1 hu
          exact fillForm_gives_iff.2 ⟨us, fillItems_rename h ih hus, rfl⟩
      | seq kind items =>
          obtain ⟨us, hus, rfl⟩ := fillSeq_gives_iff.1 hu
          exact fillSeq_gives_iff.2 ⟨us, fillItems_rename h ih hus, rfl⟩
      | map kind pairs =>
          have hpairs : ∀ p ∈ pairs, Renames f b b' p.1 ∧ Renames f b b' p.2 := fun p hp =>
            ⟨ih p.1 (Node.mem_children_of_mem kind hp).1,
              ih p.2 (Node.mem_children_of_mem kind hp).2⟩
          cases kind with
          | object =>
              obtain ⟨qs, hqs, rfl⟩ := fillObject_gives_iff.1 hu
              exact fillObject_gives_iff.2 ⟨qs, fillPairs_rename hpairs hqs, rfl⟩
          | dictionary =>
              obtain ⟨qs, hqs, rfl⟩ := fillDictionary_gives_iff.1 hu
              exact fillDictionary_gives_iff.2 ⟨qs, fillEntries_rename hpairs hqs, rfl⟩
      | _ => exact hu

end Supply

-- =============================================================== counting

/-- Whether a failure is over the number of arguments of a template form. -/
def Error.isMiscount : Error → Bool
  | .form (.templateArity ..) => true
  | _ => false

namespace FillM

variable {α β : Type}

/-- A computation that never fails over a number of arguments. -/
def Counted (m : FillM α) : Prop := ∀ left e, m left = .error e → e.isMiscount = false

theorem pure_counted (a : α) : (pure a : FillM α).Counted := by
  intro left e h
  cases h

theorem throw_counted {e : Error} (he : e.isMiscount = false) : (throw e : FillM α).Counted := by
  intro left e' h
  cases h
  exact he

theorem bind_counted {m : FillM α} {f : α → FillM β} (hm : m.Counted) (hf : ∀ a, (f a).Counted) :
    (m >>= f).Counted := by
  intro left e h
  replace h : (m left >>= fun x => f x.1 x.2) = .error e := h
  cases hfirst : m left with
  | error e' =>
      rw [hfirst] at h
      cases h
      exact hm left e hfirst
  | ok x =>
      rw [hfirst] at h
      exact hf x.1 x.2 e h

end FillM

namespace Supply

open FillM

variable {s : Supply}

theorem valueFor_counted (h : Hole) : (s.valueFor h).Counted := by
  unfold valueFor
  cases h.name with
  | some name =>
      dsimp only
      cases s.named.get? name with
      | some value => exact pure_counted value
      | none => exact throw_counted rfl
  | none =>
      intro left e herr
      cases left with
      | cons value rest => cases herr
      | nil =>
          cases herr
          rfl

theorem insertion_counted (h : Hole) : (s.insertion h).Counted := by
  refine bind_counted (valueFor_counted h) fun value => ?_
  cases h.splice with
  | false => exact pure_counted [value]
  | true =>
      rw [if_pos rfl, spliced_eq]
      cases value.splicedItems? with
      | none => exact throw_counted rfl
      | some items => exact pure_counted items

theorem fillItems_counted {items : List Node} (h : ∀ n ∈ items, (s.fillNode n).Counted) :
    (s.fillItems items).Counted := by
  induction items with
  | nil => exact pure_counted []
  | cons n rest ih =>
      have hpart : (s.part n).Counted := by
        have hn := h n (.head _)
        cases n with
        | hole hole => exact insertion_counted hole
        | _ => exact bind_counted hn fun u => pure_counted [u]
      rw [fillItems_cons]
      exact bind_counted hpart fun us =>
        bind_counted (ih fun m hm => h m (.tail _ hm)) fun others => pure_counted (us ++ others)

theorem fillPairs_counted {pairs : List (Node × Node)}
    (h : ∀ p ∈ pairs, (s.fillNode p.1).Counted ∧ (s.fillNode p.2).Counted) :
    (s.fillPairs pairs).Counted := by
  induction pairs with
  | nil => exact pure_counted []
  | cons p rest ih =>
      obtain ⟨hkey, hvalue⟩ := h p (.head _)
      exact bind_counted hkey fun key => bind_counted hvalue fun value =>
        bind_counted (ih fun m hm => h m (.tail _ hm)) fun others =>
          pure_counted ((key, value) :: others)

theorem fillEntries_counted {pairs : List (Node × Node)}
    (h : ∀ p ∈ pairs, (s.fillNode p.1).Counted ∧ (s.fillNode p.2).Counted)
    (entered : List (Node × Node)) : (s.fillEntries entered pairs).Counted := by
  induction pairs generalizing entered with
  | nil => exact pure_counted entered
  | cons p rest ih =>
      obtain ⟨hkey, hvalue⟩ := h p (.head _)
      refine bind_counted hkey fun key => bind_counted hvalue fun value => ?_
      cases enterPair? entered key value with
      | error kind => exact throw_counted rfl
      | ok pairs => exact ih (fun m hm => h m (.tail _ hm)) pairs

theorem fillNode_counted (n : Node) : (s.fillNode n).Counted := by
  induction n using Node.children_induction with
  | step n ih =>
      cases n with
      | hole hole =>
          unfold fillNode
          cases hole.splice with
          | true => exact throw_counted rfl
          | false => exact valueFor_counted hole
      | form items => exact bind_counted (fillItems_counted ih) fun _ => pure_counted _
      | seq kind items => exact bind_counted (fillItems_counted ih) fun _ => pure_counted _
      | map kind pairs =>
          have hpairs : ∀ p ∈ pairs, (s.fillNode p.1).Counted ∧ (s.fillNode p.2).Counted :=
            fun p hp => ⟨ih p.1 (Node.mem_children_of_mem kind hp).1,
              ih p.2 (Node.mem_children_of_mem kind hp).2⟩
          cases kind with
          | object => exact bind_counted (fillPairs_counted hpairs) fun _ => pure_counted _
          | dictionary =>
              exact bind_counted (fillEntries_counted hpairs []) fun _ => pure_counted _
      | _ => exact pure_counted _

/-- Filling never fails over a number of arguments. -/
theorem fill_not_miscount {t : Node} {e : Error} (h : s.fill t = .error e) :
    e.isMiscount = false := by
  unfold fill at h
  cases hname : s.named.binds reservedName with
  | true =>
      rw [hname] at h
      cases h
      rfl
  | false =>
      rw [hname] at h
      replace h : (s.fillNode t s.positional >>= fun x => _) = Except.error e := h
      cases hwalk : s.fillNode t s.positional with
      | error e' =>
          rw [hwalk] at h
          cases h
          exact fillNode_counted t _ e hwalk
      | ok x =>
          obtain ⟨u, left⟩ := x
          rw [hwalk] at h
          cases left with
          | nil => cases h
          | cons value rest =>
              cases h
              rfl

/-- What a template is filled to is the template with its holes replaced. -/
theorem fill_eq_replace {t u : Node} (h : s.fill t = .ok u) : u = s.replace 0 t := by
  have hwalk := (fill_ok_iff.1 h).2
  obtain ⟨-, -, hu, -⟩ := (s.replaces t 0 u []).1 hwalk
  exact hu

end Supply

-- ========================================================= template forms

namespace CustomForm

variable {p : Params} {name : String} {body : Node} {args : List Node}

theorem expandTemplate_of_misfits (h : p.Misfits args.length) :
    expandTemplate name p body args = .error (p.arityError name args.length) := by
  rw [expandTemplate, if_neg (mt Params.accepts_iff.1 (not_not_intro h))]

theorem expandTemplate_of_not_misfits (h : ¬p.Misfits args.length) :
    expandTemplate name p body args = (p.bind args).supply.fill body := by
  rw [expandTemplate, if_pos (Params.accepts_iff.2 h)]
  rfl

theorem expandTemplate_miscount_iff :
    expandTemplate name p body args = .error (p.arityError name args.length)
      ↔ p.Misfits args.length := by
  refine ⟨fun herr => ?_, expandTemplate_of_misfits⟩
  by_contra hfits
  rw [expandTemplate_of_not_misfits hfits] at herr
  cases Supply.fill_not_miscount herr

/-- A renaming of the parameters, apart from each other and from the reserved name, keeps
an expansion. -/
theorem expandTemplate_rename {f : String → String} {u : Node}
    (hf : ∀ x ∈ p.names, ∀ y ∈ p.names, f x = f y → x = y)
    (hreserved : ∀ x ∈ p.names, f x ≠ reservedName)
    (h : expandTemplate name p body args = .ok u) :
    expandTemplate name (p.rename f) (body.renameHoles f) args = .ok u := by
  have hfits : ¬p.Misfits args.length := by
    intro hmisfits
    rw [expandTemplate_of_misfits hmisfits] at h
    cases h
  have hlength := Params.length_le_of_not_misfits hfits
  have hfits' : ¬(p.rename f).Misfits args.length := mt (Params.misfits_rename f).1 hfits
  have hlength' := Params.length_le_of_not_misfits hfits'
  have hrenamed : (p.bind args).Renamed f ((p.rename f).bind args) := by
    intro x value hvalue
    have hx : x ∈ p.names := by
      by_contra hx
      rw [Params.get?_bind_of_notMem hlength hx] at hvalue
      cases hvalue
    rw [Params.get?_bind_rename hf hlength hx]
    exact hvalue
  have hname : ((p.rename f).bind args).binds reservedName = false := by
    rw [← Bindings.get?_isSome, Params.get?_bind_of_notMem hlength']
    · rfl
    · rw [Params.names_rename, List.mem_map]
      rintro ⟨x, hx, heq⟩
      exact hreserved x hx heq
  rw [expandTemplate_of_not_misfits hfits] at h
  rw [expandTemplate_of_not_misfits hfits']
  obtain ⟨-, hu⟩ := Bindings.fill_ok_iff_gives.1 h
  exact Bindings.fill_ok_iff_gives.2 ⟨hname, Supply.fillNode_rename hrenamed body u hu⟩

theorem template_of_parse {names : List String} (hp : Params.parse names = .ok p) (doc : String) :
    template name names body doc
      = .ok { expand := fun _ args => expandTemplate name p body args
              origin := templateOrigin
              doc } := by
  rw [template, hp]

/-- Template forms are hygienic and count their arguments. A form whose parameters have
names of their own refuses a call over the number of arguments exactly if there are fewer
than its fixed parameters, or more and no rest parameter. Any other call fills the body
from what the parameters stand for, failing if that fails, and expands to the body with
its holes replaced. The parameters can be renamed, in the list and in the body, without
a change to what any call expands to. -/
theorem template_hygienic {names : List String} (hparse : Params.parse names = .ok p)
    (hnames : p.names.Nodup) (name : String) (body : Node) (doc : String) :
    (restMarker ∉ p.fixed ∧ p.listed = names)
      ∧ ∃ form, template name names body doc = .ok form
        ∧ (∀ stamp args, form.expand stamp args = .error (p.arityError name args.length)
            ↔ p.Misfits args.length)
        ∧ (∀ stamp args, ¬p.Misfits args.length →
            p.Assigns args (p.bind args)
              ∧ form.expand stamp args = (p.bind args).supply.fill body
              ∧ ∀ u, form.expand stamp args = .ok u → u = (p.bind args).supply.replace 0 body)
        ∧ ∀ f : String → String, (∀ x ∈ p.names, ∀ y ∈ p.names, f x = f y → x = y) →
            (∀ x ∈ p.names, f x ≠ reservedName ∧ f x ≠ restMarker) →
            ∃ renamed, template name (p.rename f).listed (body.renameHoles f) doc = .ok renamed
              ∧ ∀ stamp args u, form.expand stamp args = .ok u →
                renamed.expand stamp args = .ok u := by
  refine ⟨Params.parse_eq_ok_iff.1 hparse, _, template_of_parse hparse doc, fun _ args => ?_,
    fun _ args hfits => ?_, fun f hf havoids => ?_⟩
  · exact expandTemplate_miscount_iff
  · have hexpand : expandTemplate name p body args = (p.bind args).supply.fill body :=
      expandTemplate_of_not_misfits hfits
    refine ⟨Params.assigns_bind hnames (Params.length_le_of_not_misfits hfits), hexpand,
      fun u hu => ?_⟩
    exact Supply.fill_eq_replace (hexpand.symm.trans hu)
  · have hmarker : restMarker ∉ (p.rename f).fixed := by
      intro hmem
      obtain ⟨x, hx, heq⟩ := List.mem_map.1 hmem
      exact (havoids x (List.mem_append_left _ hx)).2 heq
    have hparse' : Params.parse (p.rename f).listed = .ok (p.rename f) :=
      Params.parse_eq_ok_iff.2 ⟨hmarker, rfl⟩
    exact ⟨_, template_of_parse hparse' doc, fun _ args u hu =>
      expandTemplate_rename hf (fun x hx => (havoids x hx).1) hu⟩

/-- A guard with any number of statements. -/
def guardParams : Params where
  fixed := ["test"]
  rest := some "body"

def guardBody : Node :=
  .form [.sym ⟨"if", none⟩, .hole ⟨some "test", false⟩,
    .form [.sym ⟨"do", none⟩, .hole ⟨some "body", true⟩]]

/-- Arguments that are holes, each with the name of the other's parameter. -/
def guardArgs : List Node := [.hole ⟨some "body", false⟩, .hole ⟨some "test", false⟩, .int 1]

def guardExpansion : Node :=
  .form [.sym ⟨"if", none⟩, .hole ⟨some "body", false⟩,
    .form [.sym ⟨"do", none⟩, .hole ⟨some "test", false⟩, .int 1]]

/-- The names of the two parameters exchanged. -/
def exchanged (name : String) : String :=
  if name = "test" then "body" else if name = "body" then "test" else name

/-- The holes in the arguments stay where they are put, under either naming. -/
theorem guardBody_hygienic :
    Params.parse ["test", "&rest", "body"] = .ok guardParams ∧ guardParams.names.Nodup
      ∧ ∃ form renamed, template "guard" ["test", "&rest", "body"] guardBody = .ok form
        ∧ template "guard" ["body", "&rest", "test"] (guardBody.renameHoles exchanged) = .ok renamed
        ∧ form.expand 0 [] = .error (.form (.templateArity "guard" 1 true 0))
        ∧ form.expand 0 guardArgs = .ok guardExpansion
        ∧ renamed.expand 0 guardArgs = .ok guardExpansion := by
  have hparse : Params.parse ["test", "&rest", "body"] = .ok guardParams := rfl
  have hnames : guardParams.names.Nodup := by decide
  obtain ⟨-, form, hform, hcount, hfill, hrename⟩ :=
    template_hygienic hparse hnames "guard" guardBody ""
  obtain ⟨renamed, hrenamed, hsame⟩ := hrename exchanged (by decide) (by decide)
  have hfilled := (hfill 0 guardArgs (by decide)).2.1
  exact ⟨hparse, hnames, form, renamed, hform, hrenamed, (hcount 0 []).2 (by decide), hfilled,
    hsame 0 guardArgs guardExpansion hfilled⟩

end CustomForm

end FormScript
