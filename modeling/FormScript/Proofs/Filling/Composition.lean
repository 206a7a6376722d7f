/-
Filling from names acts on templates. To fill a template and then to fill the result
is to fill the template once, from the values that were filled first; and a template
whose holes are filled with themselves stays as it is.

# Filling from names alone

A supply without positional values never has any left, so a walk with it either fails or
gives a result and nothing else (`FillM.Gives`). What it gives for a node follows from
what it gives for the parts of the node, in both directions, and each kind of node has
its equivalence here.

# Splices

A splice is where the two fillings meet at different places: the second one finds the
items of a value among the items of the container around the splice, and the first one
had them in a container of their own. Filling a list in two pieces gives the two results
one after the other (`Supply.fillItems_append`), so the difference does not show.

Dictionaries are left out of templates: a hole can be a key where its value cannot, so
the second filling may fail to build a dictionary that the first one built.
-/
import FormScript.Proofs.Filling.Substitution

namespace FormScript

-- ========================================================== names alone

namespace FillM

variable {α β : Type} {m : FillM α}

/-- Without positional values, a computation gives a result. -/
def Gives (m : FillM α) (a : α) : Prop := m [] = .ok (a, [])

/-- Without positional values, a computation leaves none. -/
def Dry (m : FillM α) : Prop := ∀ a left, m [] = .ok (a, left) → left = []

theorem pure_gives_iff {a b : α} : Gives (pure a) b ↔ b = a := by
  show Except.ok (a, []) = Except.ok (b, []) ↔ _
  simp [eq_comm]

theorem refuse_not_gives (cause : TemplateError) (a : α) : ¬(Supply.refuse cause).Gives a := by
  intro h
  cases h

theorem bind_gives_iff {f : α → FillM β} {b : β} (hm : m.Dry) :
    (m >>= f).Gives b ↔ ∃ a, m.Gives a ∧ (f a).Gives b := by
  unfold Gives
  rw [bind_ok_iff]
  constructor
  · rintro ⟨a, between, hfirst, hsecond⟩
    cases hm a between hfirst
    exact ⟨a, hfirst, hsecond⟩
  · rintro ⟨a, hfirst, hsecond⟩
    exact ⟨a, [], hfirst, hsecond⟩

/-- A last step that only turns the result. -/
theorem map_gives_iff {g : α → β} {b : β} (hm : m.Dry) :
    (m >>= fun a => pure (g a)).Gives b ↔ ∃ a, m.Gives a ∧ b = g a := by
  simp only [bind_gives_iff hm, pure_gives_iff]

end FillM

/-- A supply of these values by name, and of no others. -/
def Bindings.supply (b : Bindings) : Supply := { named := b }

namespace Supply

open FillM

variable {b : Bindings}

theorem Walks.dry {α : Type} {slots : List Slot} {P : Prop} {m : FillM α} {a : α}
    (h : b.supply.Walks 0 slots P m a) : m.Dry := by
  intro c left hm
  obtain ⟨-, -, -, hleft⟩ := (h c left).1 hm
  rw [hleft]
  exact List.drop_nil

theorem fillNode_dry (n : Node) : (b.supply.fillNode n).Dry :=
  (replaces b.supply n 0).dry

theorem fillItems_dry (items : List Node) : (b.supply.fillItems items).Dry :=
  (fillItems_walks (fun n _ => replaces _ n) 0).dry

theorem fillPairs_dry (pairs : List (Node × Node)) : (b.supply.fillPairs pairs).Dry :=
  (fillPairs_walks (fun p _ => ⟨replaces _ p.1, replaces _ p.2⟩) 0).dry

theorem valueFor_dry (h : Hole) : (b.supply.valueFor h).Dry := by
  intro v left hv
  have hvalue : b.supply.valueFor h (b.supply.positional.drop 0) = .ok (v, left) := hv
  obtain ⟨-, hleft⟩ := (valueFor_ok_iff ⟨h, false⟩).1 hvalue
  rw [hleft]
  exact List.drop_nil

-- ================================================================= holes

theorem valueFor_gives_iff {h : Hole} {v : Node} :
    (b.supply.valueFor h).Gives v ↔ ∃ name, h.name = some name ∧ b.get? name = some v := by
  have hnamed : b.supply.named = b := rfl
  unfold valueFor
  cases h.name with
  | none => exact iff_of_false (refuse_not_gives _ v) (by simp)
  | some name =>
      simp only [Option.some.injEq, exists_eq_left']
      rw [hnamed]
      cases b.get? name with
      | none => exact iff_of_false (refuse_not_gives _ v) (by simp)
      | some value => exact pure_gives_iff.trans (by simp [eq_comm])

/-- A hole that stands alone gives way to its value. -/
theorem fillHole_gives_iff {h : Hole} {u : Node} :
    (b.supply.fillNode (.hole h)).Gives u
      ↔ h.splice = false ∧ ∃ name, h.name = some name ∧ b.get? name = some u := by
  rw [fillNode]
  cases h.splice with
  | true => exact iff_of_false (refuse_not_gives _ u) (by simp)
  | false =>
      rw [if_neg Bool.false_ne_true, valueFor_gives_iff]
      simp

/-- A hole among items gives way to its value, or to the items of its value. -/
theorem insertion_gives_iff {h : Hole} {us : List Node} :
    (b.supply.insertion h).Gives us
      ↔ ∃ name v, h.name = some name ∧ b.get? name = some v
        ∧ if h.splice then v.splicedItems? = some us else us = [v] := by
  rw [insertion, bind_gives_iff (valueFor_dry h)]
  simp only [valueFor_gives_iff]
  have hitems (v : Node) : (if h.splice then spliced h v else pure [v] : FillM (List Node)).Gives us
      ↔ if h.splice then v.splicedItems? = some us else us = [v] := by
    cases h.splice with
    | false => exact pure_gives_iff
    | true =>
        rw [if_pos rfl, if_pos rfl, spliced_eq]
        cases v.splicedItems? with
        | none => exact iff_of_false (refuse_not_gives _ us) (by simp)
        | some items => exact pure_gives_iff.trans (by simp [eq_comm])
  simp only [hitems]
  constructor
  · rintro ⟨v, ⟨name, hname, hv⟩, hus⟩
    exact ⟨name, v, hname, hv, hus⟩
  · rintro ⟨name, v, hname, hv, hus⟩
    exact ⟨v, ⟨name, hname, hv⟩, hus⟩

-- ============================================================ containers

theorem fillForm_gives_iff {items : List Node} {u : Node} :
    (b.supply.fillNode (.form items)).Gives u
      ↔ ∃ us, (b.supply.fillItems items).Gives us ∧ u = .form us :=
  map_gives_iff (fillItems_dry items)

theorem fillSeq_gives_iff {kind : SeqKind} {items : List Node} {u : Node} :
    (b.supply.fillNode (.seq kind items)).Gives u
      ↔ ∃ us, (b.supply.fillItems items).Gives us ∧ u = .seq kind us :=
  map_gives_iff (fillItems_dry items)

theorem fillObject_gives_iff {pairs : List (Node × Node)} {u : Node} :
    (b.supply.fillNode (.map .object pairs)).Gives u
      ↔ ∃ qs, (b.supply.fillPairs pairs).Gives qs ∧ u = .map .object qs :=
  map_gives_iff (fillPairs_dry pairs)

/-- A container whose items can be spliced keeps them apart when it is filled. -/
theorem exists_splicedItems {v w : Node} {items : List Node} (h : (b.supply.fillNode v).Gives w)
    (hitems : v.splicedItems? = some items) :
    ∃ us, w.splicedItems? = some us ∧ (b.supply.fillItems items).Gives us := by
  cases v with
  | form =>
      cases hitems
      obtain ⟨us, hus, rfl⟩ := fillForm_gives_iff.1 h
      exact ⟨us, rfl, hus⟩
  | seq =>
      cases hitems
      obtain ⟨us, hus, rfl⟩ := fillSeq_gives_iff.1 h
      exact ⟨us, rfl, hus⟩
  | _ => cases hitems

/-- What a node among items is turned into. -/
def part (s : Supply) : Node → FillM (List Node)
  | .hole h => s.insertion h
  | n => s.fillNode n >>= fun u => pure [u]

theorem part_dry (n : Node) : (b.supply.part n).Dry := by
  cases n with
  | hole h => exact (insertion_walks h).dry
  | _ => exact (map_walks (replaces b.supply _ 0) _).dry

/-- What fills a node alone fills it among items. -/
theorem part_gives {n u : Node} (h : (b.supply.fillNode n).Gives u) :
    (b.supply.part n).Gives [u] := by
  cases n with
  | hole hole =>
      obtain ⟨hsplice, name, hname, hu⟩ := fillHole_gives_iff.1 h
      refine insertion_gives_iff.2 ⟨name, u, hname, hu, ?_⟩
      rw [hsplice]
      rfl
  | _ => exact (map_gives_iff (fillNode_dry _)).2 ⟨u, h, rfl⟩

theorem fillItems_cons (s : Supply) (n : Node) (rest : List Node) :
    s.fillItems (n :: rest)
      = s.part n >>= fun us => s.fillItems rest >>= fun others => pure (us ++ others) := by
  cases n with
  | hole h => exact fillItems_hole_cons s h rest
  | _ =>
      show _ = (s.fillNode _ >>= fun u => pure [u]) >>= _
      rw [bind_assoc]
      rfl

theorem fillItems_cons_gives_iff {n : Node} {rest us : List Node} :
    (b.supply.fillItems (n :: rest)).Gives us
      ↔ ∃ first others, (b.supply.part n).Gives first ∧ (b.supply.fillItems rest).Gives others
        ∧ us = first ++ others := by
  rw [fillItems_cons, bind_gives_iff (part_dry n)]
  simp only [map_gives_iff (fillItems_dry rest), exists_and_left]

/-- A list is filled piece by piece. -/
theorem fillItems_append {xs ys us vs : List Node} (hxs : (b.supply.fillItems xs).Gives us)
    (hys : (b.supply.fillItems ys).Gives vs) :
    (b.supply.fillItems (xs ++ ys)).Gives (us ++ vs) := by
  induction xs generalizing us with
  | nil =>
      cases pure_gives_iff.1 hxs
      exact hys
  | cons n xs ih =>
      obtain ⟨first, others, hfirst, hothers, rfl⟩ := fillItems_cons_gives_iff.1 hxs
      rw [List.append_assoc]
      exact fillItems_cons_gives_iff.2 ⟨first, others ++ vs, hfirst, ih hothers, rfl⟩

theorem fillItems_singleton {n u : Node} (h : (b.supply.fillNode n).Gives u) :
    (b.supply.fillItems [n]).Gives [u] :=
  fillItems_cons_gives_iff.2 ⟨[u], [], part_gives h, pure_gives_iff.2 rfl, rfl⟩

theorem fillPairs_cons_gives_iff {p : Node × Node} {rest qs : List (Node × Node)} :
    (b.supply.fillPairs (p :: rest)).Gives qs
      ↔ ∃ key value others, (b.supply.fillNode p.1).Gives key
        ∧ (b.supply.fillNode p.2).Gives value ∧ (b.supply.fillPairs rest).Gives others
        ∧ qs = (key, value) :: others := by
  rw [fillPairs, bind_gives_iff (fillNode_dry p.1)]
  simp only [bind_gives_iff (fillNode_dry p.2), map_gives_iff (fillPairs_dry rest),
    exists_and_left]

end Supply

-- =========================================================== composition

namespace Bindings

open FillM Supply

variable {s r s' : Bindings}

/-- Filling a node from `s` and the result from `r` is filling it from `s'`. -/
def Composes (s r s' : Bindings) (n : Node) : Prop :=
  ∀ u, (s.supply.fillNode n).Gives u →
    ∃ w, (r.supply.fillNode u).Gives w ∧ (s'.supply.fillNode n).Gives w

/-- The value of a hole in `s`, filled from `r`, is its value in `s'`. -/
def Carries (s r s' : Bindings) (h : Hole) : Prop :=
  ∀ name, h.name = some name →
    ∃ v w, s.get? name = some v ∧ (r.supply.fillNode v).Gives w ∧ s'.get? name = some w

/-- What is put in the place of a hole is filled in that place. -/
theorem insertion_composes {h : Hole} (hcarries : Carries s r s' h) {us : List Node}
    (hus : (s.supply.insertion h).Gives us) :
    ∃ ws, (r.supply.fillItems us).Gives ws ∧ (s'.supply.insertion h).Gives ws := by
  obtain ⟨name, v, hname, hv, hitems⟩ := insertion_gives_iff.1 hus
  obtain ⟨v', w, hv', hw, hs'⟩ := hcarries name hname
  cases hv.symm.trans hv'
  cases hsplice : h.splice with
  | true =>
      rw [hsplice, if_pos rfl] at hitems
      obtain ⟨ws, hws, hfilled⟩ := exists_splicedItems hw hitems
      refine ⟨ws, hfilled, insertion_gives_iff.2 ⟨name, w, hname, hs', ?_⟩⟩
      rw [hsplice, if_pos rfl, hws]
  | false =>
      rw [hsplice, if_neg Bool.false_ne_true] at hitems
      refine ⟨[w], ?_, insertion_gives_iff.2 ⟨name, w, hname, hs', ?_⟩⟩
      · rw [hitems]
        exact fillItems_singleton hw
      · rw [hsplice, if_neg Bool.false_ne_true]

theorem part_composes {n : Node} (hn : Composes s r s' n)
    (hcarries : ∀ p ∈ n.slots, Carries s r s' p.hole) {us : List Node}
    (hus : (s.supply.part n).Gives us) :
    ∃ ws, (r.supply.fillItems us).Gives ws ∧ (s'.supply.part n).Gives ws := by
  cases n with
  | hole h => exact insertion_composes (hcarries ⟨h, false⟩ (.head _)) hus
  | _ =>
      obtain ⟨u, hu, rfl⟩ := (map_gives_iff (fillNode_dry _)).1 hus
      obtain ⟨w, hw, hs'⟩ := hn u hu
      exact ⟨[w], fillItems_singleton hw, part_gives hs'⟩

theorem fillItems_composes {items : List Node}
    (h : ∀ n ∈ items, Composes s r s' n ∧ ∀ p ∈ n.slots, Carries s r s' p.hole) {us : List Node}
    (hus : (s.supply.fillItems items).Gives us) :
    ∃ ws, (r.supply.fillItems us).Gives ws ∧ (s'.supply.fillItems items).Gives ws := by
  induction items generalizing us with
  | nil =>
      cases pure_gives_iff.1 hus
      exact ⟨[], pure_gives_iff.2 rfl, pure_gives_iff.2 rfl⟩
  | cons n rest ih =>
      obtain ⟨first, others, hfirst, hothers, rfl⟩ := fillItems_cons_gives_iff.1 hus
      obtain ⟨hn, hcarries⟩ := h n (.head _)
      obtain ⟨ws, hws, hs'⟩ := part_composes hn hcarries hfirst
      obtain ⟨ws', hws', hs''⟩ := ih (fun m hm => h m (.tail _ hm)) hothers
      exact ⟨ws ++ ws', fillItems_append hws hws',
        fillItems_cons_gives_iff.2 ⟨ws, ws', hs', hs'', rfl⟩⟩

theorem fillPairs_composes {pairs : List (Node × Node)}
    (h : ∀ p ∈ pairs, Composes s r s' p.1 ∧ Composes s r s' p.2) {qs : List (Node × Node)}
    (hqs : (s.supply.fillPairs pairs).Gives qs) :
    ∃ ws, (r.supply.fillPairs qs).Gives ws ∧ (s'.supply.fillPairs pairs).Gives ws := by
  induction pairs generalizing qs with
  | nil =>
      cases pure_gives_iff.1 hqs
      exact ⟨[], pure_gives_iff.2 rfl, pure_gives_iff.2 rfl⟩
  | cons p rest ih =>
      obtain ⟨key, value, others, hkey, hvalue, hothers, rfl⟩ := fillPairs_cons_gives_iff.1 hqs
      obtain ⟨hp, hp'⟩ := h p (.head _)
      obtain ⟨k, hk, hk'⟩ := hp key hkey
      obtain ⟨v, hv, hv'⟩ := hp' value hvalue
      obtain ⟨ws, hws, hws'⟩ := ih (fun m hm => h m (.tail _ hm)) hothers
      exact ⟨(k, v) :: ws, fillPairs_cons_gives_iff.2 ⟨k, v, ws, hk, hv, hws, rfl⟩,
        fillPairs_cons_gives_iff.2 ⟨k, v, ws, hk', hv', hws', rfl⟩⟩

end Bindings

namespace Node

/-- Whether a node is a dictionary. -/
def isDictionary : Node → Bool
  | .map .dictionary _ => true
  | _ => false

/-- The names of the holes of a template. -/
def holeNames (t : Node) : List String := t.slots.filterMap (·.hole.name)

variable {P : Hole → Prop}

/-- What holds of the holes among items holds of the holes of each of them. -/
theorem forall_slots_of_slotsIn {items : List Node} (h : ∀ p ∈ slotsIn items, P p.hole) :
    ∀ n ∈ items, ∀ p ∈ n.slots, P p.hole := by
  induction items with
  | nil => simp
  | cons n rest ih =>
      have hboth : (∀ p ∈ n.slots, P p.hole) ∧ ∀ p ∈ slotsIn rest, P p.hole := by
        cases n with
        | hole hole =>
            obtain ⟨hfirst, hrest⟩ := List.forall_mem_cons.1 h
            refine ⟨fun p hp => ?_, hrest⟩
            rw [List.mem_singleton.1 hp]
            exact hfirst
        | _ => exact List.forall_mem_append.1 h
      exact List.forall_mem_cons.2 ⟨hboth.1, ih hboth.2⟩

theorem forall_slots_of_slotsInPairs {pairs : List (Node × Node)}
    (h : ∀ p ∈ slotsInPairs pairs, P p.hole) :
    ∀ q ∈ pairs, (∀ p ∈ q.1.slots, P p.hole) ∧ ∀ p ∈ q.2.slots, P p.hole := by
  induction pairs with
  | nil => simp
  | cons q rest ih =>
      obtain ⟨hkey, hmore⟩ := List.forall_mem_append.1 h
      obtain ⟨hvalue, hrest⟩ := List.forall_mem_append.1 hmore
      exact List.forall_mem_cons.2 ⟨⟨hkey, hvalue⟩, ih hrest⟩

end Node

namespace Bindings

open FillM Supply

variable {s r s' : Bindings}

/-- Two fillings of a template are one. -/
theorem composes {t : Node} (ht : t.every (!·.isDictionary))
    (h : ∀ p ∈ t.slots, Carries s r s' p.hole) : Composes s r s' t := by
  induction t using Node.children_induction with
  | step t ih =>
      obtain ⟨hself, hchildren⟩ := Node.every_iff.1 ht
      intro u hu
      cases t with
      | hole hole =>
          obtain ⟨hsplice, name, hname, hv⟩ := fillHole_gives_iff.1 hu
          obtain ⟨v, w, hv', hw, hs'⟩ := h ⟨hole, false⟩ (.head _) name hname
          cases hv.symm.trans hv'
          exact ⟨w, hw, fillHole_gives_iff.2 ⟨hsplice, name, hname, hs'⟩⟩
      | form items =>
          have hslots := Node.forall_slots_of_slotsIn h
          obtain ⟨us, hus, rfl⟩ := fillForm_gives_iff.1 hu
          obtain ⟨ws, hws, hs'⟩ := fillItems_composes
            (fun n hn => ⟨ih n hn (hchildren n hn) (hslots n hn), hslots n hn⟩) hus
          exact ⟨.form ws, fillForm_gives_iff.2 ⟨ws, hws, rfl⟩, fillForm_gives_iff.2 ⟨ws, hs', rfl⟩⟩
      | seq kind items =>
          have hslots := Node.forall_slots_of_slotsIn h
          obtain ⟨us, hus, rfl⟩ := fillSeq_gives_iff.1 hu
          obtain ⟨ws, hws, hs'⟩ := fillItems_composes
            (fun n hn => ⟨ih n hn (hchildren n hn) (hslots n hn), hslots n hn⟩) hus
          exact ⟨.seq kind ws, fillSeq_gives_iff.2 ⟨ws, hws, rfl⟩,
            fillSeq_gives_iff.2 ⟨ws, hs', rfl⟩⟩
      | map kind pairs =>
          cases kind with
          | dictionary => cases hself
          | object =>
              have hslots := Node.forall_slots_of_slotsInPairs h
              have hpairs : ∀ p ∈ pairs, Composes s r s' p.1 ∧ Composes s r s' p.2 := by
                intro p hp
                obtain ⟨hkey, hvalue⟩ := Node.mem_children_of_mem .object hp
                exact ⟨ih p.1 hkey (hchildren _ hkey) (hslots p hp).1,
                  ih p.2 hvalue (hchildren _ hvalue) (hslots p hp).2⟩
              obtain ⟨qs, hqs, rfl⟩ := fillObject_gives_iff.1 hu
              obtain ⟨ws, hws, hs'⟩ := fillPairs_composes hpairs hqs
              exact ⟨.map .object ws, fillObject_gives_iff.2 ⟨ws, hws, rfl⟩,
                fillObject_gives_iff.2 ⟨ws, hs', rfl⟩⟩
      | _ =>
          cases pure_gives_iff.1 hu
          exact ⟨_, pure_gives_iff.2 rfl, pure_gives_iff.2 rfl⟩

-- ============================================================== identity

/-- A hole is its own value. -/
def Keeps (s : Bindings) (h : Hole) : Prop := (s.supply.fillNode (.hole h)).Gives (.hole h)

theorem fillItems_self {items : List Node} (h : ∀ n ∈ items, (s.supply.fillNode n).Gives n) :
    (s.supply.fillItems items).Gives items := by
  induction items with
  | nil => exact pure_gives_iff.2 rfl
  | cons n rest ih =>
      obtain ⟨hn, hrest⟩ := List.forall_mem_cons.1 h
      exact fillItems_append (fillItems_singleton hn) (ih hrest)

theorem fillPairs_self {pairs : List (Node × Node)}
    (h : ∀ p ∈ pairs, (s.supply.fillNode p.1).Gives p.1 ∧ (s.supply.fillNode p.2).Gives p.2) :
    (s.supply.fillPairs pairs).Gives pairs := by
  induction pairs with
  | nil => exact pure_gives_iff.2 rfl
  | cons p rest ih =>
      obtain ⟨⟨hkey, hvalue⟩, hrest⟩ := List.forall_mem_cons.1 h
      exact fillPairs_cons_gives_iff.2 ⟨p.1, p.2, rest, hkey, hvalue, ih hrest, rfl⟩

/-- A template whose holes are filled with themselves stays as it is. -/
theorem fillNode_self {t : Node} (ht : t.every (!·.isDictionary))
    (h : ∀ p ∈ t.slots, Keeps s p.hole) :
    (s.supply.fillNode t).Gives t := by
  induction t using Node.children_induction with
  | step t ih =>
      obtain ⟨hself, hchildren⟩ := Node.every_iff.1 ht
      cases t with
      | hole hole => exact h ⟨hole, false⟩ (.head _)
      | form items =>
          have hslots := Node.forall_slots_of_slotsIn h
          have hitems := fillItems_self fun n hn => ih n hn (hchildren n hn) (hslots n hn)
          exact fillForm_gives_iff.2 ⟨items, hitems, rfl⟩
      | seq kind items =>
          have hslots := Node.forall_slots_of_slotsIn h
          have hitems := fillItems_self fun n hn => ih n hn (hchildren n hn) (hslots n hn)
          exact fillSeq_gives_iff.2 ⟨items, hitems, rfl⟩
      | map kind pairs =>
          cases kind with
          | dictionary => cases hself
          | object =>
              have hslots := Node.forall_slots_of_slotsInPairs h
              refine fillObject_gives_iff.2 ⟨pairs, fillPairs_self fun p hp => ?_, rfl⟩
              obtain ⟨hkey, hvalue⟩ := Node.mem_children_of_mem .object hp
              exact ⟨ih p.1 hkey (hchildren _ hkey) (hslots p hp).1,
                ih p.2 hvalue (hchildren _ hvalue) (hslots p hp).2⟩
      | _ => exact pure_gives_iff.2 rfl

-- ================================================================ action

theorem fill_ok_iff_gives {t u : Node} :
    s.supply.fill t = .ok u
      ↔ s.binds reservedName = false ∧ (s.supply.fillNode t).Gives u :=
  Supply.fill_ok_iff

/-- Filling from names is an action of substitutions on templates without dictionaries.
If a template is filled from `s`, and the values of its holes, filled from `r`, are their
values in `s'`, then filling the result from `r` and filling the template from `s'` both
succeed, with the same tree. A template without splices, filled with its own holes, is
unchanged. -/
theorem fill_acts (t : Node) (ht : t.every (!·.isDictionary)) :
    (∀ (s r s' : Bindings) (u : Node), s.supply.fill t = .ok u →
        (∀ name ∈ t.holeNames,
          ∃ v w, s.get? name = some v ∧ r.supply.fill v = .ok w ∧ s'.get? name = some w) →
        (t.holeNames = [] → r.binds reservedName = false) → s'.binds reservedName = false →
        ∃ w, r.supply.fill u = .ok w ∧ s'.supply.fill t = .ok w)
    ∧ ∀ s : Bindings, (∀ p ∈ t.slots, p.hole.splice = false ∧ p.hole.name.isSome) →
        (∀ name ∈ t.holeNames, s.get? name = some (.hole ⟨some name, false⟩)) →
        s.binds reservedName = false → s.supply.fill t = .ok t := by
  have hnames {p : Slot} (hp : p ∈ t.slots) {name : String} (hname : p.hole.name = some name) :
      name ∈ t.holeNames := List.mem_filterMap.2 ⟨p, hp, hname⟩
  constructor
  · intro s r s' u hfill hvalues hr hs'
    obtain ⟨hs, hu⟩ := fill_ok_iff_gives.1 hfill
    have hcarries : ∀ p ∈ t.slots, Carries s r s' p.hole := by
      intro p hp name hname
      obtain ⟨v, w, hv, hw, hs'⟩ := hvalues name (hnames hp hname)
      exact ⟨v, w, hv, (fill_ok_iff_gives.1 hw).2, hs'⟩
    -- a value was filled from `r`, unless there is no hole
    have hr' : r.binds reservedName = false := by
      cases hempty : t.holeNames with
      | nil => exact hr hempty
      | cons name names =>
          obtain ⟨v, w, hv, hw, -⟩ := hvalues name (by rw [hempty]; exact .head _)
          exact (fill_ok_iff_gives.1 hw).1
    obtain ⟨w, hw, hw'⟩ := composes ht hcarries u hu
    exact ⟨w, fill_ok_iff_gives.2 ⟨hr', hw⟩, fill_ok_iff_gives.2 ⟨hs', hw'⟩⟩
  · intro s hholes hvalues hs
    refine fill_ok_iff_gives.2 ⟨hs, fillNode_self ht fun p hp => ?_⟩
    obtain ⟨hsplice, hsome⟩ := hholes p hp
    obtain ⟨name, hname⟩ := Option.isSome_iff_exists.1 hsome
    have hhole : p.hole = ⟨some name, false⟩ := by rw [← hname, ← hsplice]
    have hvalue := hvalues name (hnames hp hname)
    rw [← hhole] at hvalue
    exact fillHole_gives_iff.2 ⟨hsplice, name, hname, hvalue⟩

/-- A call with a hole and a splice. -/
def layeredTemplate : Node :=
  .form [.sym ⟨"f", none⟩, .hole ⟨some "x", false⟩, .hole ⟨some "more", true⟩]

/-- Values for it that are templates themselves, one of them with a splice. -/
def layeredValues : Bindings :=
  [("x", .seq .vector [.hole ⟨some "a", false⟩]),
    ("more", .seq .list [.hole ⟨some "b", false⟩, .hole ⟨some "rest", true⟩])]

/-- Values for the holes in these values. -/
def innerValues : Bindings :=
  [("a", .int 1), ("b", .hole ⟨some "x", false⟩), ("rest", .seq .tuple [.int 2, .int 3])]

/-- The values with their own holes filled. -/
def outerValues : Bindings :=
  [("x", .seq .vector [.int 1]),
    ("more", .seq .list [.hole ⟨some "x", false⟩, .int 2, .int 3])]

/-- An object in a vector, with holes in all places. -/
def holedTemplate : Node :=
  .seq .vector [.hole ⟨some "x", false⟩,
    .map .object [(.hole ⟨some "k", false⟩, .hole ⟨some "x", false⟩)]]

/-- Its own holes by name. -/
def holedValues : Bindings :=
  [("x", .hole ⟨some "x", false⟩), ("k", .hole ⟨some "k", false⟩)]

/-- In both orders the splices are gone and the hole that came last stays; and holes can
be filled with themselves. -/
theorem layeredTemplate_filled :
    (∃ u, layeredValues.supply.fill layeredTemplate = .ok u
      ∧ innerValues.supply.fill u = outerValues.supply.fill layeredTemplate
      ∧ outerValues.supply.fill layeredTemplate
        = .ok (.form [.sym ⟨"f", none⟩, .seq .vector [.int 1], .hole ⟨some "x", false⟩, .int 2,
            .int 3]))
    ∧ holedValues.supply.fill holedTemplate = .ok holedTemplate := by
  have hvalues : ∀ name ∈ layeredTemplate.holeNames,
      ∃ v w, layeredValues.get? name = some v ∧ innerValues.supply.fill v = .ok w
        ∧ outerValues.get? name = some w := by
    intro name hname
    rcases List.mem_cons.1 hname with rfl | hname
    · exact ⟨_, _, rfl, rfl, rfl⟩
    · cases List.mem_singleton.1 hname
      exact ⟨_, _, rfl, rfl, rfl⟩
  have hfill : layeredValues.supply.fill layeredTemplate
      = .ok (.form [.sym ⟨"f", none⟩, .seq .vector [.hole ⟨some "a", false⟩],
          .hole ⟨some "b", false⟩, .hole ⟨some "rest", true⟩]) := rfl
  obtain ⟨w, hw, hw'⟩ := (fill_acts layeredTemplate rfl).1 layeredValues innerValues outerValues _
    hfill hvalues (fun h => by cases h) rfl
  have hholes : ∀ p ∈ holedTemplate.slots, p.hole.splice = false ∧ p.hole.name.isSome := by
    intro p hp
    simp only [holedTemplate, Node.slots, Node.slotsIn, Node.slotsInPairs, List.mem_cons,
      List.append_nil, List.cons_append, List.nil_append, List.not_mem_nil, or_false] at hp
    rcases hp with rfl | rfl | rfl <;> exact ⟨rfl, rfl⟩
  have hown : ∀ name ∈ holedTemplate.holeNames,
      holedValues.get? name = some (.hole ⟨some name, false⟩) := by
    have hnames : holedTemplate.holeNames = ["x", "k", "x"] := rfl
    rw [hnames]
    intro name hname
    simp only [List.mem_cons, List.not_mem_nil, or_false] at hname
    rcases hname with rfl | rfl | rfl <;> rfl
  exact ⟨⟨_, hfill, hw.trans hw'.symm, rfl⟩,
    (fill_acts holedTemplate rfl).2 holedValues hholes hown rfl⟩

end Bindings

end FormScript
