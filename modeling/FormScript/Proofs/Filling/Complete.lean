/-
What is left to fill after a template has been filled. A property that containers have
exactly if all they hold has it (`Node.Itemwise`) is kept by filling: if the values have
it, and the parts of the template that filling keeps as they are, then so has the result
(`Supply.fillNode_yields`). To have no hole is such a property, in two senses.

# Outside of streams

No hole is left that another filling could replace, whatever the template.

# Inside streams

A stream is not entered when a template is filled, but it is when the result is written.
So a hole in a stream of the template is passed over by the one and met by the other,
and a filled template is free of holes, and never found to have one in writing, if the
streams of the template are.
-/
import FormScript.Proofs.Filling.Composition
import FormScript.Proofs.Unfilled

namespace FormScript

-- ============================================================ properties

namespace Node

/-- A property that a container has exactly if all that it holds has it. -/
structure Itemwise (p : Node → Prop) : Prop where
  form {items : List Node} : p (.form items) ↔ ∀ n ∈ items, p n
  seq {kind : SeqKind} {items : List Node} : p (.seq kind items) ↔ ∀ n ∈ items, p n
  map {kind : MapKind} {pairs : List (Node × Node)} :
    p (.map kind pairs) ↔ ∀ q ∈ pairs, p q.1 ∧ p q.2

/-- Whether filling keeps a node as it is: atoms and streams. -/
def isFixed : Node → Bool
  | .hole _ | .form _ | .seq _ _ | .map _ _ => false
  | _ => true

/-- Whether a node, if it is a stream, has no hole in it. -/
def isClear : Node → Bool
  | .stream _ items => everyItem (!·.isHole) items
  | _ => true

theorem every_of_forall {q : Node → Bool} (h : ∀ n, q n) (n : Node) : n.every q := by
  induction n using children_induction with
  | step n ih => exact every_iff.2 ⟨h n, ih⟩

/-- Where there is no hole, there is none in a stream. -/
theorem every_isClear {n : Node} (h : n.every (!·.isHole)) : n.every (·.isClear) := by
  induction n using children_induction with
  | step n ih =>
      obtain ⟨-, hchildren⟩ := every_iff.1 h
      refine every_iff.2 ⟨?_, fun m hm => ih m hm (hchildren m hm)⟩
      cases n with
      | stream id items => exact everyItem_iff.2 hchildren
      | _ => rfl

theorem slotsIn_eq_nil_iff {items : List Node} :
    slotsIn items = [] ↔ ∀ n ∈ items, n.slots = [] := by
  induction items with
  | nil => simp [slotsIn]
  | cons n rest ih => cases n <;> simp [slotsIn, slots, ih]

theorem slotsInPairs_eq_nil_iff {pairs : List (Node × Node)} :
    slotsInPairs pairs = [] ↔ ∀ q ∈ pairs, q.1.slots = [] ∧ q.2.slots = [] := by
  induction pairs with
  | nil => simp [slotsInPairs]
  | cons q rest ih => simp [slotsInPairs, ih, and_assoc]

theorem itemwise_slots : Itemwise (·.slots = []) where
  form := slotsIn_eq_nil_iff
  seq := slotsIn_eq_nil_iff
  map := slotsInPairs_eq_nil_iff

theorem itemwise_every : Itemwise (·.every (!·.isHole)) where
  form := every_iff.trans (and_iff_right rfl)
  seq := every_iff.trans (and_iff_right rfl)
  map {kind pairs} := by
    refine (every_iff.trans (and_iff_right rfl)).trans ?_
    constructor
    · intro h q hq
      exact ⟨h _ (mem_children_of_mem kind hq).1, h _ (mem_children_of_mem kind hq).2⟩
    · intro h n hn
      obtain ⟨q, hq, hn⟩ := List.mem_flatMap.1 hn
      rcases List.mem_cons.1 hn with rfl | hn
      · exact (h q hq).1
      · rw [List.mem_singleton.1 hn]
        exact (h q hq).2

/-- Where there is no hole, there is none outside of streams. -/
theorem slots_eq_nil_of_every {n : Node} (h : n.every (!·.isHole)) : n.slots = [] := by
  induction n using children_induction with
  | step n ih =>
      obtain ⟨hself, hchildren⟩ := every_iff.1 h
      have hbelow : ∀ m ∈ n.children, m.slots = [] := fun m hm => ih m hm (hchildren m hm)
      cases n with
      | hole hole => cases hself
      | form items => exact itemwise_slots.form.2 hbelow
      | seq kind items => exact itemwise_slots.seq.2 hbelow
      | map kind pairs =>
          refine itemwise_slots.map.2 fun q hq => ?_
          exact ⟨hbelow _ (mem_children_of_mem kind hq).1, hbelow _ (mem_children_of_mem kind hq).2⟩
      | _ => rfl

theorem Itemwise.splicedItems {p : Node → Prop} (hp : Itemwise p) {n : Node} {items : List Node}
    (h : n.splicedItems? = some items) (hn : p n) : ∀ m ∈ items, p m := by
  cases n with
  | form =>
      cases h
      exact hp.form.1 hn
  | seq =>
      cases h
      exact hp.seq.1 hn
  | _ => cases h

end Node

-- =============================================================== filling

namespace FillM

variable {α β : Type} {p : Node → Prop} {S : α → Prop} {T : β → Prop}

/-- Started with values that have a property, a computation gives a result of some kind
and leaves values that have the property. -/
def Yields (p : Node → Prop) (S : α → Prop) (m : FillM α) : Prop :=
  ∀ left, (∀ v ∈ left, p v) → ∀ a left', m left = .ok (a, left') → S a ∧ ∀ v ∈ left', p v

theorem pure_yields {a : α} (h : S a) : (pure a : FillM α).Yields p S := by
  intro left hleft b left' hb
  cases hb
  exact ⟨h, hleft⟩

theorem refuse_yields (cause : TemplateError) : (Supply.refuse cause : FillM α).Yields p S := by
  intro left _ b left' hb
  cases hb

theorem bind_yields {m : FillM α} {f : α → FillM β} (hm : m.Yields p S)
    (hf : ∀ a, S a → (f a).Yields p T) : (m >>= f).Yields p T := by
  intro left hleft b left' hb
  obtain ⟨a, between, hfirst, hsecond⟩ := bind_ok_iff.1 hb
  obtain ⟨ha, hbetween⟩ := hm left hleft a between hfirst
  exact hf a ha between hbetween b left' hsecond

end FillM

namespace Supply

open FillM

variable {p : Node → Prop} {s : Supply}

/-- All values of a supply have a property. -/
structure Has (p : Node → Prop) (s : Supply) : Prop where
  positional : ∀ v ∈ s.positional, p v
  named : ∀ b ∈ s.named, p b.2

theorem Has.get? (h : s.Has p) {name : String} {v : Node} (hv : s.named.get? name = some v) :
    p v := by
  obtain ⟨before, after, hnamed, -⟩ := List.lookup_eq_some_iff.1 hv
  refine h.named (name, v) (List.mem_reverse.1 ?_)
  rw [hnamed]
  simp

theorem valueFor_yields (hs : s.Has p) (h : Hole) : (s.valueFor h).Yields p p := by
  unfold valueFor
  cases h.name with
  | some name =>
      dsimp only
      cases hv : s.named.get? name with
      | some v => exact pure_yields (hs.get? hv)
      | none => exact refuse_yields _
  | none =>
      intro left hleft v left' hv
      cases left with
      | nil => cases hv
      | cons value rest =>
          cases hv
          exact List.forall_mem_cons.1 hleft

theorem insertion_yields (hp : Node.Itemwise p) (hs : s.Has p) (h : Hole) :
    (s.insertion h).Yields p fun us => ∀ u ∈ us, p u := by
  refine bind_yields (valueFor_yields hs h) fun v hv => ?_
  cases h.splice with
  | false => exact pure_yields (List.forall_mem_singleton.2 hv)
  | true =>
      rw [if_pos rfl, spliced_eq]
      cases hitems : v.splicedItems? with
      | none => exact refuse_yields _
      | some items => exact pure_yields (hp.splicedItems hitems hv)

theorem fillItems_yields (hp : Node.Itemwise p) (hs : s.Has p) {items : List Node}
    (h : ∀ n ∈ items, (s.fillNode n).Yields p p) :
    (s.fillItems items).Yields p fun us => ∀ u ∈ us, p u := by
  induction items with
  | nil => exact pure_yields (by simp)
  | cons n rest ih =>
      have hrest := ih fun m hm => h m (.tail _ hm)
      have hpart : (s.part n).Yields p fun us => ∀ u ∈ us, p u := by
        have hn := h n (.head _)
        cases n with
        | hole hole => exact insertion_yields hp hs hole
        | _ => exact bind_yields hn fun u hu => pure_yields (List.forall_mem_singleton.2 hu)
      rw [fillItems_cons]
      refine bind_yields hpart fun us hus => bind_yields hrest fun others hothers => ?_
      exact pure_yields (List.forall_mem_append.2 ⟨hus, hothers⟩)

theorem fillPairs_yields {pairs : List (Node × Node)}
    (h : ∀ q ∈ pairs, (s.fillNode q.1).Yields p p ∧ (s.fillNode q.2).Yields p p) :
    (s.fillPairs pairs).Yields p fun qs => ∀ q ∈ qs, p q.1 ∧ p q.2 := by
  induction pairs with
  | nil => exact pure_yields (by simp)
  | cons q rest ih =>
      obtain ⟨hkey, hvalue⟩ := h q (.head _)
      refine bind_yields hkey fun key hk => bind_yields hvalue fun value hv => ?_
      refine bind_yields (ih fun m hm => h m (.tail _ hm)) fun others hothers => ?_
      exact pure_yields (List.forall_mem_cons.2 ⟨⟨hk, hv⟩, hothers⟩)

/-- What is entered into a dictionary takes the place of what has the same key. -/
theorem forall_mem_enterPair {key value : Node} {pairs : List (Node × Node)} (hkey : p key)
    (hvalue : p value) (h : ∀ q ∈ pairs, p q.1 ∧ p q.2) :
    ∀ q ∈ enterPair key value pairs, p q.1 ∧ p q.2 := by
  induction pairs with
  | nil => exact List.forall_mem_singleton.2 ⟨hkey, hvalue⟩
  | cons q rest ih =>
      obtain ⟨hq, hrest⟩ := List.forall_mem_cons.1 h
      unfold enterPair
      by_cases hsame : q.1.sameKey key
      · rw [if_pos hsame]
        exact List.forall_mem_cons.2 ⟨⟨hq.1, hvalue⟩, hrest⟩
      · rw [if_neg hsame]
        exact List.forall_mem_cons.2 ⟨hq, ih hrest⟩

theorem fillEntries_yields {pairs : List (Node × Node)}
    (h : ∀ q ∈ pairs, (s.fillNode q.1).Yields p p ∧ (s.fillNode q.2).Yields p p)
    {entered : List (Node × Node)} (hentered : ∀ q ∈ entered, p q.1 ∧ p q.2) :
    (s.fillEntries entered pairs).Yields p fun qs => ∀ q ∈ qs, p q.1 ∧ p q.2 := by
  induction pairs generalizing entered with
  | nil => exact pure_yields hentered
  | cons q rest ih =>
      obtain ⟨hkey, hvalue⟩ := h q (.head _)
      refine bind_yields hkey fun key hk => bind_yields hvalue fun value hv => ?_
      unfold enterPair?
      cases key.unhashable? with
      | some kind =>
          intro left _ qs left' hqs
          cases hqs
      | none =>
          exact ih (fun m hm => h m (.tail _ hm)) (forall_mem_enterPair hk hv hentered)

/-- Filling keeps a property that goes with containers, if the values have it and the
parts of the template that are kept as they are. -/
theorem fillNode_yields (hp : Node.Itemwise p) (hs : s.Has p) {q : Node → Bool}
    (hq : ∀ n, n.isFixed → q n → p n) {t : Node} (ht : t.every q) :
    (s.fillNode t).Yields p p := by
  induction t using Node.children_induction with
  | step t ih =>
      obtain ⟨hself, hchildren⟩ := Node.every_iff.1 ht
      have hbelow : ∀ n ∈ t.children, (s.fillNode n).Yields p p := fun n hn =>
        ih n hn (hchildren n hn)
      cases t with
      | hole hole =>
          unfold fillNode
          cases hole.splice with
          | true => exact refuse_yields _
          | false => exact valueFor_yields hs hole
      | form items =>
          refine bind_yields (fillItems_yields hp hs hbelow) fun us hus => ?_
          exact pure_yields (hp.form.2 hus)
      | seq kind items =>
          refine bind_yields (fillItems_yields hp hs hbelow) fun us hus => ?_
          exact pure_yields (hp.seq.2 hus)
      | map kind pairs =>
          have hpairs : ∀ q ∈ pairs,
              (s.fillNode q.1).Yields p p ∧ (s.fillNode q.2).Yields p p := fun q hq =>
            ⟨hbelow _ (Node.mem_children_of_mem kind hq).1,
              hbelow _ (Node.mem_children_of_mem kind hq).2⟩
          cases kind with
          | object =>
              refine bind_yields (fillPairs_yields hpairs) fun qs hqs => ?_
              exact pure_yields (hp.map.2 hqs)
          | dictionary =>
              refine bind_yields (fillEntries_yields hpairs (by simp)) fun qs hqs => ?_
              exact pure_yields (hp.map.2 hqs)
      | _ => exact pure_yields (hq _ rfl hself)

theorem fill_has (hp : Node.Itemwise p) (hs : s.Has p) {q : Node → Bool}
    (hq : ∀ n, n.isFixed → q n → p n) {t u : Node} (ht : t.every q) (hfill : s.fill t = .ok u) :
    p u :=
  (fillNode_yields hp hs hq ht s.positional hs.positional u [] (fill_ok_iff.1 hfill).2).1

-- =============================================================== streams

/-- A computation whose results are of some kind whatever the values. -/
theorem yields_of_forall {α : Type} {S : α → Prop} {m : FillM α} (h : ∀ a, S a) :
    m.Yields (fun _ => True) S :=
  fun _ _ a _ _ => ⟨h a, fun _ _ => trivial⟩

theorem fillItems_shows {items : List Node}
    (h : ∀ n ∈ items, (s.fillNode n).Yields (fun _ => True)
      fun u => u.every (!·.isHole) → n.every (·.isClear)) :
    (s.fillItems items).Yields (fun _ => True)
      fun us => (∀ u ∈ us, u.every (!·.isHole)) → ∀ n ∈ items, n.every (·.isClear) := by
  induction items with
  | nil => exact yields_of_forall (by simp)
  | cons n rest ih =>
      have hpart : (s.part n).Yields (fun _ => True)
          fun us => (∀ u ∈ us, u.every (!·.isHole)) → n.every (·.isClear) := by
        have hn := h n (.head _)
        cases n with
        | hole hole => exact yields_of_forall fun _ _ => rfl
        | _ =>
            refine bind_yields hn fun u hu => pure_yields fun hus => ?_
            exact hu (hus u (.head _))
      rw [fillItems_cons]
      refine bind_yields hpart fun us hus => ?_
      refine bind_yields (ih fun m hm => h m (.tail _ hm)) fun others hothers => ?_
      refine pure_yields fun hall => ?_
      obtain ⟨hfirst, hrest⟩ := List.forall_mem_append.1 hall
      exact List.forall_mem_cons.2 ⟨hus hfirst, hothers hrest⟩

theorem fillPairs_shows {pairs : List (Node × Node)}
    (h : ∀ n ∈ (Node.map .object pairs).children, (s.fillNode n).Yields (fun _ => True)
      fun u => u.every (!·.isHole) → n.every (·.isClear)) :
    (s.fillPairs pairs).Yields (fun _ => True)
      fun qs => (∀ q ∈ qs, q.1.every (!·.isHole) ∧ q.2.every (!·.isHole)) →
        ∀ n ∈ (Node.map .object pairs).children, n.every (·.isClear) := by
  induction pairs with
  | nil => exact yields_of_forall (by simp [Node.children])
  | cons q rest ih =>
      obtain ⟨hkey, hmore⟩ := List.forall_mem_cons.1 h
      obtain ⟨hvalue, hrest⟩ := List.forall_mem_cons.1 hmore
      refine bind_yields hkey fun key hk => bind_yields hvalue fun value hv => ?_
      refine bind_yields (ih hrest) fun others hothers => pure_yields fun hall => ?_
      obtain ⟨hfirst, hqs⟩ := List.forall_mem_cons.1 hall
      exact List.forall_mem_cons.2 ⟨hk hfirst.1, List.forall_mem_cons.2 ⟨hv hfirst.2, hothers hqs⟩⟩

/-- All streams of a template without dictionaries are in the result. -/
theorem fillNode_shows {t : Node} (ht : t.every (!·.isDictionary)) :
    (s.fillNode t).Yields (fun _ => True)
      fun u => u.every (!·.isHole) → t.every (·.isClear) := by
  induction t using Node.children_induction with
  | step t ih =>
      obtain ⟨hself, hchildren⟩ := Node.every_iff.1 ht
      have hbelow := fun n hn => ih n hn (hchildren n hn)
      cases t with
      | hole hole => exact yields_of_forall fun _ _ => rfl
      | form items =>
          refine bind_yields (fillItems_shows hbelow) fun us hus => pure_yields fun hu => ?_
          exact Node.every_iff.2 ⟨rfl, hus (Node.itemwise_every.form.1 hu)⟩
      | seq kind items =>
          refine bind_yields (fillItems_shows hbelow) fun us hus => pure_yields fun hu => ?_
          exact Node.every_iff.2 ⟨rfl, hus (Node.itemwise_every.seq.1 hu)⟩
      | map kind pairs =>
          cases kind with
          | dictionary => cases hself
          | object =>
              refine bind_yields (fillPairs_shows hbelow) fun qs hqs => pure_yields fun hu => ?_
              exact Node.every_iff.2 ⟨rfl, hqs (Node.itemwise_every.map.1 hu)⟩
      | _ => exact pure_yields Node.every_isClear

-- ================================================================= holes

/-- A template that has been filled with values without holes has no hole left outside
of streams. If no stream of the template has a hole in it, then none is left at all, and
without custom forms the result is never written to a failure of templates; and for a
template without dictionaries, which may drop values, none is left only then. -/
theorem fill_leaves_no_hole (s : Supply) (hs : s.Has (·.every (!·.isHole))) (t u : Node)
    (hfill : s.fill t = .ok u) :
    u.slots = []
    ∧ (t.every (·.isClear) → u.every (!·.isHole)
      ∧ ∀ (config : Config) (r : Run) (e : Error) (r' : Run),
        ({ config } : Emitter).emitProgram [u] r = .error e r' → e.isTemplate = false)
    ∧ (t.every (!·.isDictionary) → u.every (!·.isHole) → t.every (·.isClear)) := by
  refine ⟨?_, fun ht => ?_, fun ht => ?_⟩
  · have hslots : s.Has (·.slots = []) :=
      ⟨fun v hv => Node.slots_eq_nil_of_every (hs.positional v hv),
        fun b hb => Node.slots_eq_nil_of_every (hs.named b hb)⟩
    have htrue : t.every fun _ => true := Node.every_of_forall (fun _ => rfl) t
    refine fill_has Node.itemwise_slots hslots (fun n hn _ => ?_) htrue hfill
    cases n <;> first | rfl | cases hn
  · have hu : u.every (!·.isHole) := by
      refine fill_has Node.itemwise_every hs (fun n hn hclear => ?_) ht hfill
      cases n with
      | stream id items => exact Node.every_iff.2 ⟨rfl, Node.everyItem_iff.1 hclear⟩
      | _ => first | rfl | cases hn
    refine ⟨hu, fun config => ?_⟩
    exact Emitter.emitProgram_filled _ rfl (List.forall_mem_singleton.2 hu)
  · have hwalk := (fill_ok_iff.1 hfill).2
    exact (fillNode_shows ht s.positional (fun _ _ => trivial) u [] hwalk).1

/-- A call with a stream, a dictionary of holes and a splice. -/
def streamedTemplate : Node :=
  .form [.sym ⟨"f", none⟩, .stream ⟨0, 0⟩ [.int 1, .sym ⟨"x", none⟩],
    .map .dictionary [(.hole ⟨some "key", false⟩, .hole ⟨none, false⟩)],
    .hole ⟨some "rest", true⟩]

/-- Values without holes for it. -/
def streamedSupply : Supply where
  positional := [.stream ⟨1, 0⟩ [.int 2]]
  named := [("key", .str "k"), ("rest", .seq .list [.int 3, .form []])]

/-- It is filled, and the empty form that was put in is the reason why it is not written. -/
theorem streamedTemplate_complete :
    ∃ u, streamedSupply.fill streamedTemplate = .ok u ∧ u.slots = [] ∧ u.every (!·.isHole)
      ∧ ∀ e r', ({} : Emitter).emitProgram [u] {} = .error e r' → e.isTemplate = false := by
  have hs : streamedSupply.Has (·.every (!·.isHole)) := by
    refine ⟨List.forall_mem_singleton.2 rfl, ?_⟩
    exact List.forall_mem_cons.2 ⟨rfl, List.forall_mem_singleton.2 rfl⟩
  have hfill : streamedSupply.fill streamedTemplate
      = .ok (.form [.sym ⟨"f", none⟩, .stream ⟨0, 0⟩ [.int 1, .sym ⟨"x", none⟩],
          .map .dictionary [(.str "k", .stream ⟨1, 0⟩ [.int 2])], .int 3, .form []]) := rfl
  obtain ⟨hslots, hclear, -⟩ := fill_leaves_no_hole streamedSupply hs streamedTemplate _ hfill
  obtain ⟨hu, hwritten⟩ := hclear rfl
  exact ⟨_, hfill, hslots, hu, hwritten {} {}⟩

/-- A stream of a template that has a hole in it. -/
def holedStream : Node := .stream ⟨0, 0⟩ [.hole ⟨some "x", false⟩]

/-- A value for the hole. -/
def holedStreamSupply : Supply := { named := [("x", .int 1)] }

/-- The stream is filled without being entered, and its hole is met when it is written. -/
theorem holedStream_unfilled :
    holedStreamSupply.Has (·.every (!·.isHole))
      ∧ holedStreamSupply.fill holedStream = .ok holedStream
      ∧ holedStream.every (!·.isHole) = false
      ∧ script [holedStream] = .error (.form (.template (.unfilled ⟨some "x", false⟩))) := by
  refine ⟨⟨by simp [holedStreamSupply], ?_⟩, rfl, rfl, rfl⟩
  exact List.forall_mem_singleton.2 rfl

end Supply

end FormScript
