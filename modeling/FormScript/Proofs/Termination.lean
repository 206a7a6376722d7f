/-
Emission ends, and expansions are nested no deeper than the limit allows. A form may
expand to a call of itself, or to a larger tree than its call was, so the size of what
is written does not decrease; the depth of expansion has to come in.

# The recursion

A `Point` is a node about to be written, with the calls whose expansions it stands in
and the run so far. `Emitter.Enters` leads from a point to those that it is written
through: the children that are written, one after another, or the expansion of its call,
if the depth is below the limit. These are all the points that one level of writing
turns to: a writer that does at each of them what emission does, with its counter at
the depth of the point, does so at the point itself (`Emitter.gaugeWith_settled`).

# The measure

Children are smaller than their parent at the same depth (`Node.layout_smaller`), and an
expansion leaves one level less (`Emitter.Enters.decreases`), so the recursion is well
founded in the lexicographic order of the levels that are left and the size. As a layout
has finitely many children, only finitely many points are ever entered
(`Emitter.entered_finite`).
-/
import FormScript.Proofs.Counting
import FormScript.Proofs.Cutoff
import Mathlib.Data.Set.Finite.Lattice
import Mathlib.Logic.Relation

namespace FormScript

-- ================================================================== sizes

namespace Node

mutual

/-- The number of nodes in a tree. -/
def size : Node → Nat
  | .form items => sizes items + 1
  | .seq _ items => sizes items + 1
  | .map _ pairs => pairSizes pairs + 1
  | .stream _ items => sizes items + 1
  | _ => 1
termination_by structural n => n

/-- The number of nodes in several trees. -/
def sizes : List Node → Nat
  | [] => 0
  | n :: rest => n.size + sizes rest
termination_by structural ns => ns

/-- The number of nodes in keys and values. -/
def pairSizes : List (Node × Node) → Nat
  | [] => 0
  | (k, v) :: rest => k.size + v.size + pairSizes rest
termination_by structural ps => ps

end

theorem size_le_sizes {n : Node} {items : List Node} (h : n ∈ items) : n.size ≤ sizes items := by
  induction items with
  | nil => cases h
  | cons m rest ih =>
      rw [sizes]
      cases h with
      | head => exact Nat.le_add_right ..
      | tail _ h => exact Nat.le_add_left_of_le (ih h)

theorem size_le_pairSizes {pair : Node × Node} {pairs : List (Node × Node)} (h : pair ∈ pairs) :
    pair.1.size + pair.2.size ≤ pairSizes pairs := by
  induction pairs with
  | nil => cases h
  | cons other rest ih =>
      obtain ⟨k, v⟩ := other
      rw [pairSizes]
      cases h with
      | head => exact Nat.le_add_right ..
      | tail _ h => exact Nat.le_add_left_of_le (ih h)

theorem size_lt_of_mem_children {n m : Node} (h : m ∈ n.children) : m.size < n.size := by
  cases n with
  | form items | seq kind items | stream id items =>
      rw [size]
      exact Nat.lt_succ_of_le (size_le_sizes h)
  | map kind pairs =>
      obtain ⟨pair, hpair, hm⟩ := List.mem_flatMap.1 h
      have hsize := size_le_pairSizes hpair
      rw [size]
      rcases List.mem_cons.1 hm with rfl | hm
      · omega
      · rw [List.mem_singleton.1 hm]
        omega
  | _ => cases h

theorem size_pos (n : Node) : 0 < n.size := by
  cases n with
  | form | seq | map | stream =>
      rw [size]
      exact Nat.succ_pos _
  | _ => exact Nat.one_pos

/-- Whatever a node is smaller than, its items are smaller than. -/
theorem hereditary_size_lt (k : Nat) : Hereditary (·.size < k) where
  form {items} h _ hm := Nat.lt_trans (size_lt_of_mem_children (n := .form items) hm) h
  seq {kind items} h _ hm := Nat.lt_trans (size_lt_of_mem_children (n := .seq kind items) hm) h

/-- Everything in the layout of a node is smaller than the node, also the `nil` that a
form without an argument may write. -/
theorem layout_smaller (n : Node) : n.layout.All (·.size < n.size) := by
  refine layout_all (hereditary_size_lt _) (fun hne => ?_) fun m hm =>
    size_lt_of_mem_children hm
  obtain ⟨m, hm⟩ := List.exists_mem_of_ne_nil _ hne
  exact Nat.lt_of_le_of_lt m.size_pos (size_lt_of_mem_children hm)

end Node

-- ================================================================= points

/-- A point of an emission: a node about to be written, the calls whose expansions it
stands in, the innermost first, and the run so far. -/
structure Point where
  node : Node
  within : List Call := []
  run : Run

namespace Point

/-- How many expansions are nested around a point. -/
def depth (p : Point) : Nat := p.within.length

/-- The run and the depth. -/
def gauge (p : Point) : Gauge := ⟨p.run, p.depth⟩

end Point

namespace Emitter

/-- One point is written through another: a child that is written, or the expansion of
the call that the node is, which is made below the limit only. -/
inductive Enters (e : Emitter) : Point → Point → Prop
  | child {p : Point} {m : Node} {s : Run} (plain : e.forms.customCall? p.node = none)
      (written : p.node.layout.Writes e.config.dedupe (e.emitAt (e.levelsAt p.depth)) p.run m s) :
      e.Enters p { p with node := m, run := s }
  | expansion {p : Point} {call : Call} {m : Node}
      (custom : e.forms.customCall? p.node = some call)
      (allowed : (p.depth : Int) < e.config.limit)
      (expanded : call.form.expand p.run.streams.nextStamp call.args = .ok m) :
      e.Enters p ⟨m, call :: p.within, p.run.expanding call.name⟩

variable {e : Emitter} {p q : Point}

/-- One level of writing is settled at the points that it enters. -/
theorem gaugeWith_settled {write : Node → GaugeM String}
    (h : ∀ q, e.Enters p q → write q.node q.gauge = e.counting q.node q.gauge) :
    e.gaugeWith write p.node p.gauge = e.counting p.node p.gauge := by
  show GaugeM.MirrorsFrom p.depth p.run (e.gaugeWith write p.node)
    (e.emitAt (e.levelsAt p.depth) p.node)
  unfold gaugeWith
  cases hcall : e.forms.customCall? p.node with
  | none =>
      rw [e.emitAt_of_not_custom hcall]
      exact Layout.gauge_mirrorsFrom fun m s hm => h _ (.child hcall hm)
  | some call =>
      exact gaugeCall_mirrors hcall fun hlimit m hm => h _ (.expansion hcall hlimit hm)

-- ================================================================ measure

/-- The levels of expansion that are left at a point, and the size of its node. -/
def measure (e : Emitter) (p : Point) : Nat × Nat := (e.levelsAt p.depth, p.node.size)

/-- A child is smaller, and an expansion has one level less. -/
theorem Enters.decreases (h : e.Enters p q) :
    Prod.Lex (· < ·) (· < ·) (e.measure q) (e.measure p) := by
  cases h with
  | child plain written => exact .right _ (p.node.layout_smaller.of_writes written)
  | expansion custom allowed expanded =>
      refine .left _ _ ?_
      show e.levelsAt (p.depth + 1 : Nat) < e.levelsAt p.depth
      unfold levelsAt
      omega

theorem enters_wellFounded (e : Emitter) : WellFounded fun q p => e.Enters p q :=
  Subrelation.wf (fun h => h.decreases)
    (InvImage.wf e.measure (WellFounded.prod_lex Nat.lt_wfRel.wf Nat.lt_wfRel.wf))

/-- A step stays within the limit: only an expansion goes deeper, and it is made below
the limit. -/
theorem Enters.depth_le (h : e.Enters p q) (hp : (p.depth : Int) ≤ max 0 e.config.limit) :
    (q.depth : Int) ≤ max 0 e.config.limit := by
  cases h with
  | child => exact hp
  | expansion custom allowed expanded =>
      show ((p.depth + 1 : Nat) : Int) ≤ _
      omega

/-- From a point that is nested in no expansion, all that is entered is nested within
the limit. -/
theorem depth_le_of_reached {n : Node} {r : Run}
    (h : Relation.ReflTransGen e.Enters ⟨n, [], r⟩ p) :
    (p.depth : Int) ≤ max 0 e.config.limit := by
  induction h with
  | refl => exact Int.le_max_left 0 _
  | tail _ hlast ih => exact hlast.depth_le ih

end Emitter

-- ============================================================= finiteness

namespace EmitM

/-- A step leads to one run at most, so finitely much comes after it if finitely much
comes after each run. -/
theorem finite_after {α β : Type} (m : EmitM α) (r : Run) {S : Run → Set β}
    (h : ∀ s, (S s).Finite) : {c | ∃ a s, m r = .ok a s ∧ c ∈ S s}.Finite := by
  cases hm : m r with
  | ok a s =>
      refine (h s).subset ?_
      rintro c ⟨a', s', hok, hc⟩
      cases hok
      exact hc
  | error err s =>
      refine Set.finite_empty.subset ?_
      rintro c ⟨a', s', hok, -⟩
      cases hok

/-- Finitely many items are taken from a stream. -/
theorem takes_finite (write : Node → EmitM String) (id : Identity) (index : Nat)
    (items : List Node) (r : Run) :
    {c : Node × Run | Takes write id index items r c.1 c.2}.Finite := by
  induction items generalizing index r with
  | nil =>
      refine Set.finite_empty.subset ?_
      rintro ⟨m, u⟩ ⟨⟩
  | cons n rest ih =>
      have hrest := finite_after (write n) { r with streams := r.streams.advance id (index + 1) }
        (ih (index + 1))
      have hall := (hrest.insert (n, { r with streams := r.streams.advance id (index + 1) })).union
        (ih (index + 1) r)
      refine hall.subset ?_
      rintro ⟨m, u⟩ hc
      cases hc with
      | now => exact .inl (.inl rfl)
      | later _ written more => exact .inl (.inr ⟨_, _, written, more⟩)
      | passed _ more => exact .inr more

end EmitM

/-- Finitely many children of a layout are written. -/
theorem Layout.writes_finite (dedupe : Bool) (write : Node → EmitM String) (l : Layout)
    (r : Run) : {c : Node × Run | l.Writes dedupe write r c.1 c.2}.Finite := by
  induction l generalizing r with
  | text | fail | declare | inline =>
      refine Set.finite_empty.subset ?_
      rintro ⟨m, s⟩ ⟨⟩
  | node n | item n =>
      refine (Set.finite_singleton (n, r)).subset ?_
      rintro ⟨m, s⟩ ⟨⟩
      rfl
  | append a b iha ihb =>
      refine ((iha r).union (EmitM.finite_after (a.run dedupe write) r ihb)).subset ?_
      rintro ⟨m, s⟩ hc
      cases hc with
      | first h => exact .inl h
      | second written h => exact .inr ⟨_, _, written, h⟩
  | late a b iha ihb =>
      refine ((ihb r).union (EmitM.finite_after (b.run dedupe write) r iha)).subset ?_
      rintro ⟨m, s⟩ hc
      cases hc with
      | back h => exact .inl h
      | front written h => exact .inr ⟨_, _, written, h⟩
  | twice a between ih =>
      refine (ih r).subset ?_
      rintro ⟨m, s⟩ ⟨⟩
      assumption
  | statement a ih =>
      refine (ih r).subset ?_
      rintro ⟨m, s⟩ ⟨⟩
      assumption
  | enclosed a ih =>
      refine (ih { r with scope := some { dedupe } }).subset ?_
      rintro ⟨m, s⟩ ⟨⟩
      assumption
  | stream id items =>
      refine (EmitM.takes_finite write id 0 items r).subset ?_
      rintro ⟨m, s⟩ ⟨⟩
      assumption

namespace Emitter

variable {e : Emitter}

/-- A point is written through finitely many others. -/
theorem enters_finite (e : Emitter) (p : Point) : {q | e.Enters p q}.Finite := by
  cases hcall : e.forms.customCall? p.node with
  | none =>
      have hchildren := p.node.layout.writes_finite e.config.dedupe
        (e.emitAt (e.levelsAt p.depth)) p.run
      refine (hchildren.image fun c => { p with node := c.1, run := c.2 }).subset fun q hq => ?_
      cases hq with
      | @child m s plain written => exact ⟨(m, s), written, rfl⟩
      | expansion custom =>
          rw [hcall] at custom
          cases custom
  | some call =>
      refine Set.Subsingleton.finite fun q hq q' hq' => ?_
      cases hq with
      | child plain =>
          rw [hcall] at plain
          cases plain
      | expansion custom allowed expanded =>
          cases hq' with
          | child plain =>
              rw [hcall] at plain
              cases plain
          | expansion custom' allowed' expanded' =>
              rw [custom] at custom'
              cases custom'
              rw [expanded] at expanded'
              cases expanded'
              rfl

/-- Finitely many points are entered from a point, on any number of steps. -/
theorem entered_finite (e : Emitter) (p : Point) :
    {q | Relation.ReflTransGen e.Enters p q}.Finite := by
  induction p using e.enters_wellFounded.induction with
  | _ p ih =>
      refine (((e.enters_finite p).biUnion ih).insert p).subset fun q hq => ?_
      rcases Relation.ReflTransGen.cases_head hq with rfl | ⟨c, hc, hcq⟩
      · exact .inl rfl
      · exact .inr (Set.mem_biUnion hc hcq)

end Emitter

-- ============================================================== no levels

/-- Registries with the same names see calls of the same names. -/
theorem Registry.customCall?_name_congr {forms forms' : Registry}
    (h : ∀ name, forms.contains name = forms'.contains name) (n : Node) :
    (forms.customCall? n).map (·.name) = (forms'.customCall? n).map (·.name) := by
  unfold customCall?
  split
  · rename_i id args
    have hname : (forms.get? id.name).isSome = (forms'.get? id.name).isSome := h id.name
    split
    · rfl
    · cases hform : forms.get? id.name with
      | none =>
          rw [hform] at hname
          have hform' : forms'.get? id.name = none :=
            Option.isNone_iff_eq_none.1 (Option.isSome_eq_false_iff.1 hname.symm)
          rw [hform']
      | some form =>
          rw [hform] at hname
          obtain ⟨form', hform'⟩ := Option.isSome_iff_exists.1 hname.symm
          rw [hform']
          rfl
  · rfl

namespace Emitter

/-- Without a level of expansion it is the names of the forms that count, and what the
forms expand to does not. -/
theorem emitAt_zero_eq_of_names (e : Emitter) {forms : Registry}
    (hnames : ∀ name, forms.contains name = e.forms.contains name) (n : Node) :
    (e.withForms forms).emitAt 0 n = e.emitAt 0 n := by
  have hcalls := Registry.customCall?_name_congr hnames
  suffices h : ∀ levels, levels = 0 → (e.withForms forms).emitAt levels n = e.emitAt levels n from
    h 0 rfl
  intro levels
  refine e.emission_induction (P := fun levels n => levels = 0 →
    (e.withForms forms).emitAt levels n = e.emitAt levels n) ?_ ?_ ?_ levels n
  · intro n call hcall _
    have hname := hcalls n
    rw [hcall] at hname
    obtain ⟨call', hcall', heq⟩ := Option.map_eq_some_iff.1 hname
    rw [e.emitAt_zero_custom hcall, (e.withForms forms).emitAt_zero_custom hcall', refuse, refuse,
      heq]
    rfl
  · intro levels n call _ _ hzero
    cases hzero
  · intro levels n hcall ih hzero
    have hname := hcalls n
    rw [hcall] at hname
    have hcall' := Option.map_eq_none_iff.1 hname
    rw [e.emitAt_of_not_custom hcall, (e.withForms forms).emitAt_of_not_custom hcall']
    exact Layout.run_congr (ih.imp fun m hm => hm hzero)

-- ============================================================ termination

/-- Emission terminates, with expansions nested within the limit, whatever the forms
expand to. Its recursion is that of a writer with a counter for the depth, and goes
through the points entered and no others. It decreases in the lexicographic order of the
limit less the depth and the size of the node, so it is well founded, and it comes from
any point to finitely many. While a node is emitted, never more expansions are nested than
the limit says, and none if it is zero or less. Then no expansion function is called, so
it makes no difference what the functions are. -/
theorem emission_terminates (e : Emitter) :
    (∀ n r, e.counting n ⟨r, 0⟩ = GaugeM.ofEmit (e.emit n) ⟨r, 0⟩)
      ∧ (∀ (write : Node → GaugeM String) (p : Point),
          (∀ q, e.Enters p q → write q.node q.gauge = e.counting q.node q.gauge) →
            e.gaugeWith write p.node p.gauge = e.counting p.node p.gauge)
      ∧ (∀ p q, e.Enters p q →
          Prod.Lex (· < ·) (· < ·)
            ((e.config.limit - q.depth).toNat, q.node.size)
            ((e.config.limit - p.depth).toNat, p.node.size))
      ∧ WellFounded (fun q p => e.Enters p q)
      ∧ (∀ p, {q | Relation.ReflTransGen e.Enters p q}.Finite)
      ∧ (∀ n r p, Relation.ReflTransGen e.Enters ⟨n, [], r⟩ p →
          (p.depth : Int) ≤ max 0 e.config.limit)
      ∧ (e.config.limit ≤ 0 → ∀ forms : Registry,
          (∀ name, forms.contains name = e.forms.contains name) →
            ∀ n, (e.withForms forms).emit n = e.emit n) := by
  refine ⟨fun n r => ?_, fun write p h => gaugeWith_settled h, fun p q h => h.decreases,
    e.enters_wellFounded, e.entered_finite, fun n r p h => depth_le_of_reached h, ?_⟩
  · rw [counting, levelsAt, Int.sub_zero]
    rfl
  · intro hlimit forms hnames n
    have hlevels : e.config.limit.toNat = 0 := by omega
    have hnone (e' : Emitter) (h : e'.config.limit.toNat = 0) : e'.emit n = e'.emitAt 0 n := by
      rw [emit, h]
    calc (e.withForms forms).emit n
        = (e.withForms forms).emitAt 0 n := hnone (e.withForms forms) hlevels
      _ = e.emitAt 0 n := e.emitAt_zero_eq_of_names hnames n
      _ = e.emit n := (hnone e hlevels).symm

/-- An emitter with a form that expands to a call of itself, with all its arguments
twice. -/
def swelling : Emitter where
  forms := Registry.empty.insert "swell"
    { expand := fun _ args => .ok (.form (.sym ⟨"swell", none⟩ :: (args ++ args))) }

/-- A call of this form with so many arguments. -/
def swollen (count : Nat) : Node :=
  .form (.sym ⟨"swell", none⟩ :: List.replicate count (.int 1))

/-- Under a limit of two the form is expanded twice, to larger and larger trees, and then
no more. Under a limit of minus one it is not expanded, so a form that fails to expand is
refused in the same way. -/
theorem swelling_terminates :
    (∃ within r, Relation.ReflTransGen (swelling.limited 2).Enters ⟨swollen 1, [], {}⟩
        ⟨swollen 4, within, r⟩ ∧ within.length = 2 ∧ (swollen 1).size < (swollen 4).size)
      ∧ (∀ p, Relation.ReflTransGen (swelling.limited 2).Enters ⟨swollen 1, [], {}⟩ p →
          p.depth ≤ 2)
      ∧ ((swelling.limited (-1)).withForms
            (Registry.empty.insert "swell" (CustomForm.refuse "no"))).emit (swollen 1) {}
          = .error (EmitM.refusal "swell" (-1)) {} := by
  obtain ⟨-, -, -, -, -, hnested, -⟩ := emission_terminates (swelling.limited 2)
  obtain ⟨-, -, -, -, -, -, hunexpanded⟩ := emission_terminates (swelling.limited (-1))
  refine ⟨?_, fun p hp => ?_, ?_⟩
  · have hfirst : (swelling.limited 2).Enters ⟨swollen 1, [], {}⟩ ⟨swollen 2, _, _⟩ :=
      .expansion rfl (by decide) rfl
    refine ⟨_, _, (Relation.ReflTransGen.single hfirst).tail (.expansion rfl ?_ rfl), rfl,
      by decide⟩
    decide
  · have hdepth : (p.depth : Int) ≤ max 0 2 := hnested _ _ p hp
    omega
  · have hnames (name : String) :
        (Registry.empty.insert "swell" (CustomForm.refuse "no")).contains name
          = (swelling.limited (-1)).forms.contains name := by
      by_cases hname : name = "swell"
      · rw [hname]
        rfl
      · show (Registry.get? _ name).isSome = (Registry.get? _ name).isSome
        rw [Registry.get?_insert_of_ne hname]
        exact congrArg Option.isSome (Registry.get?_insert_of_ne hname _ _).symm
    rw [hunexpanded (by decide) _ hnames]
    rfl

end Emitter

end FormScript
