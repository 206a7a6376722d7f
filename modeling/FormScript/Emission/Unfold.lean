/-
The equation of emission: a node is written by expanding it if it calls a
custom form, and by its layout otherwise, with the children written in the
same way. Heights disappear from it, since a bound on the height only has to
be large enough.

`Emitter.emitAt_eq` is the equation at any number of levels, and
`Emitter.emit_eq` the one for emission as a whole.
-/
import FormScript.Emission
import FormScript.Layout.Children

namespace FormScript

-- ========================================================== congruence

theorem EmitM.takeAll_congr {f g : Node → EmitM String} {id : Identity} {items : List Node}
    (h : ∀ n ∈ items, f n = g n) (index : Nat) :
    EmitM.takeAll f id index items = EmitM.takeAll g id index items := by
  induction items generalizing index with
  | nil => rfl
  | cons n rest ih =>
    unfold EmitM.takeAll
    rw [h n (.head _), ih fun m hm => h m (.tail _ hm)]

/-- A layout is written alike by writers that agree on its children. -/
theorem Layout.run_congr {dedupe : Bool} {f g : Node → EmitM String} {l : Layout}
    (h : l.All fun n => f n = g n) : l.run dedupe f = l.run dedupe g := by
  induction l with
  | text | fail | declare | inline => rfl
  | node n => exact h
  | item n => exact congrArg EmitM.iterated h
  | append a b iha ihb => rw [run, run, iha h.1, ihb h.2]
  | late a b iha ihb => rw [run, run, iha h.1, ihb h.2]
  | twice a _ ih => rw [run, run, ih h]
  | statement a ih => rw [run, run, ih h]
  | enclosed a ih => rw [run, run, ih h]
  | stream id items => rw [run, run, EmitM.takeAll_congr h]

/-- A property of the children may be exchanged for one that follows from it at
each of them. -/
theorem Layout.All.mp {p q : Node → Prop} {l : Layout} (hpq : l.All fun n => p n → q n)
    (h : l.All p) : l.All q := by
  induction l with
  | text | fail | declare | inline => trivial
  | node n | item n => exact hpq h
  | append a b iha ihb => exact ⟨iha hpq.1 h.1, ihb hpq.2 h.2⟩
  | late a b iha ihb => exact ⟨iha hpq.1 h.1, ihb hpq.2 h.2⟩
  | twice a _ ih => exact ih hpq h
  | statement a ih => exact ih hpq h
  | enclosed a ih => exact ih hpq h
  | stream id items => exact fun n hn => hpq n hn (h n hn)

theorem Layout.all_of_forall {p : Node → Prop} (h : ∀ n, p n) (l : Layout) :
    l.All p := by
  induction l with
  | text | fail | declare | inline => trivial
  | node n | item n => exact h n
  | append a b iha ihb => exact ⟨iha, ihb⟩
  | late a b iha ihb => exact ⟨iha, ihb⟩
  | twice a _ ih => exact ih
  | statement a ih => exact ih
  | enclosed a ih => exact ih
  | stream id items => exact fun n _ => h n

theorem Layout.All.imp {p q : Node → Prop} (hpq : ∀ n, p n → q n) {l : Layout} (h : l.All p) :
    l.All q :=
  Layout.All.mp (Layout.all_of_forall hpq l) h

-- ============================================================= heights

namespace Emitter

variable (e : Emitter)

theorem writeWith_congr {expand : Call → EmitM String} {f g : Node → EmitM String} {n : Node}
    (h : ∀ m, m.height < n.height → f m = g m) :
    e.writeWith expand f n = e.writeWith expand g n := by
  unfold writeWith
  split
  · rfl
  · exact Layout.run_congr (n.layout_below.imp h)

/-- Any two bounds on the height that are large enough write a node alike. -/
theorem writeWithin_eq_of_le (expand : Call → EmitM String) {n : Node} {j k : Nat}
    (hj : n.height ≤ j) (hk : n.height ≤ k) :
    e.writeWithin expand j n = e.writeWithin expand k n := by
  induction j generalizing n k with
  | zero =>
    cases k with
    | zero => rfl
    | succ k => exact e.writeWith_congr fun m hm => by omega
  | succ j ih =>
    cases k with
    | zero => exact e.writeWith_congr fun m hm => by omega
    | succ k => exact e.writeWith_congr fun m hm => ih (by omega) (by omega)

/-- Children are written by the same writer, each at its own height. -/
theorem writeWithin_height (expand : Call → EmitM String) (n : Node) :
    e.writeWithin expand n.height n =
      e.writeWith expand (fun m => e.writeWithin expand m.height m) n := by
  rw [e.writeWithin_eq_of_le expand (Nat.le_refl _) (Nat.le_succ n.height)]
  exact e.writeWith_congr fun m hm => e.writeWithin_eq_of_le expand (by omega) (Nat.le_refl _)

-- ============================================================ equation

/-- How a call of a custom form is written with this many levels left. -/
def expandAt : (levels : Nat) → Call → EmitM String
  | 0 => e.refuse
  | levels + 1 => Call.expandWith (e.emitAt levels)

/-- A node is an expanded call, or its layout with the children written
alike. -/
theorem emitAt_eq (levels : Nat) (n : Node) :
    e.emitAt levels n = e.writeWith (e.expandAt levels) (e.emitAt levels) n := by
  have emitAt_height (m : Node) :
      e.emitAt levels m = e.writeWithin (e.expandAt levels) m.height m := by
    cases levels <;> rfl
  rw [emitAt_height, writeWithin_height]
  exact e.writeWith_congr fun m _ => (emitAt_height m).symm

theorem emit_eq (n : Node) :
    e.emit n = e.writeWith (e.expandAt e.config.limit.toNat) e.emit n :=
  e.emitAt_eq _ n

end Emitter

end FormScript
