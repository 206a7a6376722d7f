/-
Filling is substitution, all at once. A template is filled by walking it and using up
the positional values on the way; what comes out can be said without a walk: the
unnamed hole number `i`, counted from left to right, is replaced by value number `i`.

# The two sides

`Node.slots` lists the holes of a template in the order of its text. `Supply.replace`
replaces each hole by its value, given how many unnamed holes stand before the part at
hand; it uses nothing up and cannot fail. `Supply.Suits` says what a supply must offer
for a template, hole by hole.

# The argument

Started with the values from some number on, the walk over a part succeeds exactly if
the supply serves the slots of the part (`Supply.Serves`) and the keys of all rebuilt
dictionaries can be keys, and then it has replaced the holes and stopped behind as many
values as the part has unnamed holes. Each kind of node has one lemma for one level of
it, and `Supply.replaces` puts them together by induction on the tree.
-/
import FormScript.Proofs.Filling
import FormScript.Proofs.Filling.Dictionary

namespace FormScript

-- ================================================================== slots

/-- A hole of a template, and whether it stands directly among the items of a form or
a sequence. -/
structure Slot where
  hole : Hole
  listed : Bool

namespace Slot

/-- Whether the hole has no name and takes the next positional value. -/
def isBlank (p : Slot) : Bool := p.hole.name.isNone

end Slot

/-- The number of unnamed holes among slots. -/
def blanksAmong (slots : List Slot) : Nat := slots.countP Slot.isBlank

theorem blanksAmong_append (ps qs : List Slot) :
    blanksAmong (ps ++ qs) = blanksAmong ps + blanksAmong qs :=
  List.countP_append

theorem blanksAmong_cons (p : Slot) (ps : List Slot) :
    blanksAmong (p :: ps) = blanksAmong [p] + blanksAmong ps :=
  blanksAmong_append [p] ps

theorem blanksAmong_of_name {p : Slot} {name : String} (h : p.hole.name = some name) :
    blanksAmong [p] = 0 := by
  simp [blanksAmong, Slot.isBlank, h]

theorem blanksAmong_of_no_name {p : Slot} (h : p.hole.name = none) : blanksAmong [p] = 1 := by
  simp [blanksAmong, Slot.isBlank, h]

namespace Node

mutual

/-- The holes of a template from left to right, depth first, a key before its value. -/
def slots : Node → List Slot
  | .hole h => [⟨h, false⟩]
  | .form items => slotsIn items
  | .seq _ items => slotsIn items
  | .map _ pairs => slotsInPairs pairs
  | _ => []
termination_by structural n => n

def slotsIn : List Node → List Slot
  | [] => []
  | .hole h :: rest => ⟨h, true⟩ :: slotsIn rest
  | n :: rest => n.slots ++ slotsIn rest
termination_by structural ns => ns

def slotsInPairs : List (Node × Node) → List Slot
  | [] => []
  | (k, v) :: rest => k.slots ++ (v.slots ++ slotsInPairs rest)
termination_by structural ps => ps

end

/-- The number of unnamed holes of a template. -/
def blanks (n : Node) : Nat := blanksAmong n.slots

end Node

-- =========================================================== substitution

/-- The names that are bound are those with a value. -/
theorem Bindings.get?_isSome (b : Bindings) (name : String) :
    (b.get? name).isSome = b.binds name := by
  have hlookup (l : Bindings) : (l.lookup name).isSome = l.any (·.1 == name) := by
    induction l with
    | nil => rfl
    | cons p rest ih =>
        rw [List.lookup_cons, List.any_cons, ← ih, Bool.beq_comm]
        cases p.1 == name <;> rfl
  rw [get?, hlookup, List.any_reverse, binds]

namespace Supply

/-- The value for a hole that has `index` unnamed holes before it. -/
def valueAt (s : Supply) (index : Nat) (h : Hole) : Option Node :=
  match h.name with
  | some name => s.named.get? name
  | none => s.positional[index]?

/-- What takes the place of a hole among items. -/
def inserted (s : Supply) (index : Nat) (h : Hole) : List Node :=
  let value := (s.valueAt index h).getD (.hole h)
  if h.splice then value.splicedItems?.getD [] else [value]

mutual

/-- A template with its holes replaced, `index` unnamed holes standing before it. -/
def replace (s : Supply) : (index : Nat) → Node → Node
  | index, .hole h => (s.valueAt index h).getD (.hole h)
  | index, .form items => .form (replaceItems s index items)
  | index, .seq kind items => .seq kind (replaceItems s index items)
  | index, .map .object pairs => .map .object (replacePairs s index pairs)
  | index, .map .dictionary pairs => .map .dictionary (collapse (replacePairs s index pairs))
  | _, n => n
termination_by structural _ n => n

def replaceItems (s : Supply) : (index : Nat) → List Node → List Node
  | _, [] => []
  | index, .hole h :: rest =>
    s.inserted index h ++ replaceItems s (index + (Node.hole h).blanks) rest
  | index, n :: rest => replace s index n :: replaceItems s (index + n.blanks) rest
termination_by structural _ ns => ns

def replacePairs (s : Supply) : (index : Nat) → List (Node × Node) → List (Node × Node)
  | _, [] => []
  | index, (k, v) :: rest =>
    (replace s index k, replace s (index + k.blanks) v)
      :: replacePairs s (index + k.blanks + v.blanks) rest
termination_by structural _ ps => ps

end

mutual

/-- The keys that the dictionaries of a template are rebuilt from. -/
def keys (s : Supply) : (index : Nat) → Node → List Node
  | index, .form items => keysIn s index items
  | index, .seq _ items => keysIn s index items
  | index, .map .object pairs => keysInPairs s index pairs
  | index, .map .dictionary pairs =>
    keysInPairs s index pairs ++ (replacePairs s index pairs).map (·.1)
  | _, _ => []
termination_by structural _ n => n

def keysIn (s : Supply) : (index : Nat) → List Node → List Node
  | _, [] => []
  | index, n :: rest => keys s index n ++ keysIn s (index + n.blanks) rest
termination_by structural _ ns => ns

def keysInPairs (s : Supply) : (index : Nat) → List (Node × Node) → List Node
  | _, [] => []
  | index, (k, v) :: rest =>
    keys s index k ++ (keys s (index + k.blanks) v
      ++ keysInPairs s (index + k.blanks + v.blanks) rest)
termination_by structural _ ps => ps

end

/-- A supply suits a template if there are as many positional values as unnamed holes,
every named hole has a value, every splice stands among the items of a form or a
sequence and has one as its value, and the keys of rebuilt dictionaries can be keys. -/
structure Suits (s : Supply) (t : Node) : Prop where
  count : t.blanks = s.positional.length
  bound : ∀ p ∈ t.slots, ∀ name, p.hole.name = some name → s.named.binds name
  listed : ∀ p ∈ t.slots, p.hole.splice → p.listed
  sequences : ∀ i p, t.slots[i]? = some p → p.hole.splice →
    ∀ value, s.valueAt (blanksAmong (t.slots.take i)) p.hole = some value →
      value.splicedItems?.isSome
  keys : ∀ key ∈ s.keys 0 t, key.unhashable? = none

-- ================================================================ serving

/-- The supply has a value for a slot, and a sequence for a splice, which stands among
items. -/
def ServesAt (s : Supply) (index : Nat) (p : Slot) : Prop :=
  ∃ value, s.valueAt index p.hole = some value
    ∧ (p.hole.splice → p.listed ∧ value.splicedItems?.isSome)

/-- The supply serves slots one after another, of which the first has `index` unnamed
holes before it. -/
def Serves (s : Supply) : (index : Nat) → List Slot → Prop
  | _, [] => True
  | index, p :: rest => s.ServesAt index p ∧ Serves s (index + blanksAmong [p]) rest

variable {s : Supply}

theorem serves_append_iff {index : Nat} {ps qs : List Slot} :
    s.Serves index (ps ++ qs) ↔ s.Serves index ps ∧ s.Serves (index + blanksAmong ps) qs := by
  induction ps generalizing index with
  | nil => simp [Serves, blanksAmong]
  | cons p ps ih =>
      have hcount : index + blanksAmong [p] + blanksAmong ps = index + blanksAmong (p :: ps) := by
        rw [blanksAmong_cons p ps, Nat.add_assoc]
      rw [List.cons_append, Serves, Serves, ih, hcount, and_assoc]

end Supply

-- ================================================================ walking

theorem FillM.bind_ok_iff {α β : Type} {m : FillM α} {f : α → FillM β} {left left' : List Node}
    {b : β} :
    (m >>= f) left = .ok (b, left')
      ↔ ∃ a between, m left = .ok (a, between) ∧ f a between = .ok (b, left') := by
  show (m left >>= fun x => f x.1 x.2) = _ ↔ _
  cases m left with
  | error e =>
      constructor
      · intro h
        cases h
      · rintro ⟨a, between, h, -⟩
        cases h
  | ok x =>
      constructor
      · intro h
        exact ⟨x.1, x.2, rfl, h⟩
      · rintro ⟨a, between, h, hf⟩
        cases h
        exact hf

namespace Supply

variable {s : Supply} {α β : Type}

/-- Started with the values from number `index` on, a computation walks over some slots:
it succeeds exactly if they are served and a condition holds, and then it gives this
result and leaves the values behind its unnamed holes. -/
def Walks (s : Supply) (index : Nat) (slots : List Slot) (condition : Prop) (m : FillM α) (a : α) :
    Prop :=
  ∀ b left, m (s.positional.drop index) = .ok (b, left)
    ↔ s.Serves index slots ∧ condition ∧ b = a
      ∧ left = s.positional.drop (index + blanksAmong slots)

variable {index : Nat} {slots slots' : List Slot} {P Q : Prop}

theorem Walks.congr {m : FillM α} {a : α} (h : s.Walks index slots P m a) (hPQ : P ↔ Q) :
    s.Walks index slots Q m a := by
  intro b left
  rw [h b left, hPQ]

theorem pure_walks (a : α) : s.Walks index [] True (pure a) a := by
  intro b left
  show Except.ok (a, s.positional.drop index) = .ok (b, left) ↔ _
  simp [Serves, blanksAmong, eq_comm]

/-- One walk after another. -/
theorem bind_walks {m : FillM α} {f : α → FillM β} {a : α} {b : β}
    (hm : s.Walks index slots P m a)
    (hf : s.Walks (index + blanksAmong slots) slots' Q (f a) b) :
    s.Walks index (slots ++ slots') (P ∧ Q) (m >>= f) b := by
  have hindex : index + blanksAmong slots + blanksAmong slots'
      = index + blanksAmong (slots ++ slots') := by
    rw [blanksAmong_append, Nat.add_assoc]
  intro c left
  rw [FillM.bind_ok_iff, serves_append_iff]
  constructor
  · rintro ⟨a', between, hfirst, hsecond⟩
    obtain ⟨hserves, hP, rfl, rfl⟩ := (hm a' between).1 hfirst
    obtain ⟨hserves', hQ, hresult, hleft⟩ := (hf c left).1 hsecond
    rw [hindex] at hleft
    exact ⟨⟨hserves, hserves'⟩, ⟨hP, hQ⟩, hresult, hleft⟩
  · rintro ⟨⟨hserves, hserves'⟩, ⟨hP, hQ⟩, hresult, hleft⟩
    rw [← hindex] at hleft
    exact ⟨a, _, (hm a _).2 ⟨hserves, hP, rfl, rfl⟩, (hf c left).2 ⟨hserves', hQ, hresult, hleft⟩⟩

/-- A last step that only turns the result. -/
theorem map_walks {m : FillM α} {a : α} (h : s.Walks index slots P m a) (g : α → β) :
    s.Walks index slots P (m >>= fun x => pure (g x)) (g a) := by
  have hwalks : s.Walks index (slots ++ []) (P ∧ True) (m >>= fun x => pure (g x)) (g a) :=
    bind_walks h (pure_walks (g a))
  rw [List.append_nil] at hwalks
  exact hwalks.congr (iff_of_eq (and_true P))

-- ================================================================== holes

/-- The value of a hole is the one at its index, or the one under its name. -/
theorem valueFor_ok_iff (p : Slot) {value : Node} {left : List Node} :
    s.valueFor p.hole (s.positional.drop index) = .ok (value, left)
      ↔ s.valueAt index p.hole = some value
        ∧ left = s.positional.drop (index + blanksAmong [p]) := by
  unfold valueFor valueAt
  cases hname : p.hole.name with
  | some name =>
      rw [blanksAmong_of_name hname]
      dsimp only
      cases hvalue : s.named.get? name with
      | some v =>
          show Except.ok (v, s.positional.drop index) = .ok (value, left) ↔ _
          simp [eq_comm]
      | none =>
          show Except.error _ = Except.ok _ ↔ _
          simp
  | none =>
      rw [blanksAmong_of_no_name hname]
      by_cases hindex : index < s.positional.length
      · rw [List.drop_eq_getElem_cons hindex, List.getElem?_eq_getElem hindex]
        show Except.ok (s.positional[index], s.positional.drop (index + 1)) = .ok (value, left) ↔ _
        simp [eq_comm]
      · rw [List.drop_eq_nil_of_le (by omega), List.getElem?_eq_none (by omega)]
        show Except.error _ = Except.ok _ ↔ _
        simp

/-- A hole that stands alone is no splice. -/
theorem fillHole_walks (h : Hole) :
    s.Walks index [⟨h, false⟩] True (s.fillNode (.hole h)) (s.replace index (.hole h)) := by
  intro b left
  rw [fillNode, replace]
  cases hsplice : h.splice with
  | true =>
      show Except.error _ = Except.ok _ ↔ _
      simp [Serves, ServesAt, hsplice]
  | false =>
      rw [if_neg Bool.false_ne_true, valueFor_ok_iff ⟨h, false⟩]
      simp only [Serves, ServesAt, hsplice, Bool.false_eq_true, false_implies, and_true, true_and]
      constructor
      · rintro ⟨hvalue, hleft⟩
        exact ⟨⟨b, hvalue⟩, by rw [hvalue]; rfl, hleft⟩
      · rintro ⟨⟨value, hvalue⟩, hb, hleft⟩
        rw [hvalue] at hb
        exact ⟨by rw [hvalue, hb]; rfl, hleft⟩

/-- What is put in the place of a hole among items. -/
def insertion (s : Supply) (h : Hole) : FillM (List Node) :=
  s.valueFor h >>= fun value => if h.splice then spliced h value else pure [value]

theorem fillItems_hole_cons (s : Supply) (h : Hole) (rest : List Node) :
    s.fillItems (.hole h :: rest)
      = s.insertion h >>= fun items => s.fillItems rest >>= fun others =>
          pure (items ++ others) := by
  rw [insertion, bind_assoc, fillItems]
  refine bind_congr fun value => ?_
  cases h.splice <;> rfl

/-- A hole among items gives way to its value, or to the items of its value. -/
theorem insertion_walks (h : Hole) :
    s.Walks index [⟨h, true⟩] True (s.insertion h) (s.inserted index h) := by
  intro b left
  rw [insertion, FillM.bind_ok_iff]
  simp only [valueFor_ok_iff ⟨h, true⟩, Serves, ServesAt, inserted]
  cases hsplice : h.splice with
  | true =>
      constructor
      · rintro ⟨value, between, ⟨hvalue, rfl⟩, hitems⟩
        rw [if_pos rfl, spliced_eq] at hitems
        cases hspliced : value.splicedItems? with
        | none =>
            rw [hspliced] at hitems
            cases hitems
        | some items =>
            rw [hspliced] at hitems
            cases hitems
            simp [hvalue, hspliced]
      · rintro ⟨⟨⟨value, hvalue, hitems⟩, -⟩, -, rfl, rfl⟩
        obtain ⟨items, hspliced⟩ := Option.isSome_iff_exists.1 (hitems rfl).2
        refine ⟨value, _, ⟨hvalue, rfl⟩, ?_⟩
        rw [if_pos rfl, spliced_eq, hvalue, hspliced]
        simp [hspliced]
        rfl
  | false =>
      constructor
      · rintro ⟨value, between, ⟨hvalue, rfl⟩, hitems⟩
        cases hitems
        simp [hvalue]
      · rintro ⟨⟨⟨value, hvalue, -⟩, -⟩, -, rfl, rfl⟩
        refine ⟨value, _, ⟨hvalue, rfl⟩, ?_⟩
        rw [hvalue]
        rfl

-- =================================================================== trees

/-- Everything in some keys can be a key. -/
def Hashable (keys : List Node) : Prop := ∀ key ∈ keys, key.unhashable? = none

theorem hashable_append_iff {keys keys' : List Node} :
    Hashable (keys ++ keys') ↔ Hashable keys ∧ Hashable keys' :=
  List.forall_mem_append

theorem hashable_cons_iff {key : Node} {keys : List Node} :
    Hashable (key :: keys) ↔ key.unhashable? = none ∧ Hashable keys :=
  List.forall_mem_cons

/-- A part of a template is walked as its holes are replaced. -/
def Replaces (s : Supply) (n : Node) : Prop :=
  ∀ index, s.Walks index n.slots (Hashable (s.keys index n)) (s.fillNode n) (s.replace index n)

theorem fillItems_walks {items : List Node} (h : ∀ n ∈ items, s.Replaces n) (index : Nat) :
    s.Walks index (Node.slotsIn items) (Hashable (s.keysIn index items)) (s.fillItems items)
      (s.replaceItems index items) := by
  induction items generalizing index with
  | nil => exact (pure_walks []).congr (by simp [Hashable, keysIn])
  | cons n rest ih =>
      have hrest := ih fun m hm => h m (.tail _ hm)
      cases n with
      | hole hole =>
          have hslots :
              Node.slotsIn (.hole hole :: rest) = [⟨hole, true⟩] ++ Node.slotsIn rest := rfl
          rw [hslots, fillItems_hole_cons]
          refine (bind_walks (insertion_walks hole) (map_walks (hrest _) _)).congr ?_
          simp [keysIn, keys]
          rfl
      | _ =>
          refine (bind_walks (h _ (.head _) index) (map_walks (hrest _) _)).congr ?_
          rw [keysIn, hashable_append_iff]
          rfl

theorem fillPairs_walks {pairs : List (Node × Node)}
    (h : ∀ p ∈ pairs, s.Replaces p.1 ∧ s.Replaces p.2) (index : Nat) :
    s.Walks index (Node.slotsInPairs pairs) (Hashable (s.keysInPairs index pairs))
      (s.fillPairs pairs) (s.replacePairs index pairs) := by
  induction pairs generalizing index with
  | nil => exact (pure_walks []).congr (by simp [Hashable, keysInPairs])
  | cons p rest ih =>
      obtain ⟨hkey, hvalue⟩ := h p (.head _)
      have hrest := ih fun m hm => h m (.tail _ hm)
      refine (bind_walks (hkey index) (bind_walks (hvalue _) (map_walks (hrest _) _))).congr ?_
      rw [keysInPairs, hashable_append_iff, hashable_append_iff]
      rfl

/-- A key that can be one is entered, and any other stops the walk. -/
theorem enter_walks {key value : Node} {done : List (Node × Node)}
    {next : List (Node × Node) → FillM (List (Node × Node))} {result : List (Node × Node)}
    (h : s.Walks index slots P (next (collapse (done ++ [(key, value)]))) result) :
    s.Walks index slots (key.unhashable? = none ∧ P)
      (match enterPair? (collapse done) key value with
        | .error kind => throw (.host (.unhashableKey kind))
        | .ok pairs => next pairs) result := by
  unfold enterPair?
  cases hkey : key.unhashable? with
  | none =>
      rw [← collapse_concat]
      exact h.congr (by simp)
  | some kind =>
      intro b left
      show Except.error _ = Except.ok _ ↔ _
      simp

theorem fillEntries_walks {pairs : List (Node × Node)}
    (h : ∀ p ∈ pairs, s.Replaces p.1 ∧ s.Replaces p.2) (done : List (Node × Node)) (index : Nat) :
    s.Walks index (Node.slotsInPairs pairs)
      (Hashable (s.keysInPairs index pairs ++ (s.replacePairs index pairs).map (·.1)))
      (s.fillEntries (collapse done) pairs) (collapse (done ++ s.replacePairs index pairs)) := by
  induction pairs generalizing done index with
  | nil =>
      rw [replacePairs, List.append_nil]
      exact (pure_walks _).congr (by simp [Hashable, keysInPairs])
  | cons p rest ih =>
      obtain ⟨hkey, hvalue⟩ := h p (.head _)
      have hrest := ih fun m hm => h m (.tail _ hm)
      have hsplit : done ++ s.replacePairs index (p :: rest)
          = done ++ [(s.replace index p.1, s.replace (index + p.1.blanks) p.2)]
            ++ s.replacePairs (index + p.1.blanks + p.2.blanks) rest := by
        rw [List.append_assoc]
        rfl
      rw [hsplit]
      refine (bind_walks (hkey index) (bind_walks (hvalue _) (enter_walks (hrest _ _)))).congr ?_
      rw [keysInPairs, replacePairs, List.map_cons]
      simp only [hashable_append_iff, hashable_cons_iff]
      constructor
      · rintro ⟨hk, hv, hself, hmore, hothers⟩
        exact ⟨⟨hk, hv, hmore⟩, hself, hothers⟩
      · rintro ⟨⟨hk, hv, hmore⟩, hself, hothers⟩
        exact ⟨hk, hv, hself, hmore, hothers⟩

/-- The walk over a template replaces its holes. -/
theorem replaces (s : Supply) (t : Node) : s.Replaces t := by
  induction t using Node.children_induction with
  | step t ih =>
      intro index
      cases t with
      | hole hole => exact (fillHole_walks hole).congr (by simp [Hashable, keys])
      | form items => exact map_walks (fillItems_walks ih index) _
      | seq kind items => exact map_walks (fillItems_walks ih index) _
      | map kind pairs =>
          have hpairs : ∀ p ∈ pairs, s.Replaces p.1 ∧ s.Replaces p.2 := fun p hp =>
            ⟨ih p.1 (Node.mem_children_of_mem kind hp).1,
              ih p.2 (Node.mem_children_of_mem kind hp).2⟩
          cases kind with
          | object => exact map_walks (fillPairs_walks hpairs index) _
          | dictionary => exact map_walks (fillEntries_walks hpairs [] index) _
      | _ => exact (pure_walks _).congr (by simp [Hashable, keys])

-- ================================================================ filling

/-- As long as slots are served, the values do not run out. -/
theorem Serves.blanks_le {index : Nat} {ps : List Slot} (h : s.Serves index ps)
    (hindex : index ≤ s.positional.length) : index + blanksAmong ps ≤ s.positional.length := by
  induction ps generalizing index with
  | nil => exact hindex
  | cons p rest ih =>
      obtain ⟨⟨value, hvalue, -⟩, hrest⟩ := h
      rw [blanksAmong_cons, ← Nat.add_assoc]
      refine ih hrest ?_
      cases hname : p.hole.name with
      | some name =>
          rw [blanksAmong_of_name hname]
          exact hindex
      | none =>
          simp only [valueAt, hname] at hvalue
          rw [blanksAmong_of_no_name hname]
          exact (List.getElem?_eq_some_iff.1 hvalue).1

/-- Slots are served one after another if each of them is, in its place. -/
theorem serves_iff {index : Nat} {ps : List Slot} :
    s.Serves index ps
      ↔ ∀ i p, ps[i]? = some p → s.ServesAt (index + blanksAmong (ps.take i)) p := by
  induction ps generalizing index with
  | nil => simp [Serves]
  | cons q rest ih =>
      rw [Serves, ih]
      constructor
      · rintro ⟨hfirst, hrest⟩ i p hp
        cases i with
        | zero =>
            cases hp
            exact hfirst
        | succ i =>
            rw [List.take_succ_cons, blanksAmong_cons, ← Nat.add_assoc]
            exact hrest i p hp
      · intro h
        refine ⟨h 0 q rfl, fun i p hp => ?_⟩
        have hnext := h (i + 1) p hp
        rw [List.take_succ_cons, blanksAmong_cons, ← Nat.add_assoc] at hnext
        exact hnext

/-- Where there are as many values as unnamed holes, each of these has its value. -/
theorem exists_valueAt {ps : List Slot} (hcount : blanksAmong ps = s.positional.length)
    (hbound : ∀ p ∈ ps, ∀ name, p.hole.name = some name → s.named.binds name) {i : Nat} {p : Slot}
    (hp : ps[i]? = some p) : ∃ value, s.valueAt (blanksAmong (ps.take i)) p.hole = some value := by
  unfold valueAt
  cases hname : p.hole.name with
  | some name =>
      rw [← Option.isSome_iff_exists, Bindings.get?_isSome]
      exact hbound p (List.mem_of_getElem? hp) name hname
  | none =>
      -- the hole itself is one more than those before it
      have hsplit : ps.take (i + 1) = ps.take i ++ [p] := by
        rw [List.take_add_one, hp]
        rfl
      have hnext : blanksAmong (ps.take (i + 1)) = blanksAmong (ps.take i) + 1 := by
        rw [hsplit, blanksAmong_append, blanksAmong_of_no_name hname]
      have hall : blanksAmong (ps.take (i + 1)) ≤ blanksAmong ps :=
        (List.take_sublist _ _).countP_le
      have hlt : blanksAmong (ps.take i) < s.positional.length := by omega
      exact ⟨_, List.getElem?_eq_getElem hlt⟩

/-- A supply suits a template if it serves the slots of the template, up to the last of
its values. -/
theorem suits_iff {t : Node} :
    s.Suits t ↔ s.Serves 0 t.slots ∧ Hashable (s.keys 0 t) ∧ s.positional.length ≤ t.blanks := by
  constructor
  · intro h
    refine ⟨serves_iff.2 fun i p hp => ?_, h.keys, Nat.le_of_eq h.count.symm⟩
    obtain ⟨value, hvalue⟩ := exists_valueAt h.count h.bound hp
    rw [Nat.zero_add]
    exact ⟨value, hvalue, fun hsplice =>
      ⟨h.listed p (List.mem_of_getElem? hp) hsplice, h.sequences i p hp hsplice value hvalue⟩⟩
  · rintro ⟨hserves, hkeys, hlength⟩
    have hle := hserves.blanks_le (Nat.zero_le _)
    rw [Nat.zero_add] at hle
    have hslots := serves_iff.1 hserves
    refine ⟨Nat.le_antisymm hle hlength, fun p hp name hname => ?_, fun p hp hsplice => ?_,
      fun i p hp hsplice value hvalue => ?_, hkeys⟩
    · obtain ⟨i, hi⟩ := List.getElem?_of_mem hp
      obtain ⟨value, hvalue, -⟩ := hslots i p hi
      simp only [valueAt, hname] at hvalue
      rw [← Bindings.get?_isSome, hvalue]
      rfl
    · obtain ⟨i, hi⟩ := List.getElem?_of_mem hp
      obtain ⟨value, hvalue, hsequence⟩ := hslots i p hi
      exact (hsequence hsplice).1
    · obtain ⟨value', hvalue', hsequence⟩ := hslots i p hp
      rw [Nat.zero_add, hvalue] at hvalue'
      cases hvalue'
      exact (hsequence hsplice).2

/-- Filling is the walk with all positional values, which has to use them up. -/
theorem fill_ok_iff {t u : Node} :
    s.fill t = .ok u
      ↔ s.named.binds reservedName = false ∧ s.fillNode t s.positional = .ok (u, []) := by
  unfold fill
  cases s.named.binds reservedName with
  | true => simp [bind, Except.bind, throw, throwThe, MonadExceptOf.throw]
  | false =>
      show (s.fillNode t s.positional >>= fun x => _) = _ ↔ _
      cases s.fillNode t s.positional with
      | error e => simp [bind, Except.bind]
      | ok x =>
          obtain ⟨b, left⟩ := x
          cases left with
          | nil => simp [bind, Except.bind, pure, Except.pure]
          | cons v left => simp [bind, Except.bind]

/-- Filling is simultaneous substitution: it succeeds exactly for a supply that suits
the template, and then every hole has been replaced by its value, an unnamed one by the
value of its number, and every splice by the items of its value. -/
theorem fill_ok_iff_suits (s : Supply) (hname : s.named.binds reservedName = false) (t u : Node) :
    s.fill t = .ok u ↔ s.Suits t ∧ u = s.replace 0 t := by
  have hwalk (b : Node) (left : List Node) : s.fillNode t s.positional = .ok (b, left)
      ↔ s.Serves 0 t.slots ∧ Hashable (s.keys 0 t) ∧ b = s.replace 0 t
        ∧ left = s.positional.drop t.blanks := by
    have hwalks := s.replaces t 0 b left
    rw [List.drop_zero, Nat.zero_add] at hwalks
    exact hwalks
  rw [fill_ok_iff, and_iff_right hname, hwalk, suits_iff, eq_comm (a := []),
    List.drop_eq_nil_iff]
  constructor
  · rintro ⟨hserves, hkeys, hu, hlength⟩
    exact ⟨⟨hserves, hkeys, hlength⟩, hu⟩
  · rintro ⟨⟨hserves, hkeys, hlength⟩, hu⟩
    exact ⟨hserves, hkeys, hu, hlength⟩

/-- A template with a splice, unnamed holes around it, a hole for a key, and a dictionary
of two entries. -/
def crowdedTemplate : Node :=
  .form [.sym ⟨"f", none⟩, .hole ⟨none, false⟩,
    .seq .vector [.hole ⟨some "rest", true⟩, .hole ⟨none, false⟩],
    .map .object [(.hole ⟨some "key", false⟩, .hole ⟨none, false⟩)],
    .map .dictionary [(.hole ⟨some "one", false⟩, .str "a"), (.bool true, .hole ⟨none, false⟩)]]

/-- Values for it, of which one is a hole itself. -/
def crowdedSupply : Supply where
  positional := [.sym ⟨"x", none⟩, .hole ⟨some "inner", false⟩, .int 2, .str "b"]
  named := [("rest", .seq .tuple [.int 8, .int 9]), ("key", .keyword ⟨"k", none⟩), ("one", .int 1)]

/-- The splice is gone, the hole that was put in stays, and the dictionary has one entry,
since one and true are the same key. -/
theorem crowdedTemplate_filled :
    crowdedSupply.named.binds reservedName = false ∧ crowdedSupply.Suits crowdedTemplate
      ∧ crowdedSupply.replace 0 crowdedTemplate
        = .form [.sym ⟨"f", none⟩, .sym ⟨"x", none⟩,
            .seq .vector [.int 8, .int 9, .hole ⟨some "inner", false⟩],
            .map .object [(.keyword ⟨"k", none⟩, .int 2)],
            .map .dictionary [(.int 1, .str "b")]] := by
  have hname : crowdedSupply.named.binds reservedName = false := rfl
  have hfill : crowdedSupply.fill crowdedTemplate
      = .ok (.form [.sym ⟨"f", none⟩, .sym ⟨"x", none⟩,
          .seq .vector [.int 8, .int 9, .hole ⟨some "inner", false⟩],
          .map .object [(.keyword ⟨"k", none⟩, .int 2)],
          .map .dictionary [(.int 1, .str "b")]]) := rfl
  obtain ⟨hsuits, hreplaced⟩ := (fill_ok_iff_suits crowdedSupply hname crowdedTemplate _).1 hfill
  exact ⟨hname, hsuits, hreplaced.symm⟩

end Supply

end FormScript
