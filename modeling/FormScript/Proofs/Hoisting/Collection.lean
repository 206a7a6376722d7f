/-
The reference collection of hoisted names: which names a tree declares in
the scope around it, and in which order, said form by form and without
any writing.

- a declaration lists its own names, then those of its values;
- a named function literal lists its name, and no function lists anything
  from its body;
- a loop over bindings lists its body first and then its pairs, the
  innermost one first;
- a try form lists its body, then its catch clause, then its finally
  clause, wherever the clauses stand;
- raw text and loop exits list nothing;
- a custom form lists what its expansion lists;
- every other node lists what its children list, from left to right.

A stream lists what the items that it still has list. Which items these
are depends on who has read the stream before, so a collection is a
function of how far the streams have been read (`Collection`), and bodies
of functions are gone through as well, with their names dropped.

`Emitter.hoisted` is the collection of a whole tree. Its recursion is that
of emission: an expansion uses up a level, a child is lower than its
parent.
-/
import FormScript.Proofs.Emission

namespace FormScript

-- =========================================================== collections

/-- Names collected in order, while items are taken from streams. -/
abbrev Collection := Streams → List String × Streams

namespace Collection

/-- No names. -/
def nothing : Collection := fun s => ([], s)

/-- The given names. -/
def names (xs : List String) : Collection := fun s => (xs, s)

/-- The names of one collection, then those of another. -/
def andThen (c d : Collection) : Collection := fun s =>
  ((c s).1 ++ (d (c s).2).1, (d (c s).2).2)

/-- A collection whose names belong to another scope. -/
def hidden (c : Collection) : Collection := fun s => ([], (c s).2)

/-- The names of some nodes, from left to right. -/
def each (collect : Node → Collection) : List Node → Collection
  | [] => nothing
  | n :: rest => (collect n).andThen (each collect rest)

/-- The names of those items, numbered from `index`, that the stream still
has. -/
def untaken (collect : Node → Collection) (id : Identity) :
    (index : Nat) → List Node → Collection
  | _, [] => nothing
  | index, n :: rest => fun s =>
    if s.position id ≤ index then
      ((collect n).andThen (untaken collect id (index + 1) rest))
        (s.advance id (index + 1))
    else untaken collect id (index + 1) rest s

variable {c d e : Collection} {f g : Node → Collection}

@[simp] theorem nothing_andThen : nothing.andThen c = c := rfl

@[simp] theorem andThen_nothing : c.andThen nothing = c := by
  funext s
  simp [andThen, nothing]

@[simp] theorem andThen_assoc :
    (c.andThen d).andThen e = c.andThen (d.andThen e) := by
  funext s
  simp [andThen]

@[simp] theorem each_nil : each f [] = nothing := rfl

@[simp] theorem each_cons (n : Node) (ns : List Node) :
    each f (n :: ns) = (f n).andThen (each f ns) := rfl

@[simp] theorem each_append (ms ns : List Node) :
    each f (ms ++ ns) = (each f ms).andThen (each f ns) := by
  induction ms with
  | nil => rfl
  | cons m ms ih =>
      rw [List.cons_append, each_cons, ih, each_cons, andThen_assoc]

theorem each_congr {ns : List Node} (h : ∀ n ∈ ns, f n = g n) :
    each f ns = each g ns := by
  induction ns with
  | nil => rfl
  | cons n ns ih =>
      rw [each_cons, each_cons, h n (.head _),
        ih fun m hm => h m (.tail _ hm)]

theorem untaken_congr {id : Identity} {ns : List Node}
    (h : ∀ n ∈ ns, f n = g n) (index : Nat) :
    untaken f id index ns = untaken g id index ns := by
  induction ns generalizing index with
  | nil => rfl
  | cons n ns ih =>
      unfold untaken
      rw [h n (.head _), ih fun m hm => h m (.tail _ hm)]

end Collection

-- ======================================================== special forms

namespace Layout

/-- The nodes at odd places. -/
def odds : List Node → List Node
  | _ :: n :: rest => n :: odds rest
  | _ => []

/-- Names and collections of a binding list, the innermost pair first. -/
def bindingsInward : List Node → List Node
  | name :: collection :: rest => bindingsInward rest ++ [name, collection]
  | _ => []

/-- What a try form writes, in order: what is no clause, the arguments of
its catch clause, those of its finally clause. -/
def tryParts (args : List Node) : List Node :=
  args.filter (!isClause ·) ++ (args.filterMap catchClause?).flatten
    ++ (args.filterMap finallyClause?).flatten

end Layout

open Collection Layout

/-- The names that a special form declares around it. -/
def SpecialForm.collect (f : Node → Collection) (form : SpecialForm)
    (args : List Node) : Collection :=
  match form, args with
  | .declaration, args =>
    (names ((evens args).map localName)).andThen (each f (odds args))
  | .functionLiteral, .sym id :: _ :: body =>
    (names [id.name]).andThen (each f body).hidden
  | .functionLiteral, _ :: body => (each f body).hidden
  | .functionDeclaration, _ :: _ :: body => (each f body).hidden
  | .raw, _ => nothing
  | .loopExit, _ => nothing
  | .forLoop, bindings :: body =>
    (each f body).andThen
      (each f (bindingsInward (bindings.seqItems?.getD [])))
  | .tryBlock, args => each f (tryParts args)
  | _, args => each f args

/-- The names that a node declares around it, given those of its
children, custom forms aside. -/
def Node.collect (f : Node → Collection) : Node → Collection
  | .seq _ items => each f items
  | .map _ pairs => each f (pairs.flatMap fun p => [p.1, p.2])
  | .stream id items => untaken f id 0 items
  | .form (.sym id :: args) =>
    match methodName? id.name with
    | some _ => each f args
    | none =>
      match SpecialForm.ofName? id.name with
      | some special => special.collect f args
      | none =>
        if Operator.isBinary id.name || Operator.isLeading id.name
            || Operator.isTrailing id.name then each f args
        else each f (.sym id :: args)
  | .form items => each f items
  | _ => nothing

-- ============================================================= congruence

namespace Layout

theorem mem_of_mem_odds {args : List Node} {n : Node} (h : n ∈ odds args) :
    n ∈ args := by
  fun_induction odds args with
  | case1 m value rest ih =>
      rcases List.mem_cons.1 h with rfl | hn
      · exact .tail _ (.head _)
      · exact .tail _ (.tail _ (ih hn))
  | case2 => cases h

theorem mem_of_mem_bindingsInward {items : List Node} {n : Node}
    (h : n ∈ bindingsInward items) : n ∈ items := by
  fun_induction bindingsInward items with
  | case1 name collection rest ih =>
      rcases List.mem_append.1 h with hn | hn
      · exact .tail _ (.tail _ (ih hn))
      · rcases List.mem_cons.1 hn with rfl | hn
        · exact .head _
        · rw [List.mem_singleton] at hn
          exact hn ▸ .tail _ (.head _)
  | case2 => cases h

/-- What a try form writes has a hereditary property of its arguments. -/
theorem forall_mem_tryParts {p : Node → Prop} (hp : Node.Hereditary p)
    {args : List Node} (h : ∀ m ∈ args, p m) : ∀ n ∈ tryParts args, p n := by
  intro n hn
  rcases List.mem_append.1 hn with hn | hn
  · rcases List.mem_append.1 hn with hn | hn
    · exact h n (List.mem_filter.1 hn).1
    · obtain ⟨clause, hc, hn⟩ := List.mem_flatten.1 hn
      obtain ⟨m, hm, hclause⟩ := List.mem_filterMap.1 hc
      exact catchClause?_all hp hclause (h m hm) n hn
  · obtain ⟨clause, hc, hn⟩ := List.mem_flatten.1 hn
    obtain ⟨m, hm, hclause⟩ := List.mem_filterMap.1 hc
    exact finallyClause?_all hp hclause (h m hm) n hn

end Layout

/-- A special form's names depend on nodes below its arguments' bound
only. -/
theorem SpecialForm.collect_congr {k : Nat} {f g : Node → Collection}
    (hfg : ∀ m, m.height < k → f m = g m) (form : SpecialForm)
    {args : List Node} (h : ∀ n ∈ args, n.height < k) :
    form.collect f args = form.collect g args := by
  have each_eq {ns : List Node} (hns : ∀ n ∈ ns, n ∈ args) :
      each f ns = each g ns :=
    each_congr fun n hn => hfg n (h n (hns n hn))
  unfold SpecialForm.collect
  split
  · rw [each_eq fun n hn => mem_of_mem_odds hn]
  · rw [each_eq fun n hn => .tail _ (.tail _ hn)]
  · rw [each_eq fun n hn => .tail _ hn]
  · rw [each_eq fun n hn => .tail _ (.tail _ hn)]
  · rfl
  · rfl
  · rename_i bindings body
    rw [each_eq fun n hn => .tail _ hn]
    congr 1
    refine each_congr fun n hn => hfg n ?_
    cases hitems : bindings.seqItems? with
    | none =>
        rw [hitems] at hn
        cases mem_of_mem_bindingsInward hn
    | some items =>
        rw [hitems] at hn
        exact (Node.hereditary_height_lt k).seqItems hitems (h bindings (.head _)) n
          (mem_of_mem_bindingsInward hn)
  · exact each_congr fun n hn =>
      hfg n (forall_mem_tryParts (Node.hereditary_height_lt k) h n hn)
  · exact each_eq fun n hn => hn

/-- A node's names depend on lower nodes only. -/
theorem Node.collect_congr {f g : Node → Collection} {n : Node}
    (hfg : ∀ m, m.height < n.height → f m = g m) :
    n.collect f = n.collect g := by
  have items_eq {ns : List Node} (h : heights ns < n.height) :
      each f ns = each g ns :=
    each_congr fun m hm =>
      hfg m (Nat.lt_of_le_of_lt (height_le_heights hm) h)
  unfold Node.collect
  split
  · exact items_eq (Nat.lt_succ_self _)
  · refine each_congr fun m hm => hfg m ?_
    obtain ⟨p, hp, hm⟩ := List.mem_flatMap.1 hm
    have hlt := height_le_pairHeights hp
    rw [height]
    rcases List.mem_cons.1 hm with rfl | hm
    · omega
    · rw [List.mem_singleton.1 hm]
      omega
  · refine untaken_congr (fun m hm => hfg m ?_) 0
    rw [height]
    exact Nat.lt_succ_of_le (height_le_heights hm)
  · rename_i id args
    have hargs : ∀ m ∈ args, m.height < (form (sym id :: args)).height := by
      intro m hm
      rw [height]
      exact Nat.lt_succ_of_le (height_le_heights (.tail _ hm))
    have args_eq : each f args = each g args :=
      each_congr fun m hm => hfg m (hargs m hm)
    split
    · exact args_eq
    · split
      · exact SpecialForm.collect_congr hfg _ hargs
      · split
        · exact args_eq
        · exact items_eq (Nat.lt_succ_self _)
  · exact items_eq (Nat.lt_succ_self _)
  · rfl

-- ============================================================ whole trees

namespace Emitter

/-- The names that a node declares around it, with this many levels of
expansion left. -/
def hoisted (e : Emitter) (levels : Nat) (n : Node) : Collection :=
  match e.forms.customCall? n with
  | some call =>
    match levels with
    | 0 => nothing
    | levels + 1 => fun s =>
      match call.form.expand s.nextStamp call.args with
      | .ok expansion => hoisted e levels expansion s.useStamp
      | .error _ => ([], s)
  | none =>
    n.collect fun m =>
      if m.height < n.height then hoisted e levels m else nothing
termination_by (levels, n.height)

variable (e : Emitter)

/-- A custom form declares what its expansion does. -/
theorem hoisted_custom {levels : Nat} {n m : Node} {call : Call}
    {s : Streams} (hcall : e.forms.customCall? n = some call)
    (hexp : call.form.expand s.nextStamp call.args = .ok m) :
    e.hoisted (levels + 1) n s = e.hoisted levels m s.useStamp := by
  rw [hoisted]
  simp only [hcall, hexp]

/-- Any other node declares what its own form and its children do. -/
theorem hoisted_of_not_custom {levels : Nat} {n : Node}
    (hcall : e.forms.customCall? n = none) :
    e.hoisted levels n = n.collect (e.hoisted levels) := by
  rw [hoisted]
  simp only [hcall]
  exact Node.collect_congr fun m hm => if_pos hm

end Emitter

end FormScript
