/-
The parameters of a template form: a list of names that is read, and names that arguments
are bound to.

Reading keeps everything. What was read can be listed again (`Params.listed`), and a list
reads as these parameters exactly if it is their listing (`Params.parse_eq_ok_iff`).

As long as no two parameters share a name, every parameter is bound to what it stands for:
a fixed one to the argument in its place, the rest parameter to all arguments behind the
fixed ones. Other names are not bound. Renaming parameters renames the keys of what is
bound and leaves the values alone, so a lookup goes through under the new name wherever
the renaming keeps the name apart from the other parameters.
-/
import FormScript.Template
import Mathlib.Data.List.Nodup
import Mathlib.Data.List.TakeDrop
import Mathlib.Data.List.TakeWhile

namespace FormScript

-- ================================================================ lookups

namespace Bindings

variable {b : Bindings} {name : String} {value : Node}

theorem get?_eq_some_of_mem (hkeys : (b.map (·.1)).Nodup) (h : (name, value) ∈ b) :
    b.get? name = some value := by
  obtain ⟨before, after, hsplit⟩ := List.append_of_mem (List.mem_reverse.2 h)
  have hnodup : ((before ++ (name, value) :: after).map (·.1)).Nodup := by
    rw [← hsplit, List.map_reverse, List.nodup_reverse]
    exact hkeys
  rw [List.map_append, List.map_cons] at hnodup
  have hbefore : name ∉ before.map (·.1) := fun hmem =>
    (List.nodup_middle.1 hnodup).notMem (List.mem_append_left _ hmem)
  rw [get?, hsplit]
  refine List.lookup_eq_some_iff.2 ⟨before, after, rfl, fun p hp => ?_⟩
  exact bne_iff_ne.2 fun heq => hbefore (heq ▸ List.mem_map_of_mem hp)

theorem get?_eq_none (h : name ∉ b.map (·.1)) : b.get? name = none := by
  refine List.lookup_eq_none_iff.2 fun p hp => bne_iff_ne.2 fun heq => h ?_
  exact heq ▸ List.mem_map_of_mem (List.mem_reverse.1 hp)

/-- Renamed keys are found under their new names. -/
theorem get?_map_keys {f : String → String} (hf : ∀ p ∈ b, f p.1 = f name → p.1 = name) :
    Bindings.get? (b.map (Prod.map f id)) (f name) = b.get? name := by
  have hlookup (l : Bindings) (hl : ∀ p ∈ l, f p.1 = f name → p.1 = name) :
      (l.map (Prod.map f id)).lookup (f name) = l.lookup name := by
    induction l with
    | nil => rfl
    | cons p rest ih =>
        have hkey : (f name == f p.1) = (name == p.1) := by
          rw [Bool.eq_iff_iff, beq_iff_eq, beq_iff_eq]
          exact ⟨fun h => (hl p (.head _) h.symm).symm, congrArg f⟩
        rw [List.map_cons, List.lookup_cons, List.lookup_cons, Prod.map_fst, hkey,
          ih fun q hq => hl q (.tail _ hq)]
        rfl
  rw [get?, get?, ← List.map_reverse]
  exact hlookup _ fun p hp => hf p (List.mem_reverse.1 hp)

end Bindings

namespace Params

variable {p : Params} {args : List Node} {name : String}

-- ================================================================ reading

/-- The list that parameters are read from. -/
def listed (p : Params) : List String :=
  p.fixed ++
    match p.rest with
    | none => []
    | some rest => [restMarker, rest]

theorem parse_eq_ok_iff {names : List String} :
    parse names = .ok p ↔ restMarker ∉ p.fixed ∧ p.listed = names := by
  unfold parse
  rw [List.span_eq_takeWhile_dropWhile]
  constructor
  · intro h
    -- the first marker ends the fixed names and heads what is left
    have hnames := List.takeWhile_append_dropWhile (p := (· != restMarker)) (l := names)
    have hfixed : restMarker ∉ names.takeWhile (· != restMarker) := fun hmem => by
      simpa using List.mem_takeWhile_imp hmem
    have hmarker := List.head?_dropWhile_not (· != restMarker) names
    split at h
    · rename_i hrest
      simp only [Prod.mk.injEq] at hrest
      rw [hrest.2] at hnames
      cases h
      rw [hrest.1] at hfixed hnames
      exact ⟨hfixed, hnames⟩
    · rename_i fixed marker rest hrest
      simp only [Prod.mk.injEq] at hrest
      rw [hrest.2] at hnames hmarker
      have hhead : marker = restMarker := by simpa using hmarker
      cases h
      rw [hrest.1] at hfixed
      rw [hrest.1, hhead] at hnames
      exact ⟨hfixed, hnames⟩
    · cases h
  · obtain ⟨fixed, rest⟩ := p
    rintro ⟨hfixed, rfl⟩
    have hall : ∀ x ∈ fixed, (x != restMarker) = true := fun x hx =>
      bne_iff_ne.2 fun heq => hfixed (heq ▸ hx)
    rw [listed, List.takeWhile_append_of_pos hall, List.dropWhile_append_of_pos hall]
    cases rest <;> simp

-- ================================================================ binding

/-- Too few arguments, or too many where no parameter takes the remaining ones. -/
def Misfits (p : Params) (count : Nat) : Prop :=
  count < p.fixed.length ∨ p.fixed.length < count ∧ p.rest = none

instance (p : Params) (count : Nat) : Decidable (p.Misfits count) :=
  inferInstanceAs (Decidable (_ ∨ _ ∧ _))

theorem length_le_of_not_misfits {count : Nat} (h : ¬p.Misfits count) : p.fixed.length ≤ count :=
  Nat.not_lt.1 fun hlt => h (.inl hlt)

theorem accepts_iff {count : Nat} : p.accepts count ↔ ¬p.Misfits count := by
  unfold accepts Misfits
  cases p.rest with
  | none =>
      simp only [Option.isSome_none, Bool.false_or, Bool.and_eq_true, decide_eq_true_eq, and_true]
      omega
  | some rest => simp

/-- The names of all parameters. -/
def names (p : Params) : List String := p.fixed ++ p.rest.toList

theorem keys_bind (h : p.fixed.length ≤ args.length) : (p.bind args).map (·.1) = p.names := by
  unfold bind names
  rw [List.map_append, List.map_fst_zip h]
  cases p.rest <;> rfl

/-- A fixed parameter is bound to the argument in its place. -/
theorem get?_bind_fixed (hnames : p.names.Nodup) (h : p.fixed.length ≤ args.length) {i : Nat}
    (hi : p.fixed[i]? = some name) : (p.bind args).get? name = args[i]? := by
  have hlt : i < args.length := Nat.lt_of_lt_of_le (List.getElem?_eq_some_iff.1 hi).1 h
  have hpair : (p.fixed.zip args)[i]? = some (name, args[i]) :=
    List.getElem?_zip_eq_some.2 ⟨hi, List.getElem?_eq_getElem hlt⟩
  rw [List.getElem?_eq_getElem hlt]
  exact Bindings.get?_eq_some_of_mem (keys_bind h ▸ hnames)
    (List.mem_append_left _ (List.mem_of_getElem? hpair))

/-- The rest parameter is bound to the list of the remaining arguments. -/
theorem get?_bind_rest (hnames : p.names.Nodup) (h : p.fixed.length ≤ args.length)
    (hrest : p.rest = some name) :
    (p.bind args).get? name = some (.seq .list (args.drop p.fixed.length)) := by
  refine Bindings.get?_eq_some_of_mem (keys_bind h ▸ hnames) ?_
  rw [bind, hrest]
  exact List.mem_append_right _ (.head _)

theorem get?_bind_of_notMem (h : p.fixed.length ≤ args.length) (hname : name ∉ p.names) :
    (p.bind args).get? name = none :=
  Bindings.get?_eq_none (keys_bind h ▸ hname)

/-- Every fixed parameter has the argument in its place, the rest parameter has the list of
the remaining ones, and no other name has a value. -/
structure Assigns (p : Params) (args : List Node) (b : Bindings) : Prop where
  fixed : ∀ (i : Nat) (name : String), p.fixed[i]? = some name → b.get? name = args[i]?
  rest : ∀ name, p.rest = some name → b.get? name = some (.seq .list (args.drop p.fixed.length))
  others : ∀ name, name ∉ p.names → b.get? name = none

theorem assigns_bind (hnames : p.names.Nodup) (h : p.fixed.length ≤ args.length) :
    p.Assigns args (p.bind args) where
  fixed _ _ := get?_bind_fixed hnames h
  rest _ := get?_bind_rest hnames h
  others _ := get?_bind_of_notMem h

-- =============================================================== renaming

/-- Parameters under other names. -/
def rename (f : String → String) (p : Params) : Params where
  fixed := p.fixed.map f
  rest := p.rest.map f

theorem names_rename (f : String → String) : (p.rename f).names = p.names.map f := by
  unfold rename names
  cases p.rest <;> simp

theorem misfits_rename (f : String → String) {count : Nat} :
    (p.rename f).Misfits count ↔ p.Misfits count := by
  simp [Misfits, rename]

theorem bind_rename (f : String → String) :
    (p.rename f).bind args = (p.bind args).map (Prod.map f id) := by
  unfold rename bind
  rw [List.map_append, List.zip_map_left, List.length_map]
  cases p.rest <;> rfl

/-- What a parameter is bound to, it is bound to under its new name. -/
theorem get?_bind_rename {f : String → String}
    (hf : ∀ x ∈ p.names, ∀ y ∈ p.names, f x = f y → x = y) (h : p.fixed.length ≤ args.length)
    (hname : name ∈ p.names) :
    ((p.rename f).bind args).get? (f name) = (p.bind args).get? name := by
  rw [bind_rename]
  refine Bindings.get?_map_keys fun pair hpair => hf pair.1 ?_ name hname
  rw [← keys_bind h]
  exact List.mem_map_of_mem hpair

end Params

end FormScript
