/-
Custom forms and their registries. A custom form is an expansion: a function
from the arguments of a call to the node that takes its place. A registry is
a finite map from names to custom forms, kept in increasing order of the
names.
-/
import FormScript.Template
import FormScript.Run

namespace FormScript

/-- A custom form. Its expansion is handed a stamp that is its own, for the
identities of the values it makes. -/
structure CustomForm where
  expand : (stamp : Nat) → List Node → Except Error Node
  /-- The name of the module that defines the form. -/
  origin : String := ""
  /-- A description. -/
  doc : String := ""

namespace CustomForm

/-- The module that template forms are said to be defined in. -/
def templateOrigin : String := "jsforms.macros"

/-- The expansion of a template form: its arguments fill the holes of its
body that bear the names of its parameters. -/
def expandTemplate (name : String) (params : Params) (body : Node) (args : List Node) :
    Except Error Node :=
  if params.accepts args.length then { named := params.bind args : Supply }.fill body
  else .error (params.arityError name args.length)

/-- The custom form of a template with these parameters. -/
def template (name : String) (params : List String) (body : Node) (doc : String := "") :
    Except Error CustomForm :=
  match Params.parse params with
  | .error e => .error (.host e)
  | .ok params =>
    .ok { expand := fun _ args => expandTemplate name params body args
          origin := templateOrigin
          doc }

end CustomForm

-- ========================================================== registries

/-- Entries with one more, in the place that keeps them in order; an entry of
the same name is replaced. -/
def insertEntry (name : String) (form : CustomForm) :
    List (String × CustomForm) → List (String × CustomForm)
  | [] => [(name, form)]
  | e :: rest =>
    if name < e.1 then (name, form) :: e :: rest
    else if name = e.1 then (name, form) :: rest
    else e :: insertEntry name form rest

theorem mem_insertEntry {name : String} {form : CustomForm} {entries : List (String × CustomForm)}
    {x : String × CustomForm} (h : x ∈ insertEntry name form entries) :
    x.1 = name ∨ x ∈ entries := by
  induction entries with
  | nil => simp_all [insertEntry]
  | cons e rest ih =>
    rw [insertEntry] at h
    split at h
    · cases h with
      | head => exact .inl rfl
      | tail _ h => exact .inr h
    · split at h
      · cases h with
        | head => exact .inl rfl
        | tail _ h => exact .inr (.tail _ h)
      · cases h with
        | head => exact .inr (.head _)
        | tail _ h => exact (ih h).imp id (.tail _)

theorem pairwise_insertEntry (name : String) (form : CustomForm)
    {entries : List (String × CustomForm)} (h : entries.Pairwise (·.1 < ·.1)) :
    (insertEntry name form entries).Pairwise (·.1 < ·.1) := by
  induction entries with
  | nil => simp [insertEntry]
  | cons e rest ih =>
    have ⟨first, others⟩ := List.pairwise_cons.1 h
    rw [insertEntry]
    split
    · rename_i less
      refine List.pairwise_cons.2 ⟨fun x hx => ?_, h⟩
      cases hx with
      | head => exact less
      | tail _ hx => exact String.lt_trans less (first x hx)
    · rename_i notLess
      split
      · rename_i same
        exact List.pairwise_cons.2 ⟨fun x hx => same ▸ first x hx, others⟩
      · rename_i differ
        refine List.pairwise_cons.2 ⟨fun x hx => ?_, ih others⟩
        rcases mem_insertEntry hx with hname | hx
        · rw [hname]
          exact Std.lt_of_le_of_ne (String.not_lt.1 notLess) (Ne.symm differ)
        · exact first x hx

/-- An entry is not found under another name. -/
theorem lookup_insertEntry_of_ne {name other : String} (h : other ≠ name) (form : CustomForm)
    (entries : List (String × CustomForm)) :
    (insertEntry name form entries).lookup other = entries.lookup other := by
  have hother : (other == name) = false := beq_false_of_ne h
  induction entries with
  | nil => rw [insertEntry, List.lookup_cons, hother]
  | cons e rest ih =>
    rw [insertEntry]
    split
    · rw [List.lookup_cons, hother]
    · split
      · rename_i same
        rw [List.lookup_cons, List.lookup_cons, ← same, hother]
      · rw [List.lookup_cons, List.lookup_cons, ih]

theorem lookup_filter_of_ne {name other : String} (h : other ≠ name)
    (entries : List (String × CustomForm)) :
    (entries.filter (·.1 != name)).lookup other = entries.lookup other := by
  induction entries with
  | nil => rfl
  | cons e rest ih =>
    rw [List.filter_cons]
    split
    · rw [List.lookup_cons, List.lookup_cons, ih]
    · rename_i same
      have hname : e.1 = name := by simpa using same
      rw [ih, List.lookup_cons, hname, beq_false_of_ne h]

theorem lookup_insertEntry_self (name : String) (form : CustomForm)
    (entries : List (String × CustomForm)) :
    (insertEntry name form entries).lookup name = some form := by
  induction entries with
  | nil => rw [insertEntry, List.lookup_cons, beq_self_eq_true]
  | cons e rest ih =>
    rw [insertEntry]
    split
    · rw [List.lookup_cons, beq_self_eq_true]
    · split
      · rw [List.lookup_cons, beq_self_eq_true]
      · rename_i differ
        rw [List.lookup_cons, beq_false_of_ne differ, ih]

theorem lookup_filter_self (name : String) (entries : List (String × CustomForm)) :
    (entries.filter (·.1 != name)).lookup name = none := by
  refine List.lookup_eq_none_iff.2 fun e he => ?_
  have hother : (e.1 != name) = true := (List.mem_filter.1 he).2
  exact bne_iff_ne.2 (Ne.symm (bne_iff_ne.1 hother))

/-- A finite map from names to custom forms, in order of the names. -/
structure Registry where
  entries : List (String × CustomForm) := []
  sorted : entries.Pairwise (·.1 < ·.1) := by simp

namespace Registry

/-- The registry without forms. -/
def empty : Registry := {}

instance : Inhabited Registry := ⟨empty⟩

/-- The form registered under a name. -/
def get? (r : Registry) (name : String) : Option CustomForm := r.entries.lookup name

/-- Whether a form is registered under a name. -/
def contains (r : Registry) (name : String) : Bool := (r.get? name).isSome

/-- The registered names, in increasing order. -/
def names (r : Registry) : List String := r.entries.map (·.1)

/-- The number of registered forms. -/
def size (r : Registry) : Nat := r.entries.length

/-- The registry in which a form is registered under a name, in place of any
other under it. -/
def insert (r : Registry) (name : String) (form : CustomForm) : Registry :=
  ⟨insertEntry name form r.entries, pairwise_insertEntry name form r.sorted⟩

/-- The registry without the form of a name. -/
def erase (r : Registry) (name : String) : Registry :=
  ⟨r.entries.filter (·.1 != name), r.sorted.filter _⟩

theorem get?_insert_of_ne {name other : String} (h : other ≠ name) (r : Registry)
    (form : CustomForm) : (r.insert name form).get? other = r.get? other :=
  lookup_insertEntry_of_ne h form r.entries

theorem get?_insert_self (r : Registry) (name : String) (form : CustomForm) :
    (r.insert name form).get? name = some form :=
  lookup_insertEntry_self name form r.entries

theorem get?_erase_of_ne {name other : String} (h : other ≠ name) (r : Registry) :
    (r.erase name).get? other = r.get? other :=
  lookup_filter_of_ne h r.entries

theorem get?_erase_self (r : Registry) (name : String) : (r.erase name).get? name = none :=
  lookup_filter_self name r.entries

/-- What is noted when a form is registered under a name. -/
def registration (r : Registry) (name : String) : Event :=
  if r.contains name then .overwriting name else .registering name

/-- A call of a registered form, by the name at its head. -/
def call? (r : Registry) (n : Node) : Option (CustomForm × List Node) :=
  match n.call? with
  | some (name, args) => (r.get? name).map (·, args)
  | none => none

end Registry

end FormScript
