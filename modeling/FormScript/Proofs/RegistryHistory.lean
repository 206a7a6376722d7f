/-
A registry is a finite map, whatever has been done to it. After any steps of a session, a
registry holds a form under a name exactly if the history says so: the form was registered
there, or came with the snapshot that the registry was copied from, and no step since has
registered another form under the name, removed it, cleared the registry or made it anew
(`Session.Holds`). Everything that can be asked of the registry agrees with this.

# The argument

What a step does to one name in one registry is said once. A step that does not settle the
name (`Step.Settles`) leaves it as it is, and each of those that do has an equation. So the
last settling step of a history decides; a copy passes the question on to another registry
at an earlier time, which is why histories are taken apart from their ends and for all
registries at once (`Session.after_get?_iff`).
-/
import FormScript.Proofs.Isolation
import Mathlib.Data.List.Induction

namespace FormScript

-- ============================================================== registries

/-- The code points of a text. -/
def codePoints (text : String) : List Nat := text.toList.map Char.toNat

/-- Texts are ordered by their code points. -/
theorem codePoints_lt {x y : String} (h : x < y) : codePoints x < codePoints y := by
  have hmap {cs ds : List Char} (hlex : List.Lex (· < ·) cs ds) :
      List.Lex (· < ·) (cs.map Char.toNat) (ds.map Char.toNat) := by
    induction hlex with
    | nil => exact .nil
    | cons _ ih => exact .cons ih
    | rel hlt => exact .rel hlt
  exact hmap h

namespace Registry

/-- The names that are listed are those of the forms that are found. -/
theorem mem_names_iff (r : Registry) (name : String) : name ∈ r.names ↔ r.contains name := by
  rw [names, contains, get?, Option.isSome_iff_ne_none, ne_eq, List.lookup_eq_none_iff,
    List.mem_map]
  constructor
  · rintro ⟨e, he, rfl⟩ hnone
    exact bne_iff_ne.1 (hnone e he) rfl
  · intro hsome
    by_contra hnone
    exact hsome fun e he => bne_iff_ne.2 fun heq => hnone ⟨e, he, heq.symm⟩

theorem contains_iff (r : Registry) (name : String) :
    r.contains name ↔ ∃ form, r.get? name = some form :=
  Option.isSome_iff_exists

theorem names_increasing (r : Registry) :
    r.names.Pairwise fun x y => codePoints x < codePoints y :=
  List.pairwise_map.2 (r.sorted.imp codePoints_lt)

theorem size_eq_length_names (r : Registry) : r.size = r.names.length := by
  rw [size, names, List.length_map]

end Registry

-- =================================================================== steps

/-- Whether a step settles what a registry holds under a name: it registers a form under
the name there, removes the name, or makes the registry empty or anew. A definition that
fails registers nothing. -/
def Step.Settles (registry name : String) : Step → Prop
  | .newRegistry target _ => target = registry
  | .define target definition =>
    target = registry ∧ definition.name = name ∧ ¬ definition.Misplaced
  | .unregister target removed => target = registry ∧ removed = name
  | .clear target => target = registry
  | _ => False

namespace Session

/-- After these steps a registry holds a form under a name. -/
inductive Holds (s : Session) : List Step → (registry name : String) → CustomForm → Prop
  /-- It held the form before, and nothing has been settled since. -/
  | kept {later : List Step} {registry name : String} {form : CustomForm}
      (found : (s.registry registry).get? name = some form)
      (since : ∀ st ∈ later, ¬ st.Settles registry name) :
      Holds s later registry name form
  /-- The form was registered, and nothing has been settled since. -/
  | registered {before later : List Step} {registry : String} {definition : Definition}
      {form : CustomForm} (defined : definition.form = .ok form)
      (since : ∀ st ∈ later, ¬ st.Settles registry definition.name) :
      Holds s (before ++ .define registry definition :: later) registry definition.name form
  /-- The form came with the registry that was copied, and nothing has been settled since. -/
  | copied {before later : List Step} {registry source name : String} {form : CustomForm}
      (held : Holds s before source name form)
      (since : ∀ st ∈ later, ¬ st.Settles registry name) :
      Holds s (before ++ .newRegistry registry (some source) :: later) registry name form

variable (s : Session)

theorem after_append (before later : List Step) :
    s.after (before ++ later) = (s.after before).after later :=
  List.foldl_append

theorem registry_putRegistry_self (name : String) (r : Registry) :
    (s.putRegistry name r).registry name = r := by
  rw [registry, putRegistry, lookup_putNamed_self, Option.getD_some]

/-- A step that does not settle a name leaves it as it is. -/
theorem step_get?_of_not_settles {st : Step} {registry name : String}
    (h : ¬ st.Settles registry name) :
    ((s.step st).session.registry registry).get? name = (s.registry registry).get? name := by
  by_cases hwritten : st.written? = some registry
  · cases st with
    | newRegistry target copy =>
        exact absurd (Option.some.inj hwritten) h
    | clear target => exact absurd (Option.some.inj hwritten) h
    | unregister target removed =>
        cases hwritten
        have hne : name ≠ removed := fun heq => h ⟨rfl, heq.symm⟩
        show ((s.putRegistry registry _).registry registry).get? name = _
        rw [registry_putRegistry_self, Registry.get?_erase_of_ne hne]
    | define target definition =>
        cases hwritten
        cases hform : definition.form with
        | error err => rw [s.step_define_error registry hform]
        | ok form =>
            have hplaced : ¬ definition.Misplaced := fun hmis => by
              obtain ⟨err, herr⟩ := definition.form_error_iff.2 hmis
              rw [hform] at herr
              cases herr
            have hne : name ≠ definition.name := fun heq => h ⟨rfl, heq.symm, hplaced⟩
            rw [s.step_define_ok registry hform]
            show ((s.putRegistry registry _).registry registry).get? name = _
            rw [registry_putRegistry_self, Registry.get?_insert_of_ne hne]
    | _ => cases hwritten
  · rw [s.step_registry_of_ne hwritten]

theorem step_define_get? (registry : String) {definition : Definition} {form : CustomForm}
    (h : definition.form = .ok form) :
    ((s.step (.define registry definition)).session.registry registry).get? definition.name
      = some form := by
  rw [s.step_define_ok registry h]
  show ((s.putRegistry registry _).registry registry).get? _ = _
  rw [registry_putRegistry_self, Registry.get?_insert_self]

theorem step_unregister_get? (registry name : String) :
    ((s.step (.unregister registry name)).session.registry registry).get? name = none := by
  show ((s.putRegistry registry _).registry registry).get? _ = _
  rw [registry_putRegistry_self, Registry.get?_erase_self]

theorem step_clear_get? (registry name : String) :
    ((s.step (.clear registry)).session.registry registry).get? name = none := by
  show ((s.putRegistry registry _).registry registry).get? _ = _
  rw [registry_putRegistry_self]
  rfl

/-- A registry that is made anew holds what the one that it is copied from does, if there
is one. -/
theorem step_newRegistry_get? (registry name : String) (source : Option String) :
    ((s.step (.newRegistry registry source)).session.registry registry).get? name
      = source.bind fun source => (s.registry source).get? name := by
  show ((s.putRegistry registry _).registry registry).get? _ = _
  rw [registry_putRegistry_self]
  cases source <;> rfl

-- =============================================================== histories

theorem after_get?_of_not_settles {later : List Step} {registry name : String}
    (h : ∀ st ∈ later, ¬ st.Settles registry name) :
    ((s.after later).registry registry).get? name = (s.registry registry).get? name := by
  induction later generalizing s with
  | nil => rfl
  | cons st rest ih =>
      have hrest := ih (s.step st).session fun u hu => h u (.tail _ hu)
      exact hrest.trans (s.step_get?_of_not_settles (h st (.head _)))

/-- A registry goes on holding a form through a step that does not settle its name. -/
theorem Holds.concat {s : Session} {steps : List Step} {registry name : String}
    {form : CustomForm} (h : s.Holds steps registry name form) {st : Step}
    (hst : ¬ st.Settles registry name) : s.Holds (steps ++ [st]) registry name form := by
  have hsince {later : List Step} {name : String} (hst : ¬ st.Settles registry name)
      (hlater : ∀ u ∈ later, ¬ u.Settles registry name) :
      ∀ u ∈ later ++ [st], ¬ u.Settles registry name :=
    List.forall_mem_append.2 ⟨hlater, List.forall_mem_singleton.2 hst⟩
  cases h with
  | kept found since => exact .kept found (hsince hst since)
  | registered defined since =>
      rw [List.append_assoc, List.cons_append]
      exact .registered defined (hsince hst since)
  | copied held since =>
      rw [List.append_assoc, List.cons_append]
      exact .copied held (hsince hst since)

theorem Holds.get? {s : Session} {steps : List Step} {registry name : String}
    {form : CustomForm} (h : s.Holds steps registry name form) :
    ((s.after steps).registry registry).get? name = some form := by
  induction h with
  | kept found since => rw [s.after_get?_of_not_settles since, found]
  | @registered before later registry definition form defined since =>
      rw [after_append]
      exact (after_get?_of_not_settles _ since).trans
        ((s.after before).step_define_get? registry defined)
  | @copied before later registry source name form held since ih =>
      rw [after_append]
      refine (after_get?_of_not_settles _ since).trans ?_
      rw [step_newRegistry_get?]
      exact ih

/-- What a step settles comes from the step itself, or from the registry that it copies. -/
theorem Holds.of_step {s : Session} {steps : List Step} {st : Step} {registry name : String}
    {form : CustomForm} (hst : st.Settles registry name)
    (hsteps : ∀ source, ((s.after steps).registry source).get? name = some form →
      s.Holds steps source name form)
    (h : (((s.after steps).step st).session.registry registry).get? name = some form) :
    s.Holds (steps ++ [st]) registry name form := by
  have hnone : ∀ u ∈ ([] : List Step), ¬ u.Settles registry name := by simp
  cases st with
  | newRegistry target copy =>
      cases (hst : target = registry)
      rw [step_newRegistry_get?] at h
      obtain ⟨source, rfl, hfound⟩ := Option.bind_eq_some_iff.1 h
      exact .copied (hsteps source hfound) hnone
  | define target definition =>
      obtain ⟨rfl, rfl, hplaced⟩ := hst
      cases hform : definition.form with
      | error err => exact absurd (definition.form_error_iff.1 ⟨err, hform⟩) hplaced
      | ok defined =>
          rw [step_define_get? _ _ hform] at h
          cases h
          exact .registered hform hnone
  | unregister target removed =>
      obtain ⟨rfl, rfl⟩ := hst
      rw [step_unregister_get?] at h
      cases h
  | clear target =>
      cases (hst : target = registry)
      rw [step_clear_get?] at h
      cases h
  | _ => exact hst.elim

/-- After any steps a registry finds what the history says. -/
theorem after_get?_iff (steps : List Step) (registry name : String) (form : CustomForm) :
    ((s.after steps).registry registry).get? name = some form
      ↔ s.Holds steps registry name form := by
  refine ⟨fun h => ?_, Holds.get?⟩
  induction steps using List.reverseRecOn generalizing registry with
  | nil => exact .kept h (by simp)
  | append_singleton steps st ih =>
      rw [after_append] at h
      by_cases hst : st.Settles registry name
      · exact .of_step hst ih h
      · have hbefore := (step_get?_of_not_settles _ hst).symm.trans h
        exact (ih registry hbefore).concat hst

theorem after_contains_iff (steps : List Step) (registry name : String) :
    ((s.after steps).registry registry).contains name
      ↔ ∃ form, s.Holds steps registry name form := by
  simp only [Registry.contains_iff, s.after_get?_iff]

/-- What a definition notes: whether its name is taken. -/
theorem step_define_notes (registry : String) {definition : Definition} {form : CustomForm}
    (h : definition.form = .ok form) :
    (s.step (.define registry definition)).events.toList.map Event.message
      = [if (s.registry registry).contains definition.name
          then "Overwriting custom form " ++ definition.name
          else "Registering custom form " ++ definition.name] := by
  rw [s.step_define_ok registry h]
  show [((s.registry registry).registration definition.name).message] = _
  rw [Registry.registration]
  split <;> rfl

/-- After any steps of a session, each of its registries is the finite map that the history
makes it.

- It finds a form under a name exactly if the history says that it holds the form: the form
  was the last one registered under the name, or came with a copied snapshot, and has not
  been removed since. It contains the name, and lists it, exactly if it holds some form.
- Its names are listed in increasing order of their code points, each of them once, and its
  size is their number.
- A definition notes that it overwrites if its name is held at that moment, and that it
  registers otherwise. -/
theorem registry_finite_map (steps : List Step) (registry : String) :
    let r := (s.after steps).registry registry
    (∀ name form, r.get? name = some form ↔ s.Holds steps registry name form)
      ∧ (∀ name, r.contains name ↔ ∃ form, s.Holds steps registry name form)
      ∧ (∀ name, name ∈ r.names ↔ ∃ form, s.Holds steps registry name form)
      ∧ r.names.Pairwise (fun x y => codePoints x < codePoints y)
      ∧ r.size = r.names.length
      ∧ ∀ definition form, definition.form = .ok form →
        let noted := ((s.after steps).step (.define registry definition)).events.toList.map
          Event.message
        ((∃ held, s.Holds steps registry definition.name held) →
            noted = ["Overwriting custom form " ++ definition.name])
          ∧ ((¬ ∃ held, s.Holds steps registry definition.name held) →
            noted = ["Registering custom form " ++ definition.name]) := by
  intro r
  have hcontains := s.after_contains_iff steps registry
  refine ⟨s.after_get?_iff steps registry, hcontains, fun name => ?_, r.names_increasing,
    r.size_eq_length_names, ?_⟩
  · exact (r.mem_names_iff name).trans (hcontains name)
  · intro definition form hform noted
    have hnoted := (s.after steps).step_define_notes registry hform
    refine ⟨fun hheld => hnoted.trans ?_, fun hfree => hnoted.trans ?_⟩
    · rw [if_pos ((hcontains definition.name).2 hheld)]
    · rw [if_neg fun hheld => hfree ((hcontains definition.name).1 hheld)]

/-- A registry with two forms, of which one is replaced, is copied and cleared, and a form
is removed from the copy. -/
def rearranging : List Step :=
  [.define "forms" (.native "tally" (CustomForm.collect .vector)),
    .define "forms" (.native "gather" (CustomForm.collect .list)),
    .define "forms" (.native "tally" CustomForm.count),
    .newRegistry "copy" (some "forms"), .clear "forms", .unregister "copy" "gather"]

theorem rearranging_finite_map :
    Holds {} rearranging "copy" "tally" CustomForm.count
      ∧ (¬ ∃ form, Holds {} rearranging "copy" "gather" form)
      ∧ (¬ ∃ form, Holds {} rearranging "forms" "tally" form)
      ∧ (step (after {} rearranging)
          (.define "copy" (.native "tally" CustomForm.count))).events.toList.map Event.message
        = ["Overwriting custom form tally"]
      ∧ (step (after {} rearranging)
          (.define "copy" (.native "gather" CustomForm.count))).events.toList.map Event.message
        = ["Registering custom form gather"] := by
  obtain ⟨hfinds, hcontains, -, -, -, hnotes⟩ := registry_finite_map {} rearranging "copy"
  obtain ⟨-, hcleared, -⟩ := registry_finite_map {} rearranging "forms"
  have htally : Holds {} rearranging "copy" "tally" CustomForm.count := (hfinds _ _).1 rfl
  have hgather : ¬ ∃ form, Holds {} rearranging "copy" "gather" form := fun h => by
    have hpresent := (hcontains "gather").2 h
    cases hpresent
  have hforms : ¬ ∃ form, Holds {} rearranging "forms" "tally" form := fun h => by
    have hpresent := (hcleared "tally").2 h
    cases hpresent
  exact ⟨htally, hgather, hforms, (hnotes (.native "tally" CustomForm.count) _ rfl).1 ⟨_, htally⟩,
    (hnotes (.native "gather" CustomForm.count) _ rfl).2 hgather⟩

end Session

end FormScript
