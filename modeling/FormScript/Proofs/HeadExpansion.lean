/-
Head expansion beside emission. `Registry.expandOnce` expands the head of a
node without writing it, and an emitter expands the heads that it meets; both
look the head up in a registry. This file says where the two agree.

- They agree on what a call of a custom form is, except for heads that name
  a method: there an emitter writes a method call, and head expansion calls
  the registered form (`Emitter.expandOnce_agrees_iff`).
- They do not agree on callees. A function literal is called in
  parentheses where it is written, and without them where a custom form
  expands to it, since the parentheses are put before any expansion is made
  (`Emitter.emitAt_call_expansion`).
-/
import FormScript.Proofs.Cutoff
import FormScript.Proofs.Transparency

namespace FormScript

-- ================================================================== heads

namespace Registry

variable {r : Registry} {n : Node}

/-- Head expansion calls the form that is registered under the head. -/
theorem call?_eq_some_iff {form : CustomForm} {args : List Node} :
    r.call? n = some (form, args) ↔
      ∃ id, n = .form (.sym id :: args) ∧ r.get? id.name = some form := by
  constructor
  · intro h
    unfold call? Node.call? at h
    split at h
    · rename_i name args' hcall
      split at hcall
      · rename_i id args''
        cases hcall
        obtain ⟨form', hget, hpair⟩ := Option.map_eq_some_iff.1 h
        cases hpair
        exact ⟨id, rfl, hget⟩
      · cases hcall
    · cases h
  · rintro ⟨id, rfl, hget⟩
    show (r.get? id.name).map (·, args) = _
    rw [hget]
    rfl

/-- An emitter calls the same form with the same arguments, unless the head
names a method. -/
theorem customCall?_eq_some_iff {name : String} {form : CustomForm}
    {args : List Node} :
    r.customCall? n = some ⟨name, form, args⟩ ↔
      n.callName? = some name ∧ methodName? name = none
        ∧ r.call? n = some (form, args) := by
  constructor
  · intro h
    obtain ⟨id, rfl, hmethod, hget⟩ := customCall?_eq_some h
    rw [customCall?_call hmethod hget] at h
    cases h
    exact ⟨rfl, hmethod, call?_eq_some_iff.2 ⟨id, rfl, hget⟩⟩
  · rintro ⟨hname, hmethod, hcall⟩
    obtain ⟨id, rfl, hget⟩ := call?_eq_some_iff.1 hcall
    obtain rfl : id.name = name := Option.some.inj hname
    exact customCall?_call hmethod hget args

/-- A registered form that no emission calls: it stands at the head of the
node, but under the name of a method. -/
def Shadowed (r : Registry) (n : Node) : Prop :=
  ∃ id args, n = .form (.sym id :: args) ∧ (methodName? id.name).isSome
    ∧ r.contains id.name

/-- Where a form is shadowed, head expansion calls it and an emitter does
not. -/
theorem Shadowed.exists_call (h : r.Shadowed n) :
    ∃ form args, r.call? n = some (form, args) ∧ r.customCall? n = none := by
  obtain ⟨id, args, rfl, hsome, hcontains⟩ := h
  obtain ⟨form, hget⟩ := Option.isSome_iff_exists.1 hcontains
  obtain ⟨method, hmethod⟩ := Option.isSome_iff_exists.1 hsome
  refine ⟨form, args, call?_eq_some_iff.2 ⟨id, rfl, hget⟩, ?_⟩
  simp only [customCall?, hmethod]

/-- Both take a node for a call of the same form with the same arguments,
or for no call, exactly where no form is shadowed. -/
theorem call?_agrees_iff :
    (∀ form args, r.call? n = some (form, args) ↔
        ∃ name, r.customCall? n = some ⟨name, form, args⟩)
      ↔ ¬ r.Shadowed n := by
  constructor
  · intro hagree hshadowed
    obtain ⟨form, args, hcall, hnone⟩ := hshadowed.exists_call
    obtain ⟨name, hsome⟩ := (hagree form args).1 hcall
    rw [hnone] at hsome
    cases hsome
  · intro hshadowed form args
    constructor
    · intro hcall
      obtain ⟨id, rfl, hget⟩ := call?_eq_some_iff.1 hcall
      have hmethod : methodName? id.name = none := by
        by_contra hsome
        refine hshadowed ⟨id, args, rfl, Option.isSome_iff_ne_none.2 hsome, ?_⟩
        rw [contains, hget]
        rfl
      exact ⟨id.name, customCall?_call hmethod hget args⟩
    · rintro ⟨name, hcustom⟩
      exact (customCall?_eq_some_iff.1 hcustom).2.2

end Registry

namespace Emitter

/-- Head expansion and emission with a level left call the same form with
the same arguments, exactly unless a method shadows a form. What an emitter
calls, head expansion calls as well; a shadowed form is called by head
expansion, while the emitter writes the node as it stands. -/
theorem expandOnce_agrees_iff (e : Emitter) (hlimit : 1 ≤ e.config.limit)
    (n : Node) :
    ((∀ form args, e.forms.call? n = some (form, args) ↔
          ∃ name, e.forms.customCall? n = some ⟨name, form, args⟩)
        ↔ ¬ e.forms.Shadowed n)
      ∧ (∀ call, e.forms.customCall? n = some call →
          (∀ stamp, e.forms.expandOnce stamp n = call.form.expand stamp call.args)
            ∧ e.emit n = call.expandWith (e.emitAt (e.config.limit.toNat - 1)))
      ∧ (e.forms.Shadowed n → ∃ form args,
          e.forms.call? n = some (form, args)
            ∧ (∀ stamp, e.forms.expandOnce stamp n = form.expand stamp args)
            ∧ e.emit n = n.layout.run e.config.dedupe e.emit) := by
  refine ⟨Registry.call?_agrees_iff, fun call hcustom => ⟨fun stamp => ?_, ?_⟩,
    fun hshadowed => ?_⟩
  · obtain ⟨id, rfl, -, hget⟩ := Registry.customCall?_eq_some hcustom
    exact Registry.expandOnce_call hget stamp
  · have hlevels : e.config.limit.toNat = e.config.limit.toNat - 1 + 1 := by omega
    rw [emit, hlevels]
    exact e.emitAt_succ_custom hcustom
  · obtain ⟨form, args, hcall, hnone⟩ := hshadowed.exists_call
    refine ⟨form, args, hcall, fun stamp => ?_, e.emitAt_of_not_custom hnone⟩
    rw [Registry.expandOnce, hcall]

/-- An emitter with a form under the name of a method, which collects its
arguments. -/
def pushing : Emitter where
  forms := Registry.empty.insert ".push" (CustomForm.collect .vector)

/-- A call of that method. -/
def pushCall : Node := .form [.sym ⟨".push", none⟩, .sym ⟨"a", none⟩]

theorem pushCall_shadowed :
    pushing.forms.Shadowed pushCall
      ∧ ¬ ∀ form args, pushing.forms.call? pushCall = some (form, args) ↔
          ∃ name, pushing.forms.customCall? pushCall = some ⟨name, form, args⟩ := by
  have hshadowed : pushing.forms.Shadowed pushCall :=
    ⟨⟨".push", none⟩, [.sym ⟨"a", none⟩], rfl, rfl, rfl⟩
  have hlimit : 1 ≤ pushing.config.limit := by decide
  exact ⟨hshadowed, fun hagree =>
    (expandOnce_agrees_iff pushing hlimit pushCall).1.1 hagree hshadowed⟩

/-- Head expansion calls the registered form, and emission writes the call of
a method. -/
theorem pushCall_disagrees :
    pushing.forms.expandOnce 0 pushCall = .ok (.seq .vector [.sym ⟨"a", none⟩])
      ∧ pushing.emit pushCall {} = .ok "a.push()" {} :=
  ⟨rfl, rfl⟩

end Emitter

-- ================================================================ callees

/-- The two ways to call a form: at the head of the call, and after
`funcall`. -/
inductive CallStyle where
  | direct
  | named (ns : Option String)

namespace CallStyle

/-- The call of a node in this style. -/
def call : CallStyle → Node → List Node → Node
  | direct, f, args => .form (f :: args)
  | named ns, f, args => .form (.sym ⟨"funcall", ns⟩ :: f :: args)

/-- Whether calls in this style are plain ones: no custom form has taken the
place of `funcall`. -/
def Plain (forms : Registry) : CallStyle → Prop
  | direct => True
  | named _ => forms.get? "funcall" = none

variable {style : CallStyle} {forms : Registry}

theorem customCall?_call (h : style.Plain forms) (items args : List Node) :
    forms.customCall? (style.call (.form items) args) = none := by
  cases style with
  | direct => rfl
  | named ns =>
      have hmethod : methodName? "funcall" = none := by decide
      have hget : forms.get? "funcall" = none := h
      simp only [call, Registry.customCall?, hmethod, hget, Option.map_none]

theorem layout_call (items args : List Node) :
    (style.call (.form items) args).layout = Layout.call (.form items) args := by
  cases style with
  | direct => rfl
  | named ns =>
      have hmethod : methodName? "funcall" = none := by decide
      show Layout.symbolForm ⟨"funcall", ns⟩ (.form items :: args) = _
      simp only [Layout.symbolForm, hmethod]
      rfl

end CallStyle

/-- A layout between two fixed texts succeeds when the layout does. -/
theorem Layout.run_between_ok_iff {dedupe : Bool} {write : Node → EmitM String}
    {l : Layout} {opening closing t : String} {r r' : Run} :
    (seq [.text opening, l, .text closing]).run dedupe write r = .ok t r' ↔
      ∃ x, l.run dedupe write r = .ok x r' ∧ opening ++ x ++ closing = t := by
  show (append (.text opening) (append l (.text closing))).run _ _ r = _ ↔ _
  rw [run_append_ok_iff]
  constructor
  · rintro ⟨x, s, y, hopening, hy, rfl⟩
    cases hopening
    obtain ⟨z, s', w, hz, hclosing, rfl⟩ := run_append_ok_iff.1 hy
    cases hclosing
    exact ⟨z, hz, String.append_assoc⟩
  · rintro ⟨x, hx, rfl⟩
    exact ⟨opening, r, x ++ closing, rfl,
      run_append_ok_iff.2 ⟨x, r', closing, hx, rfl, rfl⟩, String.append_assoc.symm⟩

/-- A run in which an expansion has been noted and its stamp used up. -/
def Run.expanded (r : Run) (name : String) : Run :=
  { r with
    streams := r.streams.useStamp
    events := r.events.push (.expanding name) }

namespace Emitter

variable {e : Emitter} {style : CallStyle} {levels : Nat} {items args : List Node}
  {r r' : Run} {t : String}

/-- The call of a form is written as the form and the arguments. The form is
put in parentheses if it is a function literal as it stands. -/
theorem emitAt_call_ok_iff (hstyle : style.Plain e.forms) :
    e.emitAt levels (style.call (.form items) args) r = .ok t r' ↔
      ∃ f s a, e.emitAt levels (.form items) r = .ok f s
        ∧ (Layout.arguments args).run e.config.dedupe (e.emitAt levels) s = .ok a r'
        ∧ (if (Node.form items).callName? = some "fn" then "(" ++ f ++ ")" else f) ++ a
            = t := by
  rw [e.emitAt_of_not_custom (CallStyle.customCall?_call hstyle items args),
    CallStyle.layout_call]
  show (Layout.append (.callee (.form items)) (.arguments args)).run _ _ r = _ ↔ _
  rw [Layout.run_append_ok_iff, Layout.callee]
  split
  · constructor
    · rintro ⟨x, s, a, hx, ha, rfl⟩
      obtain ⟨f, hf, rfl⟩ := Layout.run_between_ok_iff.1 hx
      exact ⟨f, s, a, hf, ha, rfl⟩
    · rintro ⟨f, s, a, hf, ha, rfl⟩
      exact ⟨_, s, a, Layout.run_between_ok_iff.2 ⟨f, hf, rfl⟩, ha, rfl⟩
  · exact Iff.rfl

/-- A function literal that a custom form expands to is called without
parentheses, although the same literal is called in parentheses where it is
written. So if a call succeeds whose callee expands to a function literal,
then the call of that literal succeeds from where the expansion has been
made, with the same effects and with two more characters. -/
theorem emitAt_call_expansion (hstyle : style.Plain e.forms)
    (hfn : e.forms.get? "fn" = none) {id : Ident}
    (hmethod : methodName? id.name = none) (hhead : e.forms.contains id.name)
    {ns : Option String}
    (hm : e.forms.expandOnce r.streams.nextStamp (.form (.sym id :: args))
      = .ok (.form (.sym ⟨"fn", ns⟩ :: items)))
    {xs : List Node}
    (h : e.emitAt levels (style.call (.form (.sym id :: args)) xs) r = .ok t r') :
    ∃ f s a,
      e.emitAt levels (.form (.sym ⟨"fn", ns⟩ :: items)) (r.expanded id.name)
          = .ok f s
        ∧ (Layout.arguments xs).run e.config.dedupe (e.emitAt levels) s = .ok a r'
        ∧ t = f ++ a
        ∧ e.emitAt levels (style.call (.form (.sym ⟨"fn", ns⟩ :: items)) xs)
              (r.expanded id.name)
            = .ok ("(" ++ f ++ ")" ++ a) r'
        ∧ t ≠ "(" ++ f ++ ")" ++ a := by
  obtain ⟨form, hform⟩ := Option.isSome_iff_exists.1 hhead
  rw [Registry.expandOnce_call hform] at hm
  have hname : (Node.form (.sym id :: args)).callName? ≠ some "fn" := by
    intro heq
    have hid : id.name = "fn" := Option.some.inj heq
    rw [hid, hfn] at hform
    cases hform
  obtain ⟨f, s, a, hf, ha, ht⟩ := (emitAt_call_ok_iff hstyle).1 h
  rw [if_neg hname] at ht
  subst ht
  -- the callee uses up one level, and its expansion needs no more than that
  have hliteral : e.emitAt levels (.form (.sym ⟨"fn", ns⟩ :: items))
      (r.expanded id.name) = .ok f s := by
    have hcall := Registry.customCall?_call hmethod hform args
    cases levels with
    | zero =>
        rw [e.emitAt_zero_custom hcall] at hf
        cases hf
    | succ levels =>
        rw [e.emitAt_succ_custom hcall] at hf
        obtain ⟨m, hexpand, hwritten⟩ := Call.expandWith_ok_iff.1 hf
        rw [hm] at hexpand
        cases hexpand
        exact e.emitAt_ok_of_le (Nat.le_succ levels) hwritten
  refine ⟨f, s, a, hliteral, ha, rfl, ?_, fun heq => ?_⟩
  · exact (emitAt_call_ok_iff hstyle).2 ⟨f, s, a, hliteral, ha, rfl⟩
  · have hlength := congrArg String.length heq
    have hparen : "(".length = 1 := rfl
    simp only [String.length_append] at hlength
    omega

/-- A function that returns its argument. -/
def identityFunction : Node :=
  .form [.sym ⟨"fn", none⟩, .seq .vector [.sym ⟨"x", none⟩],
    .form [.sym ⟨"return", none⟩, .sym ⟨"x", none⟩]]

/-- An emitter with a form that expands to this function. -/
def functionMaking : Emitter where
  forms := Registry.empty.insert "make"
    (CustomForm.constant fun _ => .ok identityFunction)

/-- Called through `funcall`, where it is made it has no parentheses. -/
theorem identityFunction_unparenthesised :
    ∃ f s a,
      functionMaking.emitAt 1 identityFunction (Run.expanded {} "make") = .ok f s
        ∧ (Layout.arguments [.int 1]).run true (functionMaking.emitAt 1) s
            = .ok a (Run.expanded {} "make")
        ∧ "function (x) \x7b\nreturn x;\n \x7d(1)" = f ++ a
        ∧ functionMaking.emitAt 1
              (.form [.sym ⟨"funcall", none⟩, identityFunction, .int 1])
              (Run.expanded {} "make")
            = .ok ("(" ++ f ++ ")" ++ a) (Run.expanded {} "make")
        ∧ "function (x) \x7b\nreturn x;\n \x7d(1)" ≠ "(" ++ f ++ ")" ++ a := by
  have h : functionMaking.emitAt 1
      (.form [.sym ⟨"funcall", none⟩, .form [.sym ⟨"make", none⟩], .int 1]) {}
      = .ok "function (x) \x7b\nreturn x;\n \x7d(1)" (Run.expanded {} "make") := rfl
  have hplain : (CallStyle.named none).Plain functionMaking.forms := rfl
  have hm : functionMaking.forms.expandOnce 0 (.form [.sym ⟨"make", none⟩])
      = .ok identityFunction := rfl
  exact emitAt_call_expansion hplain rfl rfl rfl hm h

/-- A function is called without parentheses where it is made, and in
parentheses where it is written. -/
theorem identityFunction_call_disagrees :
    functionMaking.emit (.form [.form [.sym ⟨"make", none⟩], .int 1]) {}
        = .ok "function (x) \x7b\nreturn x;\n \x7d(1)" (Run.expanded {} "make")
      ∧ functionMaking.emit (.form [identityFunction, .int 1]) {}
        = .ok "(function (x) \x7b\nreturn x;\n \x7d)(1)" {} :=
  ⟨rfl, rfl⟩

end Emitter

end FormScript
