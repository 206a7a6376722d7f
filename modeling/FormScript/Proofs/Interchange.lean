/-
What does not show in a text. Two differences between trees never do:

- of which kind the containers are. Lists and tuples may stand for array literals
  and dictionaries for object literals, at every depth, and this does not even show
  in a message (`Emitter.emit_literals_matches`);
- in which namespace the identifiers are. Namespaces show in messages, but neither
  in a text nor in the class of a failure, also if template forms are expanded on
  the way (`Emitter.emit_matches_of_unqualified`).

Both leave aside raw text, which is made of the texts of nodes as they are spelt,
and streams, which are taken from by identity. Template forms are for trees without
dictionaries, in which equal keys collapse.
-/
import FormScript.Proofs.Filling

namespace FormScript

namespace Emitter

-- ============================================================ containers

/-- Without custom forms, a tree is emitted like the tree in which every container
is a literal: with the same text, or with the same error and message, and with the
same effects. Nor do the texts of the two trees differ. -/
theorem emit_literals_matches (config : Config) {n : Node} (hn : n.every Node.isRegular) :
    EmitM.Matches (fun err err' => err.classOf = err'.classOf ∧ err.message = err'.message)
        (emit { config } n) (emit { config } (n.respell .literals))
      ∧ (n.respell .literals).display = n.display := by
  have hregular (m : Node) : (m.respell .literals).isRegular = m.isRegular := by
    cases m <;> rfl
  have hvariants : n.Variants .literals Node.isRegular (n.respell .literals) :=
    { spelling := (Node.respell_respell (fun _ => rfl) (fun _ => rfl) (fun _ => rfl)
        (fun _ => rfl) n).symm
      left := hn
      right := (Node.every_respell hregular n).2 hn }
  have hmatches : EmitM.Matches (Error.Alike True) (emit { config } n)
      (emit { config } (n.respell .literals)) :=
    emitAt_matches (fun _ => Respelling.literals_keepsTexts) (fun _ h => h) rfl
      (fun _ _ h => by cases h) _ hvariants
  refine ⟨hmatches.imp fun err err' h => ⟨h.sameClass, h.message trivial⟩, ?_⟩
  exact n.display_respell Respelling.literals_keepsTexts

/-- A function with a list of parameters that returns a dictionary of a tuple. -/
def hostFunction : Node :=
  let sym (name : String) : Node := .sym ⟨name, none⟩
  .form [sym "fn", .seq .list [sym "a"],
    .form [sym "return", .map .dictionary [(.str "k", .seq .tuple [.int 1, sym "a"])]]]

/-- Its text. -/
def hostFunctionText : String := "function (a) \x7b\nreturn \x7b\"k\": [1, a]\x7d;\n \x7d"

theorem hostFunction_literals :
    hostFunction.every Node.isRegular
      ∧ emit {} hostFunction {} = .ok hostFunctionText {}
      ∧ emit {} (hostFunction.respell .literals) {} = .ok hostFunctionText {} := by
  have hregular : hostFunction.every Node.isRegular := rfl
  have htext : emit {} hostFunction {} = .ok hostFunctionText {} := rfl
  exact ⟨hregular, htext, (emit_literals_matches {} hregular).1.ok htext⟩

-- ============================================================ namespaces

/-- Trees that are the same but for the namespaces of identifiers are emitted alike
under template forms: with the same text or with failures of one class, and with the
same effects. -/
theorem emit_matches_of_unqualified {e : Emitter}
    (hforms : ∀ name form, e.forms.get? name = some form → form.IsTemplate Node.isUnkeyed)
    {n n' : Node} (hsame : n.respell .unqualified = n'.respell .unqualified)
    (hn : n.every Node.isUnkeyed) (hn' : n'.every Node.isUnkeyed) :
    EmitM.Matches (fun err err' => err.classOf = err'.classOf) (e.emit n) (e.emit n') := by
  have hregular (m : Node) (h : m.isUnkeyed) : m.isRegular := by
    unfold Node.isUnkeyed at h
    split at h
    · cases h
    · exact h
  have hmatches : EmitM.Matches (Error.Alike False) (e.emit n) (e.emit n') :=
    emitAt_matches False.elim hregular rfl
      (fun name form hform => (hforms name form hform).respects) _ ⟨hsame, hn, hn'⟩
  exact hmatches.imp fun err err' h => h.sameClass

/-- The body of a template that declares a name as the value of a call. -/
def bindingBody : Node :=
  .form [.sym ⟨"var", none⟩, .hole ⟨some "name", false⟩,
    .form [.hole ⟨some "f", false⟩, .hole ⟨some "args", true⟩]]

/-- The form of this template. -/
def binding : CustomForm where
  expand _ args := CustomForm.expandTemplate "bind" ⟨["name", "f"], some "args"⟩ bindingBody args
  origin := CustomForm.templateOrigin

/-- An emitter with this form. -/
def bindingEmitter : Emitter where
  forms := Registry.empty.insert "bind" binding

/-- A call of it, with all identifiers in one namespace or in none. -/
def boundCall (ns : Option String) : Node :=
  .form [.sym ⟨"bind", ns⟩, .sym ⟨"x", ns⟩, .sym ⟨"f", ns⟩, .int 1,
    .form [.sym ⟨"fn", ns⟩, .seq .list [.sym ⟨"y", ns⟩],
      .map .object [(.keyword ⟨"k", ns⟩, .sym ⟨"y", ns⟩)]]]

/-- The text of such a call, whichever it is. -/
def boundCallText : String := "x = f(1, function (y) \x7b\n\x7bk: y\x7d;\n \x7d);\n"

theorem boundCall_unqualified :
    (∀ name form, bindingEmitter.forms.get? name = some form → form.IsTemplate Node.isUnkeyed)
      ∧ (boundCall (some "lib")).respell .unqualified = (boundCall none).respell .unqualified
      ∧ ∃ s, s.scope = some { names := ["x"] }
        ∧ bindingEmitter.emit (boundCall (some "lib")) { scope := some {} } = .ok boundCallText s
        ∧ bindingEmitter.emit (boundCall none) { scope := some {} } = .ok boundCallText s := by
  have hforms : ∀ name form, bindingEmitter.forms.get? name = some form →
      form.IsTemplate Node.isUnkeyed := by
    intro name form hform
    rw [Registry.eq_of_get?_single hform]
    exact ⟨"bind", ["name", "f", restMarker, "args"], bindingBody, "", rfl, rfl⟩
  have htext : bindingEmitter.emit (boundCall (some "lib")) { scope := some {} }
      = .ok boundCallText
          { scope := some { names := ["x"] }
            streams := { nextStamp := 1 }
            events := #[.expanding "bind"] } := rfl
  have hsame : (boundCall (some "lib")).respell .unqualified
      = (boundCall none).respell .unqualified := rfl
  have hleft : (boundCall (some "lib")).every Node.isUnkeyed := rfl
  have hright : (boundCall none).every Node.isUnkeyed := rfl
  exact ⟨hforms, hsame, _, rfl, htext,
    (emit_matches_of_unqualified hforms hsame hleft hright).ok htext⟩

end Emitter

end FormScript
