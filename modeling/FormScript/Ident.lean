/-
Identifiers: a local name with an optional namespace qualifier, as written
by symbols and keywords. The text of an identifier is `ns/name`, or just
`name`; `Ident.ofText` reads it back by cutting at the first slash, when
there is something on both sides of it.

Only the local name ever reaches the emitted script, and only when it is a
valid script identifier (`isIdentifier`).
-/

namespace FormScript

/-- An identifier: its local name and its namespace, if it has one. -/
structure Ident where
  name : String
  ns : Option String := none
deriving DecidableEq, Inhabited

namespace Ident

/-- The identifier written `text`: cut at the first slash when both sides of
it are nonempty, and unqualified otherwise (so `/` and `a/` are names). -/
def ofText (text : String) : Ident :=
  match text.toList.span (· != '/') with
  | (ns@(_ :: _), _ :: name@(_ :: _)) => ⟨String.ofList name, some (String.ofList ns)⟩
  | _ => ⟨text, none⟩

/-- The text of an identifier. -/
def text : Ident → String
  | ⟨name, none⟩ => name
  | ⟨name, some ns⟩ => ns ++ "/" ++ name

end Ident

-- ==================================================== script identifiers

/-- A letter of the ASCII alphabet, an underscore or a dollar sign. -/
def isIdentifierStart (c : Char) : Bool :=
  c.isAlpha || c == '_' || c == '$'

/-- An ASCII letter or digit, an underscore or a dot: dotted paths such as
`console.log` count as one identifier. -/
def isIdentifierPart (c : Char) : Bool :=
  c.isAlphanum || c == '_' || c == '.'

/-- Whether a name can be written into a script as it stands. A dollar sign
is allowed at the front only. -/
def isIdentifier (name : String) : Bool :=
  match name.toList with
  | [] => false
  | c :: rest => isIdentifierStart c && rest.all isIdentifierPart

end FormScript
