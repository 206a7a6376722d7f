/-
The texts of identifiers are read back. Whatever text an identifier is read from, it has
this text; and an identifier is read back from its text exactly if it is one that reading
gives.

# The argument

Reading looks at the first slash of a text. If there is something on both sides of it,
the text is cut there, into a namespace and a local name that are `Ident.Parted`; a text
that has no slash, or has its first one at an end, is read as a name, `Ident.Whole`. No
text is of both kinds (`Ident.not_whole_of_parted`), so the two ways of reading
(`Ident.ofText_cases`) settle everything.
-/
import FormScript.Node.Display
import Mathlib.Data.List.TakeDrop
import Mathlib.Data.List.TakeWhile

namespace FormScript.Ident

-- ================================================================= slashes

/-- A namespace and a local name that a slash keeps apart: both are nonempty, and the
namespace has no slash of its own. -/
structure Parted (ns name : String) : Prop where
  ns_nonempty : ns ≠ ""
  ns_unslashed : '/' ∉ ns.toList
  name_nonempty : name ≠ ""

/-- A text without a slash, with a slash in front, or whose first slash is its last
character. -/
def Whole (text : String) : Prop :=
  '/' ∉ text.toList ∨ text.toList.head? = some '/'
    ∨ ∃ front : String, '/' ∉ front.toList ∧ text = front ++ "/"

theorem toList_joined (ns name : String) :
    (ns ++ "/" ++ name).toList = ns.toList ++ '/' :: name.toList := by
  rw [String.toList_append, String.toList_append, List.append_assoc]
  rfl

theorem forall_bne_slash {chars : List Char} (h : '/' ∉ chars) : ∀ c ∈ chars, (c != '/') = true :=
  fun _ hc => bne_iff_ne.2 fun heq => h (heq ▸ hc)

theorem span_unslashed {chars : List Char} (h : '/' ∉ chars) :
    chars.span (· != '/') = (chars, []) := by
  have hplain := forall_bne_slash h
  rw [List.span_eq_takeWhile_dropWhile, List.takeWhile_eq_self_iff.2 hplain,
    List.dropWhile_eq_nil_iff.2 hplain]

theorem span_slash {front : List Char} (h : '/' ∉ front) (back : List Char) :
    (front ++ '/' :: back).span (· != '/') = (front, '/' :: back) := by
  have hplain := forall_bne_slash h
  rw [List.span_eq_takeWhile_dropWhile, List.takeWhile_append_of_pos hplain,
    List.dropWhile_append_of_pos hplain]
  simp

/-- A text is cut at its first slash in one way. -/
theorem eq_of_first_slash {front front' back back' : List Char} (hfront : '/' ∉ front)
    (hfront' : '/' ∉ front') (h : front ++ '/' :: back = front' ++ '/' :: back') :
    front = front' ∧ back = back' := by
  have hspans := congrArg (List.span (· != '/')) h
  rw [span_slash hfront, span_slash hfront'] at hspans
  obtain ⟨hfronts, hbacks⟩ := Prod.mk.inj hspans
  exact ⟨hfronts, List.tail_eq_of_cons_eq hbacks⟩

theorem not_whole_of_parted {ns name : String} (h : Parted ns name) :
    ¬ Whole (ns ++ "/" ++ name) := by
  unfold Whole
  rw [toList_joined]
  rintro (hnone | hfirst | ⟨front, hfront, heq⟩)
  · exact hnone (List.mem_append_right _ (.head _))
  · -- the first character is one of the namespace, which has no slash
    cases hns : ns.toList with
    | nil => exact h.ns_nonempty (String.toList_eq_nil_iff.1 hns)
    | cons c cs =>
        rw [hns] at hfirst
        have hslash : '/' ∈ ns.toList := by
          rw [hns, ← Option.some.inj hfirst]
          exact .head _
        exact h.ns_unslashed hslash
  · have hchars : ns.toList ++ '/' :: name.toList = front.toList ++ '/' :: [] := by
      rw [← toList_joined, heq, String.toList_append]
      rfl
    have hname := (eq_of_first_slash h.ns_unslashed hfront hchars).2
    exact h.name_nonempty (String.toList_eq_nil_iff.1 hname)

-- ================================================================= reading

/-- A text is read as a name, or cut into a namespace and a name. -/
theorem ofText_cases (text : String) :
    (Whole text ∧ ofText text = ⟨text, none⟩)
      ∨ ∃ ns name, Parted ns name ∧ text = ns ++ "/" ++ name
        ∧ ofText text = ⟨name, some ns⟩ := by
  by_cases hslash : '/' ∈ text.toList
  · obtain ⟨front, back, hchars, hfront⟩ := List.eq_append_cons_of_mem hslash
    have hspan := span_slash hfront back
    rcases front with _ | ⟨c, cs⟩
    · refine .inl ⟨.inr (.inl ?_), ?_⟩
      · rw [hchars]
        rfl
      · rw [ofText, hchars, hspan]
    · rcases back with _ | ⟨d, ds⟩
      · refine .inl ⟨.inr (.inr ⟨String.ofList (c :: cs), ?_, ?_⟩), ?_⟩
        · rwa [String.toList_ofList]
        · rw [← String.toList_inj, hchars, String.toList_append, String.toList_ofList]
          rfl
        · rw [ofText, hchars, hspan]
      · refine .inr ⟨String.ofList (c :: cs), String.ofList (d :: ds), ⟨?_, ?_, ?_⟩, ?_, ?_⟩
        · exact fun heq => List.cons_ne_nil c cs (String.ofList_eq_empty_iff.1 heq)
        · rwa [String.toList_ofList]
        · exact fun heq => List.cons_ne_nil d ds (String.ofList_eq_empty_iff.1 heq)
        · rw [← String.toList_inj, toList_joined, String.toList_ofList, String.toList_ofList,
            hchars]
        · rw [ofText, hchars, hspan]
  · refine .inl ⟨.inl hslash, ?_⟩
    rw [ofText, span_unslashed hslash]
    cases text.toList <;> rfl

theorem text_ofText (text : String) : (ofText text).text = text := by
  rcases ofText_cases text with ⟨-, hread⟩ | ⟨ns, name, -, htext, hread⟩
  · rw [hread]
    rfl
  · rw [hread, htext]
    rfl

/-- An identifier without a namespace is read back if its name is whole. -/
theorem ofText_name_iff {name : String} : ofText name = ⟨name, none⟩ ↔ Whole name := by
  constructor
  · intro hread
    rcases ofText_cases name with ⟨hwhole, -⟩ | ⟨ns, rest, -, -, hcut⟩
    · exact hwhole
    · rw [hread] at hcut
      cases hcut
  · intro hwhole
    rcases ofText_cases name with ⟨-, hread⟩ | ⟨ns, rest, hparted, htext, -⟩
    · exact hread
    · exact absurd (htext ▸ hwhole) (not_whole_of_parted hparted)

/-- An identifier with a namespace is read back if the slash keeps the two apart. -/
theorem ofText_joined_iff {ns name : String} :
    ofText (ns ++ "/" ++ name) = ⟨name, some ns⟩ ↔ Parted ns name := by
  constructor
  · intro hread
    rcases ofText_cases (ns ++ "/" ++ name) with ⟨-, hname⟩ | ⟨ns', name', hparted, -, hcut⟩
    · rw [hread] at hname
      cases congrArg Ident.ns hname
    · rw [hread] at hcut
      cases hcut
      exact hparted
  · intro hparted
    rcases ofText_cases (ns ++ "/" ++ name) with ⟨hwhole, -⟩ | ⟨ns', name', hcut, htext, hread⟩
    · exact absurd hwhole (not_whole_of_parted hparted)
    · have hchars : ns.toList ++ '/' :: name.toList = ns'.toList ++ '/' :: name'.toList := by
        rw [← toList_joined, ← toList_joined, htext]
      obtain ⟨hns, hname⟩ := eq_of_first_slash hparted.ns_unslashed hcut.ns_unslashed hchars
      rw [hread, String.toList_inj.1 hns, String.toList_inj.1 hname]

-- ============================================================== round trips

theorem ofText_text_iff (id : Ident) :
    ofText id.text = id ↔
      (∃ ns, id.ns = some ns ∧ Parted ns id.name) ∨ (id.ns = none ∧ Whole id.name) := by
  obtain ⟨name, ns⟩ := id
  cases ns with
  | none =>
      refine ofText_name_iff.trans ⟨fun hwhole => .inr ⟨rfl, hwhole⟩, ?_⟩
      rintro (⟨ns, hns, -⟩ | ⟨-, hwhole⟩)
      · cases hns
      · exact hwhole
  | some ns =>
      refine ofText_joined_iff.trans ⟨fun hparted => .inl ⟨ns, rfl, hparted⟩, ?_⟩
      rintro (⟨ns', hns, hparted⟩ | ⟨hns, -⟩)
      · cases hns
        exact hparted
      · cases hns

/-- The texts of symbols and keywords are read back.

- A symbol that is read from a text has this text, and a keyword has it after a colon.
  There is no namespace, or it is kept apart from the local name.
- A symbol is read back from its own text exactly if its namespace is kept apart from
  its name, or it has none and its name is whole. -/
theorem symbol_text_round_trip :
    (∀ text : String,
      (Node.symbol text).plain = text
        ∧ (Node.keyword (ofText text)).plain = ":" ++ text
        ∧ ((ofText text).ns = none
          ∨ ∃ ns, (ofText text).ns = some ns ∧ Parted ns (ofText text).name))
      ∧ ∀ id : Ident, Node.symbol (Node.sym id).plain = .sym id ↔
        (∃ ns, id.ns = some ns ∧ Parted ns id.name) ∨ (id.ns = none ∧ Whole id.name) := by
  refine ⟨fun text => ⟨text_ofText text, congrArg (":" ++ ·) (text_ofText text), ?_⟩, fun id => ?_⟩
  · rcases ofText_cases text with ⟨-, hread⟩ | ⟨ns, name, hparted, -, hread⟩
    · rw [hread]
      exact .inl rfl
    · rw [hread]
      exact .inr ⟨ns, rfl, hparted⟩
  · have hsame : Node.symbol (Node.sym id).plain = .sym id ↔ ofText id.text = id :=
      ⟨Node.sym.inj, congrArg Node.sym⟩
    exact hsame.trans (ofText_text_iff id)

/-- The first slash alone decides, also where a slash is the name. -/
example : ["core//", "a/b/c", "/", "//", "a/", "/a"].map ofText
    = [⟨"/", some "core"⟩, ⟨"b/c", some "a"⟩, ⟨"/", none⟩, ⟨"//", none⟩, ⟨"a/", none⟩,
      ⟨"/a", none⟩] := by decide

end FormScript.Ident
