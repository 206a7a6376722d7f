/-
Other spellings of a tree. A respelling changes the identifiers, the kinds of
containers and the stamps of identities at every place of a tree and leaves all
else alone; identifiers keep their local names, and values with different
identities stay apart. Three respellings matter: `Respelling.literals` makes every
sequence an array literal and every map an object literal,
`Respelling.unqualified` takes the namespaces away, and `Respelling.restamping`
changes the stamps and nothing else.

Nothing that is written of a tree depends on its spelling, and messages depend on
it through the texts of identifiers alone: a spelling that keeps these keeps the
text of every node (`Node.display_respell`). Failures in two spellings are
compared by `Error.Alike`.
-/
import FormScript.Layout.Children
import Mathlib.Data.List.Forall2

namespace FormScript

-- =========================================================== respellings

/-- Other ways to write identifiers, containers and identities. -/
structure Respelling where
  ident : Ident → Ident := id
  seq : SeqKind → SeqKind := id
  map : MapKind → MapKind := id
  stamp : Nat → Nat := id
  name_ident : ∀ i, (ident i).name = i.name := by exact fun _ => rfl
  stamp_inj : ∀ {j k}, stamp j = stamp k → j = k := by exact fun h => h

namespace Respelling

/-- An identity under its other stamp. -/
def identity (ρ : Respelling) (id : Identity) : Identity := { id with stamp := ρ.stamp id.stamp }

theorem identity_inj (ρ : Respelling) {i j : Identity} (h : ρ.identity i = ρ.identity j) :
    i = j := by
  obtain ⟨stamp, index⟩ := i
  obtain ⟨stamp', index'⟩ := j
  simp only [identity, Identity.mk.injEq] at h
  rw [ρ.stamp_inj h.1, h.2]

/-- Every sequence an array literal and every map an object literal. -/
def literals : Respelling where
  seq _ := .vector
  map _ := .object

/-- Every identifier without its namespace. -/
def unqualified : Respelling where
  ident i := { i with ns := none }

/-- Other stamps, and everything else as it is. -/
def restamping (stamp : Nat → Nat) (h : ∀ {j k}, stamp j = stamp k → j = k) : Respelling where
  stamp := stamp
  stamp_inj := h

/-- A respelling that shows in no text. -/
def KeepsTexts (ρ : Respelling) : Prop := ∀ i, (ρ.ident i).text = i.text

theorem literals_keepsTexts : literals.KeepsTexts := fun _ => rfl

/-- A respelling that changes nothing but stamps. -/
structure OnlyStamps (ρ : Respelling) : Prop where
  ident : ∀ i, ρ.ident i = i
  seq : ∀ k, ρ.seq k = k
  map : ∀ k, ρ.map k = k

theorem restamping_onlyStamps {stamp : Nat → Nat} (h : ∀ {j k}, stamp j = stamp k → j = k) :
    (restamping stamp h).OnlyStamps :=
  ⟨fun _ => rfl, fun _ => rfl, fun _ => rfl⟩

theorem OnlyStamps.keepsTexts {ρ : Respelling} (h : ρ.OnlyStamps) : ρ.KeepsTexts :=
  fun i => congrArg Ident.text (h.ident i)

end Respelling

mutual

/-- A tree in another spelling. -/
def Node.respell (ρ : Respelling) : Node → Node
  | .sym id => .sym (ρ.ident id)
  | .keyword id => .keyword (ρ.ident id)
  | .float id x => .float (ρ.identity id) x
  | .foreign id text => .foreign (ρ.identity id) text
  | .form items => .form (respellAll ρ items)
  | .seq kind items => .seq (ρ.seq kind) (respellAll ρ items)
  | .map kind pairs => .map (ρ.map kind) (respellPairs ρ pairs)
  | .stream id items => .stream (ρ.identity id) (respellAll ρ items)
  | n => n
termination_by structural n => n

/-- Each tree in another spelling. -/
def respellAll (ρ : Respelling) : List Node → List Node
  | [] => []
  | n :: rest => n.respell ρ :: respellAll ρ rest
termination_by structural ns => ns

/-- Each key and each value in another spelling. -/
def respellPairs (ρ : Respelling) : List (Node × Node) → List (Node × Node)
  | [] => []
  | (k, v) :: rest => (k.respell ρ, v.respell ρ) :: respellPairs ρ rest
termination_by structural ps => ps

end

theorem respellAll_eq_map (ρ : Respelling) (items : List Node) :
    respellAll ρ items = items.map (·.respell ρ) := by
  induction items with
  | nil => rfl
  | cons n rest ih => rw [respellAll, ih, List.map_cons]

theorem respellPairs_eq_map (ρ : Respelling) (pairs : List (Node × Node)) :
    respellPairs ρ pairs = pairs.map fun p => (p.1.respell ρ, p.2.respell ρ) := by
  induction pairs with
  | nil => rfl
  | cons p rest ih => rw [respellPairs, ih, List.map_cons]

namespace Node

variable {ρ : Respelling}

@[simp] theorem respell_sym (id : Ident) : (sym id).respell ρ = .sym (ρ.ident id) := rfl

@[simp] theorem respell_keyword (id : Ident) :
    (keyword id).respell ρ = .keyword (ρ.ident id) := rfl

@[simp] theorem respell_form (items : List Node) :
    (form items).respell ρ = .form (items.map (·.respell ρ)) := by
  rw [respell, respellAll_eq_map]

@[simp] theorem respell_seq (kind : SeqKind) (items : List Node) :
    (seq kind items).respell ρ = .seq (ρ.seq kind) (items.map (·.respell ρ)) := by
  rw [respell, respellAll_eq_map]

@[simp] theorem respell_map (kind : MapKind) (pairs : List (Node × Node)) :
    (map kind pairs).respell ρ
      = .map (ρ.map kind) (pairs.map fun p => (p.1.respell ρ, p.2.respell ρ)) := by
  rw [respell, respellPairs_eq_map]

@[simp] theorem respell_stream (id : Identity) (items : List Node) :
    (stream id items).respell ρ = .stream (ρ.identity id) (items.map (·.respell ρ)) := by
  rw [respell, respellAll_eq_map]

theorem children_respell (n : Node) :
    (n.respell ρ).children = n.children.map (·.respell ρ) := by
  cases n with
  | map kind pairs => simp [children, List.map_flatMap, List.flatMap_map]
  | form | seq | stream => simp [children]
  | _ => rfl

/-- A tree has a property at every place in any spelling, if the property is one
of each place in any spelling. -/
theorem every_respell {p : Node → Bool} (hp : ∀ n, p (n.respell ρ) = p n) (n : Node) :
    (n.respell ρ).every p ↔ n.every p := by
  induction n using children_induction with
  | step n ih =>
    rw [every_iff, every_iff, hp, children_respell, List.forall_mem_map]
    exact and_congr_right fun _ => forall₂_congr ih

theorem every_imp {p q : Node → Bool} (hpq : ∀ n, p n → q n) {n : Node} (h : n.every p) :
    n.every q := by
  induction n using children_induction with
  | step n ih =>
    obtain ⟨hroot, hchildren⟩ := every_iff.1 h
    exact every_iff.2 ⟨hpq n hroot, fun m hm => ih m hm (hchildren m hm)⟩

/-- A spelling in which everything is already spelt so is kept. -/
theorem respell_respell (hident : ∀ i, ρ.ident (ρ.ident i) = ρ.ident i)
    (hseq : ∀ k, ρ.seq (ρ.seq k) = ρ.seq k) (hmap : ∀ k, ρ.map (ρ.map k) = ρ.map k)
    (hstamp : ∀ k, ρ.stamp (ρ.stamp k) = ρ.stamp k) (n : Node) :
    (n.respell ρ).respell ρ = n.respell ρ := by
  induction n using children_induction with
  | step n ih =>
    cases n with
    | sym i | keyword i => simp [hident]
    | float id _ | foreign id _ => simp [respell, Respelling.identity, hstamp]
    | form items | seq kind items | stream id items =>
      simpa [hseq, children, Respelling.identity, hstamp] using ih
    | map kind pairs =>
      simp only [respell_map, hmap, List.map_map]
      congr 1
      refine List.map_congr_left fun p hpair => ?_
      have hkey := ih p.1 (List.mem_flatMap.2 ⟨p, hpair, by simp⟩)
      have hvalue := ih p.2 (List.mem_flatMap.2 ⟨p, hpair, by simp⟩)
      simp [hkey, hvalue]
    | _ => rfl

/-- The stamp of a value that is told apart from others like it. -/
def stamp? : Node → Option Nat
  | .float id _ | .foreign id _ | .stream id _ => some id.stamp
  | _ => none

/-- A tree stays as it is if all its stamps do, and nothing but stamps changes. -/
theorem respell_eq_self (hρ : ρ.OnlyStamps) {n : Node}
    (h : n.every fun m => m.stamp?.all fun j => ρ.stamp j == j) : n.respell ρ = n := by
  have hid {id : Identity} (hstamp : ρ.stamp id.stamp == id.stamp) : ρ.identity id = id :=
    congrArg ({ id with stamp := · }) (beq_iff_eq.1 hstamp)
  have hitems (items : List Node) (hall : ∀ m ∈ items, m.respell ρ = m) :
      items.map (·.respell ρ) = items :=
    (List.map_congr_left hall).trans (List.map_id _)
  induction n using children_induction with
  | step n ih =>
    obtain ⟨hroot, hbelow⟩ := every_iff.1 h
    have hchildren (m : Node) (hm : m ∈ n.children) : m.respell ρ = m := ih m hm (hbelow m hm)
    cases n with
    | sym i | keyword i => simp [hρ.ident]
    | float id _ | foreign id _ => simp only [respell, hid hroot]
    | form items => rw [respell_form, hitems items hchildren]
    | seq kind items => rw [respell_seq, hρ.seq, hitems items hchildren]
    | stream id items => rw [respell_stream, hid hroot, hitems items hchildren]
    | map kind pairs =>
      rw [respell_map, hρ.map]
      refine congrArg (map kind) ((List.map_congr_left fun p hpair => ?_).trans (List.map_id _))
      obtain ⟨hkey, hvalue⟩ := mem_children_of_mem kind hpair
      exact Prod.ext (hchildren _ hkey) (hchildren _ hvalue)
    | _ => rfl

-- what forms look at in their arguments

theorem callName?_respell (n : Node) : (n.respell ρ).callName? = n.callName? := by
  cases n with
  | form items =>
    cases items with
    | nil => rfl
    | cons head args =>
      cases head with
      | sym id => exact congrArg some (ρ.name_ident id)
      | _ => rfl
  | _ => rfl

theorem seqItems?_respell (n : Node) :
    (n.respell ρ).seqItems? = n.seqItems?.map (·.map (·.respell ρ)) := by
  cases n with
  | seq kind items => simp [seqItems?]
  | _ => rfl

theorem localName_respell (n : Node) : Layout.localName (n.respell ρ) = Layout.localName n := by
  cases n with
  | sym id | keyword id => exact ρ.name_ident id
  | _ => rfl

theorem catchClause?_respell (n : Node) :
    Layout.catchClause? (n.respell ρ) = (Layout.catchClause? n).map (·.map (·.respell ρ)) := by
  cases n with
  | form items =>
    cases items with
    | nil => rfl
    | cons head args =>
      cases head with
      | sym id =>
        simp only [respell_form, List.map_cons, respell_sym, Layout.catchClause?, ρ.name_ident]
        split <;> rfl
      | _ => rfl
  | _ => rfl

theorem finallyClause?_respell (n : Node) :
    Layout.finallyClause? (n.respell ρ)
      = (Layout.finallyClause? n).map (·.map (·.respell ρ)) := by
  cases n with
  | form items =>
    cases items with
    | nil => rfl
    | cons head args =>
      cases head with
      | sym id =>
        simp only [respell_form, List.map_cons, respell_sym, Layout.finallyClause?, ρ.name_ident]
        split <;> rfl
      | _ => rfl
  | _ => rfl

theorem isClause_respell (n : Node) : Layout.isClause (n.respell ρ) = Layout.isClause n := by
  simp only [Layout.isClause, catchClause?_respell, finallyClause?_respell, Option.isSome_map]

end Node

-- ================================================================= texts

theorem displayAll_eq_map (items : List Node) : displayAll items = items.map Node.display := by
  induction items with
  | nil => rfl
  | cons n rest ih => rw [displayAll, ih, List.map_cons]

theorem displayPairs_eq_map (pairs : List (Node × Node)) :
    displayPairs pairs = pairs.map fun p => p.1.display ++ " " ++ p.2.display := by
  induction pairs with
  | nil => rfl
  | cons p rest ih => rw [displayPairs, ih, List.map_cons]

/-- A node has the same text in every spelling that keeps the texts of identifiers. -/
theorem Node.display_respell {ρ : Respelling} (hρ : ρ.KeepsTexts) (n : Node) :
    (n.respell ρ).display = n.display := by
  induction n using children_induction with
  | step n ih =>
    cases n with
    | sym i => exact hρ i
    | keyword i => exact congrArg (":" ++ ·) (hρ i)
    | form items | seq kind items =>
      have htexts : (items.map (·.respell ρ)).map display = items.map display := by
        rw [List.map_map]
        exact List.map_congr_left ih
      simp only [respell_form, respell_seq, display, displayAll_eq_map, htexts]
    | map kind pairs =>
      have htexts : displayPairs (pairs.map fun p => (p.1.respell ρ, p.2.respell ρ))
          = displayPairs pairs := by
        rw [displayPairs_eq_map, displayPairs_eq_map, List.map_map]
        refine List.map_congr_left fun p hpair => ?_
        have hkey := ih p.1 (List.mem_flatMap.2 ⟨p, hpair, by simp⟩)
        have hvalue := ih p.2 (List.mem_flatMap.2 ⟨p, hpair, by simp⟩)
        simp only [Function.comp_apply, hkey, hvalue]
      rw [respell_map, display, display, htexts]
    | _ => rfl

theorem displayForm_respell {ρ : Respelling} (hρ : ρ.KeepsTexts) (name : String)
    (args : List Node) : displayForm name (args.map (·.respell ρ)) = displayForm name args := by
  have htexts : (args.map (·.respell ρ)).map Node.display = args.map Node.display := by
    rw [List.map_map]
    exact List.map_congr_left fun n _ => n.display_respell hρ
  simp only [displayForm, Node.display, displayAll_eq_map, List.map_cons, htexts]

theorem literalAll_eq_map (items : List Node) : literalAll items = items.map Node.literal := by
  induction items with
  | nil => rfl
  | cons n rest ih => rw [literalAll, ih, List.map_cons]

theorem literalPairs_eq_map (pairs : List (Node × Node)) :
    literalPairs pairs = pairs.map fun p => (p.1.literal, p.2.literal) := by
  induction pairs with
  | nil => rfl
  | cons p rest ih => rw [literalPairs, ih, List.map_cons]

/-- No literal shows a stamp. -/
theorem Node.literal_respell {ρ : Respelling} (hρ : ρ.OnlyStamps) (n : Node) :
    (n.respell ρ).literal = n.literal := by
  induction n using children_induction with
  | step n ih =>
    have hitems (items : List Node) (h : ∀ m ∈ items, (m.respell ρ).literal = m.literal) :
        literalAll (items.map (·.respell ρ)) = literalAll items := by
      rw [literalAll_eq_map, literalAll_eq_map, List.map_map]
      exact List.map_congr_left h
    cases n with
    | sym i => exact congrArg (identLiteral "Sym") (hρ.ident i)
    | keyword i => exact congrArg (identLiteral "Keyword") (hρ.ident i)
    | form items => rw [respell_form, literal, literal, hitems items ih]
    | seq kind items =>
      rw [respell_seq, hρ.seq]
      cases kind with
      | vector | list | tuple => rw [literal, literal, hitems items ih]
    | map kind pairs =>
      have hpairs : literalPairs (pairs.map fun p => (p.1.respell ρ, p.2.respell ρ))
          = literalPairs pairs := by
        rw [literalPairs_eq_map, literalPairs_eq_map, List.map_map]
        refine List.map_congr_left fun p hpair => ?_
        obtain ⟨hkey, hvalue⟩ := mem_children_of_mem kind hpair
        simp only [Function.comp_apply, ih p.1 hkey, ih p.2 hvalue]
      rw [respell_map, hρ.map]
      cases kind with
      | object | dictionary => rw [literal, literal, hpairs]
    | _ => rfl

/-- Raw text shows no stamp either. -/
theorem Node.rawText_respell {ρ : Respelling} (hρ : ρ.OnlyStamps) (n : Node) :
    Layout.rawText (n.respell ρ) = Layout.rawText n := by
  have hdisplay := n.display_respell hρ.keepsTexts
  have hliteral := n.literal_respell hρ
  cases n with
  | seq kind items =>
    rw [respell_seq, hρ.seq] at hdisplay hliteral ⊢
    cases kind with
    | vector => exact hdisplay
    | list | tuple => exact hliteral
  | map kind pairs =>
    rw [respell_map, hρ.map] at hdisplay hliteral ⊢
    cases kind with
    | object => exact hdisplay
    | dictionary => exact hliteral
  | sym | keyword | form => exact hdisplay
  | _ => rfl

-- ============================================================== failures

namespace Error

/-- What failures of one class have in common: mistakes have their category, and any
other failure is of a class of its own. -/
def classOf : Error → String ⊕ Error
  | .form cause => .inl cause.category
  | e => .inr e

/-- Failures of one class; where texts are `shown` alike, with one message. -/
structure Alike (shown : Prop) (e e' : Error) : Prop where
  sameClass : e.classOf = e'.classOf
  message : shown → e.message = e'.message

variable {shown : Prop} {e e' e'' : Error}

theorem alike_refl (e : Error) : Alike shown e e := ⟨rfl, fun _ => rfl⟩

/-- Failures that are both like a third one are alike. -/
theorem Alike.meet (h : Alike shown e e'') (h' : Alike shown e' e'') : Alike shown e e' where
  sameClass := h.sameClass.trans h'.sameClass.symm
  message hshown := (h.message hshown).trans (h'.message hshown).symm

theorem Alike.iterated (h : Alike shown e e') : Alike shown e.iterated e'.iterated := by
  cases e with
  | form cause =>
      cases e' with
      | form cause' => exact h
      | host | load => cases h.sameClass
  | host cause =>
      cases e' with
      | host cause' =>
          cases h.sameClass
          exact alike_refl _
      | form | load => cases h.sameClass
  | load cause =>
      cases e' with
      | load cause' => exact h
      | form | host => cases h.sameClass

end Error

/-- Both computations succeed, with results that correspond, or both fail, with
failures that do. -/
inductive Both {ε α β : Type} (E : ε → ε → Prop) (R : α → β → Prop) :
    Except ε α → Except ε β → Prop
  | ok {a : α} {b : β} (h : R a b) : Both E R (.ok a) (.ok b)
  | error {e e' : ε} (h : E e e') : Both E R (.error e) (.error e')

namespace Both

variable {ε α β γ δ : Type} {E : ε → ε → Prop} {R : α → β → Prop} {S : γ → δ → Prop}

theorem bind {x : Except ε α} {y : Except ε β} {g : α → Except ε γ} {g' : β → Except ε δ}
    (h : Both E R x y) (hg : ∀ a b, R a b → Both E S (g a) (g' b)) :
    Both E S (x >>= g) (y >>= g') := by
  cases h with
  | ok hab => exact hg _ _ hab
  | error he => exact .error he

theorem mapM {g : α → Except ε γ} {g' : β → Except ε δ} {xs : List α} {ys : List β}
    (h : List.Forall₂ (fun x y => Both E S (g x) (g' y)) xs ys) :
    Both E (List.Forall₂ S) (xs.mapM g) (ys.mapM g') := by
  induction h with
  | nil => exact .ok .nil
  | cons hx _ ih =>
      rw [List.mapM_cons, List.mapM_cons]
      exact hx.bind fun a b hab => ih.bind fun as bs habs => .ok (.cons hab habs)

end Both

end FormScript
