/-
How a tree is written in another spelling. Two layouts are twins if they have one
shape, their texts and declarations are the same, and their children and failures
correspond. The layouts of a node and of the node in another spelling are twins:
each child stands beside the child respelt, and each failure beside one that is
alike (`Node.layout_respelt`). Every piece of a layout has its lemma.

Raw text shows how values are spelt, so it is left out unless the respelling changes
nothing but stamps.
-/
import FormScript.Proofs.Respelling
import Mathlib.Data.List.Forall2

namespace FormScript

-- ================================================================= twins

/-- Layouts of one shape, with children, identities and failures that correspond,
each by a relation of their own. -/
inductive Layout.Twin (R : Node → Node → Prop) (I : Identity → Identity → Prop)
    (E : Error → Error → Prop) : Layout → Layout → Prop
  | text (s : String) : Twin R I E (.text s) (.text s)
  | node {n n' : Node} (h : R n n') : Twin R I E (.node n) (.node n')
  | item {n n' : Node} (h : R n n') : Twin R I E (.item n) (.item n')
  | fail {e e' : Error} (h : E e e') : Twin R I E (.fail e) (.fail e')
  | append {a a' b b' : Layout} (first : Twin R I E a a') (second : Twin R I E b b') :
      Twin R I E (.append a b) (.append a' b')
  | late {a a' b b' : Layout} (front : Twin R I E a a') (back : Twin R I E b b') :
      Twin R I E (.late a b) (.late a' b')
  | twice {a a' : Layout} (part : Twin R I E a a') (between : String) :
      Twin R I E (.twice a between) (.twice a' between)
  | statement {a a' : Layout} (part : Twin R I E a a') :
      Twin R I E (.statement a) (.statement a')
  | declare (names : List String) : Twin R I E (.declare names) (.declare names)
  | inline (s : String) : Twin R I E (.inline s) (.inline s)
  | enclosed {a a' : Layout} (part : Twin R I E a a') : Twin R I E (.enclosed a) (.enclosed a')
  | stream {id id' : Identity} {items items' : List Node} (h : I id id')
      (hitems : List.Forall₂ R items items') : Twin R I E (.stream id items) (.stream id' items')

namespace Layout

section Relations

variable {R S : Node → Node → Prop} {I J : Identity → Identity → Prop}
  {E : Error → Error → Prop} {a b c : Layout}

theorem forall₂_meet (hR : ∀ n n' m, R n m → R n' m → S n n') {ns ns' ms : List Node}
    (h : List.Forall₂ R ns ms) (h' : List.Forall₂ R ns' ms) : List.Forall₂ S ns ns' := by
  induction h generalizing ns' with
  | nil => cases h'; exact .nil
  | cons hn _ ih => cases h' with | cons hn' h' => exact .cons (hR _ _ _ hn hn') (ih h')

/-- Layouts that are both twins of a third one are twins. -/
theorem Twin.meet (hR : ∀ n n' m, R n m → R n' m → S n n')
    (hI : ∀ i i' j, I i j → I i' j → J i i') (hE : ∀ e e' d, E e d → E e' d → E e e')
    (h : Twin R I E a c) (h' : Twin R I E b c) : Twin S J E a b := by
  induction h generalizing b with
  | text s => cases h'; exact .text s
  | node hn => cases h' with | node hn' => exact .node (hR _ _ _ hn hn')
  | item hn => cases h' with | item hn' => exact .item (hR _ _ _ hn hn')
  | fail he => cases h' with | fail he' => exact .fail (hE _ _ _ he he')
  | append _ _ iha ihb => cases h' with | append ha hb => exact .append (iha ha) (ihb hb)
  | late _ _ iha ihb => cases h' with | late ha hb => exact .late (iha ha) (ihb hb)
  | twice _ s ih => cases h' with | twice h s => exact .twice (ih h) s
  | statement _ ih => cases h' with | statement h => exact .statement (ih h)
  | declare names => cases h'; exact .declare names
  | inline s => cases h'; exact .inline s
  | enclosed _ ih => cases h' with | enclosed h => exact .enclosed (ih h)
  | stream hid hitems =>
      cases h' with
      | stream hid' hitems' => exact .stream (hI _ _ _ hid hid') (forall₂_meet hR hitems hitems')

theorem forall₂_imp_all {p q : Node → Prop} {ns ns' : List Node} (h : List.Forall₂ R ns ns')
    (hp : ∀ n ∈ ns, p n) (hq : ∀ n ∈ ns', q n) (hS : ∀ n n', R n n' → p n → q n' → S n n') :
    List.Forall₂ S ns ns' := by
  induction h with
  | nil => exact .nil
  | cons hn _ ih =>
      refine .cons (hS _ _ hn (hp _ (.head _)) (hq _ (.head _))) (ih ?_ ?_)
      · exact fun n hn => hp n (.tail _ hn)
      · exact fun n hn => hq n (.tail _ hn)

/-- What is true of the children of either layout may be used where they are
compared. -/
theorem Twin.imp_all {p q : Node → Prop} (h : Twin R I E a b) (ha : a.All p) (hb : b.All q)
    (hS : ∀ n n', R n n' → p n → q n' → S n n') : Twin S I E a b := by
  induction h with
  | text s => exact .text s
  | node hn => exact .node (hS _ _ hn ha hb)
  | item hn => exact .item (hS _ _ hn ha hb)
  | fail he => exact .fail he
  | append _ _ iha ihb => exact .append (iha ha.1 hb.1) (ihb ha.2 hb.2)
  | late _ _ iha ihb => exact .late (iha ha.1 hb.1) (ihb ha.2 hb.2)
  | twice _ s ih => exact .twice (ih ha hb) s
  | statement _ ih => exact .statement (ih ha hb)
  | declare names => exact .declare names
  | inline s => exact .inline s
  | enclosed _ ih => exact .enclosed (ih ha hb)
  | stream hid hitems => exact .stream hid (forall₂_imp_all hitems ha hb hS)

-- the parts of twins

variable {a' b' : Layout}

theorem Twin.of_append (h : Twin R I E (.append a b) (.append a' b')) :
    Twin R I E a a' ∧ Twin R I E b b' := by
  cases h with
  | append first second => exact ⟨first, second⟩

theorem Twin.of_late (h : Twin R I E (.late a b) (.late a' b')) :
    Twin R I E a a' ∧ Twin R I E b b' := by
  cases h with
  | late front back => exact ⟨front, back⟩

theorem Twin.of_statement (h : Twin R I E (.statement a) (.statement a')) : Twin R I E a a' := by
  cases h with
  | statement part => exact part

theorem Twin.of_enclosed (h : Twin R I E (.enclosed a) (.enclosed a')) : Twin R I E a a' := by
  cases h with
  | enclosed part => exact part

theorem seq_twin {ls ls' : List Layout} (h : List.Forall₂ (Twin R I E) ls ls') :
    Twin R I E (seq ls) (seq ls') := by
  induction h with
  | nil => exact .text ""
  | cons hl hrest ih =>
      cases hrest with
      | nil => exact hl
      | cons _ _ => exact .append hl ih

theorem join_twin (sep : String) {ls ls' : List Layout} (h : List.Forall₂ (Twin R I E) ls ls') :
    Twin R I E (join sep ls) (join sep ls') := by
  induction h with
  | nil => exact .text ""
  | cons hl hrest ih =>
      cases hrest with
      | nil => exact hl
      | cons _ _ => exact .append hl (.append (.text sep) ih)

end Relations

-- ============================================================ spellings

/-- The layouts of something in two spellings. -/
abbrev Respelt (ρ : Respelling) (shown : Prop) : Layout → Layout → Prop :=
  Twin (fun n m => m = n.respell ρ) (fun i j => j = ρ.identity i) (Error.Alike shown)

variable {ρ : Respelling} {shown : Prop}

theorem forall₂_respelt {α : Type} {g g' : α → Layout} {φ : α → α} {xs : List α}
    (h : ∀ x ∈ xs, Respelt ρ shown (g x) (g' (φ x))) :
    List.Forall₂ (Respelt ρ shown) (xs.map g) ((xs.map φ).map g') := by
  rw [List.forall₂_map_left_iff, List.forall₂_map_right_iff, List.forall₂_map_right_iff]
  exact List.forall₂_same.2 h

theorem joinNodes_respelt (sep : String) (ns : List Node) :
    Respelt ρ shown (joinNodes sep ns) (joinNodes sep (ns.map (·.respell ρ))) :=
  join_twin sep (forall₂_respelt fun _ _ => .item rfl)

theorem arguments_respelt (ns : List Node) :
    Respelt ρ shown (arguments ns) (arguments (ns.map (·.respell ρ))) :=
  .append (.text _) (.append (joinNodes_respelt ", " ns) (.text _))

theorem statements_respelt (ns : List Node) :
    Respelt ρ shown (statements ns) (statements (ns.map (·.respell ρ))) :=
  seq_twin (forall₂_respelt fun _ _ => .statement (.item rfl))

/-- A malformed form, whose message may show the form. -/
theorem malformed_respelt {cause cause' : Malformed}
    (h : shown → cause.message = cause'.message) :
    Respelt ρ shown (malformed cause) (malformed cause') :=
  .fail ⟨rfl, h⟩

theorem ident_respelt {text text' : String} (htext : shown → text = text') (id : Ident) :
    Respelt ρ shown (ident text id) (ident text' (ρ.ident id)) := by
  unfold ident
  rw [ρ.name_ident]
  split
  · exact .text _
  · refine .fail ⟨rfl, fun h => ?_⟩
    rw [htext h]

theorem symName_respelt (hρ : shown → ρ.KeepsTexts) (id : Ident) :
    Respelt ρ shown (symName id) (symName (ρ.ident id)) :=
  ident_respelt (fun h => (hρ h id).symm) id

theorem keywordName_respelt (hρ : shown → ρ.KeepsTexts) (id : Ident) :
    Respelt ρ shown (keywordName id) (keywordName (ρ.ident id)) :=
  ident_respelt (fun h => congrArg (":" ++ ·) (hρ h id).symm) id

-- ================================================================ calls

theorem callee_respelt (f : Node) : Respelt ρ shown (callee f) (callee (f.respell ρ)) := by
  unfold callee
  rw [f.callName?_respell]
  split
  · exact .append (.text _) (.append (.node rfl) (.text _))
  · exact .node rfl

theorem call_respelt (f : Node) (args : List Node) :
    Respelt ρ shown (call f args) (call (f.respell ρ) (args.map (·.respell ρ))) :=
  .append (callee_respelt f) (arguments_respelt args)

theorem methodCall_respelt (object : Node) {method method' : Layout}
    (hmethod : Respelt ρ shown method method') (args : List Node) :
    Respelt ρ shown (methodCall object method args)
      (methodCall (object.respell ρ) method' (args.map (·.respell ρ))) :=
  .append (.node rfl) (.append (.text _) (.append hmethod (arguments_respelt args)))

-- ========================================================= declarations

theorem evens_map (g : Node → Node) (args : List Node) :
    evens (args.map g) = (evens args).map g := by
  fun_induction evens args with
  | case1 | case2 => rfl
  | case3 n _ rest ih => simp [evens, ih]

/-- Names are declared alike in both spellings. They are looked at twice, once for
being symbols or keywords and once for being valid. -/
theorem declaredNames_respelt (hρ : shown → ρ.KeepsTexts) (names : List Node) :
    Both (fun e e' => Error.Alike shown (.form e) (.form e')) Eq (declaredNames names)
      (declaredNames (names.map (·.respell ρ))) := by
  unfold declaredNames
  refine (Both.mapM (S := fun x y => (shown → x.1 = y.1) ∧ x.2 = y.2) ?_).bind
    fun named named' hnamed => ?_
  · rw [List.forall₂_map_right_iff]
    refine List.forall₂_same.2 fun n _ => ?_
    cases n with
    | sym id => exact .ok ⟨fun h => (hρ h id).symm, (ρ.name_ident id).symm⟩
    | keyword id =>
        exact .ok ⟨fun h => congrArg (":" ++ ·) (hρ h id).symm, (ρ.name_ident id).symm⟩
    | float | foreign | form | seq | map | stream =>
        refine .error ⟨rfl, fun h => ?_⟩
        exact congrArg ("var expects symbol names, got " ++ ·) (Node.display_respell (hρ h) _).symm
    | _ => exact .error (Error.alike_refl _)
  · have hvalid : Both (fun e e' => Error.Alike shown (.form e) (.form e')) (List.Forall₂ Eq)
        (named.mapM fun x =>
          if isIdentifier x.2 then .ok x.2 else .error (.invalidIdentifier x.1))
        (named'.mapM fun x =>
          if isIdentifier x.2 then .ok x.2 else .error (.invalidIdentifier x.1)) := by
      refine Both.mapM (hnamed.imp fun x y hxy => ?_)
      obtain ⟨spelt, name⟩ := x
      obtain ⟨spelt', name'⟩ := y
      obtain ⟨hspelt, hname⟩ : (shown → spelt = spelt') ∧ name = name' := hxy
      subst hname
      dsimp only
      split
      · exact .ok rfl
      · refine .error ⟨rfl, fun h => ?_⟩
        rw [hspelt h]
    rw [List.forall₂_eq_eq_eq] at hvalid
    exact hvalid

theorem initialisers_respelt (args : List Node) :
    List.Forall₂ (Respelt ρ shown) (initialisers args)
      (initialisers (args.map (·.respell ρ))) := by
  fun_induction initialisers args with
  | case1 => exact .nil
  | case2 n =>
      simp only [List.map_cons, List.map_nil, initialisers, n.localName_respell]
      exact .cons (.inline _) .nil
  | case3 n value rest ih =>
      simp only [List.map_cons, initialisers, n.localName_respell]
      exact .cons (.append (.inline _) (.append (.text _) (.append (.node rfl) (.text _)))) ih

theorem declaration_respelt (hρ : shown → ρ.KeepsTexts) (args : List Node) :
    Respelt ρ shown (declaration args) (declaration (args.map (·.respell ρ))) := by
  unfold declaration
  rw [evens_map]
  have hnames := declaredNames_respelt hρ (evens args)
  generalize declaredNames ((evens args).map _) = names' at hnames ⊢
  generalize declaredNames (evens args) = names at hnames ⊢
  cases hnames with
  | ok h =>
      subst h
      exact .append (.declare _) (seq_twin (initialisers_respelt args))
  | error h => exact .fail h

theorem assignments_respelt (args : List Node) :
    List.Forall₂ (Respelt ρ shown) (assignments args) (assignments (args.map (·.respell ρ))) := by
  fun_induction assignments args with
  | case1 target value rest ih =>
      exact .cons (.append (.item rfl) (.append (.text _) (.append (.item rfl) (.text _)))) ih
  | case2 args hargs =>
      rcases args with _ | ⟨a, _ | ⟨b, rest⟩⟩
      · exact .nil
      · exact .nil
      · exact absurd rfl (hargs a b rest)

-- ============================================================ functions

theorem parameter_respelt (hρ : shown → ρ.KeepsTexts) (n : Node) :
    Respelt ρ shown (parameter n) (parameter (n.respell ρ)) := by
  cases n with
  | sym id => exact symName_respelt hρ id
  | keyword id => exact keywordName_respelt hρ id
  | _ =>
      refine malformed_respelt fun h => ?_
      exact congrArg ("Function parameter must be a symbol, got " ++ ·)
        (Node.display_respell (hρ h) _).symm

theorem function_respelt (hρ : shown → ρ.KeepsTexts) {label label' : Layout}
    (hlabel : Respelt ρ shown label label') (params : Node) (body : List Node) :
    Respelt ρ shown (function label params body)
      (function label' (params.respell ρ) (body.map (·.respell ρ))) := by
  unfold function
  rw [params.seqItems?_respell]
  cases params.seqItems? with
  | none =>
      refine malformed_respelt fun h => ?_
      exact congrArg ("Function parameters must be a vector, got " ++ ·)
        (Node.display_respell (hρ h) _).symm
  | some items =>
      have hparams : Respelt ρ shown (join ", " (items.map parameter))
          (join ", " ((items.map (·.respell ρ)).map parameter)) :=
        join_twin ", " (forall₂_respelt fun n _ => parameter_respelt hρ n)
      exact .append (.late (.append (.text _) (.append hlabel (.append (.text _)
        (.append hparams (.text _))))) (.enclosed (statements_respelt body))) (.text _)

theorem functionLiteral_respelt (hρ : shown → ρ.KeepsTexts) (args : List Node) :
    Respelt ρ shown (functionLiteral args) (functionLiteral (args.map (·.respell ρ))) := by
  cases args with
  | nil => exact malformed_respelt fun _ => rfl
  | cons first rest =>
      cases first with
      | sym id =>
          cases rest with
          | nil =>
              refine malformed_respelt fun h => ?_
              exact congrArg (fun text => "fn " ++ text ++ " needs a parameter vector")
                (hρ h id).symm
          | cons params body =>
              simp only [List.map_cons, Node.respell_sym, functionLiteral, ρ.name_ident]
              split
              · exact .append (.declare _) (.append (.inline _) (.append (.text _)
                  (function_respelt hρ (.text _) params body)))
              · exact symName_respelt hρ id
      | _ =>
          rw [List.map_cons, functionLiteral_of_not_sym (by simp),
            functionLiteral_of_not_sym (by simp [Node.respell])]
          exact function_respelt hρ (.text _) _ rest

theorem functionDeclaration_respelt (hρ : shown → ρ.KeepsTexts) (args : List Node) :
    Respelt ρ shown (functionDeclaration args)
      (functionDeclaration (args.map (·.respell ρ))) := by
  rcases args with _ | ⟨name, _ | ⟨params, body⟩⟩
  · exact malformed_respelt fun _ => rfl
  · cases name <;> exact malformed_respelt fun _ => rfl
  · cases name with
    | sym id => exact function_respelt hρ (symName_respelt hρ id) params body
    | _ => exact malformed_respelt fun _ => rfl

-- ================================================================ loops

theorem forLoops_respelt {inner inner' : Layout} (hinner : Respelt ρ shown inner inner')
    (items : List Node) :
    Respelt ρ shown (forLoops inner items) (forLoops inner' (items.map (·.respell ρ))) := by
  fun_induction forLoops inner items with
  | case1 name collection rest ih =>
      exact .append (.late (.append (.text _) (.append (.node rfl) (.append (.text _)
        (.append (.node rfl) (.text _))))) ih) (.text _)
  | case2 items hitems =>
      rcases items with _ | ⟨a, _ | ⟨b, rest⟩⟩
      · exact hinner
      · exact hinner
      · exact absurd rfl (hitems a b rest)

theorem forLoop_respelt (hρ : shown → ρ.KeepsTexts) (args : List Node) :
    Respelt ρ shown (forLoop args) (forLoop (args.map (·.respell ρ))) := by
  cases args with
  | nil => exact malformed_respelt fun _ => rfl
  | cons bindings body =>
      simp only [List.map_cons, forLoop, bindings.seqItems?_respell]
      cases bindings.seqItems? with
      | none => exact malformed_respelt fun _ => rfl
      | some items =>
          simp only [Option.map_some, List.isEmpty_map, List.length_map]
          split
          · refine malformed_respelt fun h => ?_
            exact congrArg ("doseq bindings must be name/iterable pairs, got " ++ ·)
              (Node.display_respell (hρ h) _).symm
          · exact forLoops_respelt (statements_respelt body) items

theorem whileLoop_respelt (args : List Node) :
    Respelt ρ shown (whileLoop args) (whileLoop (args.map (·.respell ρ))) := by
  cases args with
  | nil => exact malformed_respelt fun _ => rfl
  | cons test body =>
      exact .append (.text _) (.append (.node rfl) (.append (.text _)
        (.append (statements_respelt body) (.text _))))

-- ================================================================== try

theorem flawed_respelt (hρ : shown → ρ.KeepsTexts) (cause : MalformedTry) (args : List Node) :
    Respelt ρ shown (tryBlock.flawed args cause)
      (tryBlock.flawed (args.map (·.respell ρ)) cause) :=
  .fail ⟨rfl, fun h => congrArg (cause.message ++ ·) (displayForm_respell (hρ h) "try" args).symm⟩

theorem catchPart_respelt (hρ : shown → ρ.KeepsTexts) (all args : List Node) :
    Respelt ρ shown (tryBlock.catchPart all args)
      (tryBlock.catchPart (all.map (·.respell ρ)) (args.map (·.respell ρ))) := by
  cases args with
  | nil => exact flawed_respelt hρ .catchWithoutName all
  | cons name body =>
      exact .append (.text _) (.append (.node rfl) (.append (.text _)
        (.append (statements_respelt body) (.text _))))

theorem finallyPart_respelt (args : List Node) :
    Respelt ρ shown (tryBlock.finallyPart args)
      (tryBlock.finallyPart (args.map (·.respell ρ))) :=
  .append (.text _) (.append (statements_respelt args) (.text _))

theorem filterMap_respell {g : Node → Option (List Node)}
    (hg : ∀ n, g (n.respell ρ) = (g n).map (·.map (·.respell ρ))) (args : List Node) :
    (args.map (·.respell ρ)).filterMap g = (args.filterMap g).map (·.map (·.respell ρ)) := by
  rw [List.filterMap_map, List.map_filterMap]
  exact List.filterMap_congr fun n _ => hg n

/-- Which arguments are clauses, and of which kind, is the same in both
spellings. -/
theorem tryBlock_respelt (hρ : shown → ρ.KeepsTexts) (args : List Node) :
    Respelt ρ shown (tryBlock args) (tryBlock (args.map (·.respell ρ))) := by
  have hbody : (args.map (·.respell ρ)).filter (!isClause ·)
      = (args.filter (!isClause ·)).map (·.respell ρ) := by
    rw [List.filter_map]
    congr 2
    funext n
    exact congrArg (!·) n.isClause_respell
  have hcatches (catches : List (List Node)) : Respelt ρ shown
      (seq (catches.map (tryBlock.catchPart args)))
      (seq ((catches.map (·.map (·.respell ρ))).map
        (tryBlock.catchPart (args.map (·.respell ρ))))) :=
    seq_twin (forall₂_respelt fun clause _ => catchPart_respelt hρ args clause)
  have hfinallies (finallies : List (List Node)) : Respelt ρ shown
      (seq (finallies.map tryBlock.finallyPart))
      (seq ((finallies.map (·.map (·.respell ρ))).map tryBlock.finallyPart)) :=
    seq_twin (forall₂_respelt fun clause _ => finallyPart_respelt clause)
  have hparts (catches finallies : List (List Node)) : Respelt ρ shown
      (seq [.text "try\x7b\n", statements (args.filter (!isClause ·)), .text "\x7d\n",
        seq (catches.map (tryBlock.catchPart args)), seq (finallies.map tryBlock.finallyPart)])
      (seq [.text "try\x7b\n",
        statements ((args.map (·.respell ρ)).filter (!isClause ·)), .text "\x7d\n",
        seq ((catches.map (·.map (·.respell ρ))).map
          (tryBlock.catchPart (args.map (·.respell ρ)))),
        seq ((finallies.map (·.map (·.respell ρ))).map tryBlock.finallyPart)]) := by
    rw [hbody]
    exact .append (.text _) (.append (statements_respelt _) (.append (.text _)
      (.append (hcatches catches) (hfinallies finallies))))
  unfold tryBlock
  rw [filterMap_respell Node.catchClause?_respell, filterMap_respell Node.finallyClause?_respell]
  rcases args.filterMap catchClause? with _ | ⟨c, _ | ⟨c', catches⟩⟩
  · rcases args.filterMap finallyClause? with _ | ⟨f, _ | ⟨f', finallies⟩⟩
    · exact flawed_respelt hρ .noClause args
    · exact hparts [] [f]
    · exact flawed_respelt hρ .manyFinallies args
  · rcases args.filterMap finallyClause? with _ | ⟨f, _ | ⟨f', finallies⟩⟩
    · exact hparts [c] []
    · exact hparts [c] [f]
    · exact flawed_respelt hρ .manyFinallies args
  · exact flawed_respelt hρ .manyCatches args

-- ========================================================== small forms

theorem branch_respelt (test yes : Node) :
    Respelt ρ shown (conditional.branch test yes)
      (conditional.branch (test.respell ρ) (yes.respell ρ)) :=
  .append (.text _) (.append (.node rfl) (.append (.text _) (.append (.node rfl) (.text _))))

theorem conditional_respelt (hρ : shown → ρ.KeepsTexts) (args : List Node) :
    Respelt ρ shown (conditional args) (conditional (args.map (·.respell ρ))) := by
  have hshape (args : List Node) : Respelt ρ shown (malformed (.ifShape args))
      (malformed (.ifShape (args.map (·.respell ρ)))) :=
    malformed_respelt fun h => congrArg
      ("if expects a test, a then branch and an optional else branch: " ++ ·)
      (displayForm_respell (hρ h) "if" args).symm
  rcases args with _ | ⟨test, _ | ⟨yes, _ | ⟨no, _ | ⟨more, rest⟩⟩⟩⟩
  · exact hshape []
  · exact hshape [test]
  · exact branch_respelt test yes
  · have helse (no : Node) : Respelt ρ shown
        (seq [conditional.branch test yes, .text " else \x7b \n", .node no, .text "\n \x7d"])
        (seq [conditional.branch (test.respell ρ) (yes.respell ρ), .text " else \x7b \n",
          .node (no.respell ρ), .text "\n \x7d"]) :=
      .append (branch_respelt test yes) (.append (.text _) (.append (.node rfl) (.text _)))
    cases no with
    | nil => exact branch_respelt test yes
    | _ => exact helse _
  · cases no <;> exact hshape (test :: yes :: _ :: more :: rest)

theorem argumentCount_respelt (hρ : shown → ρ.KeepsTexts) (name : String) (expected : Nat)
    (args : List Node) :
    Respelt ρ shown (malformed (.argumentCount name expected args))
      (malformed (.argumentCount name expected (args.map (·.respell ρ)))) := by
  refine malformed_respelt fun h => ?_
  unfold Malformed.message
  simp only [List.length_map, displayForm_respell (hρ h)]

theorem unary_respelt (hρ : shown → ρ.KeepsTexts) (name : String) {write : Node → Layout}
    (hwrite : ∀ n, Respelt ρ shown (write n) (write (n.respell ρ))) (args : List Node) :
    Respelt ρ shown (unary name write args) (unary name write (args.map (·.respell ρ))) := by
  rcases args with _ | ⟨n, _ | ⟨m, rest⟩⟩
  · exact argumentCount_respelt hρ name 1 []
  · exact hwrite n
  · exact argumentCount_respelt hρ name 1 (n :: m :: rest)

theorem arity_respelt (op : String) (args : List Node) :
    Respelt ρ shown (.fail (.form (.unsupportedArity op args.length)))
      (.fail (.form (.unsupportedArity op (args.map (·.respell ρ)).length))) := by
  rw [List.length_map]
  exact .fail (Error.alike_refl _)

theorem operand_respelt (op : String) {write : Node → Layout}
    (hwrite : ∀ n, Respelt ρ shown (write n) (write (n.respell ρ))) (args : List Node) :
    Respelt ρ shown (operand op write args) (operand op write (args.map (·.respell ρ))) := by
  rcases args with _ | ⟨n, _ | ⟨m, rest⟩⟩
  · exact arity_respelt op []
  · exact hwrite n
  · exact arity_respelt op (n :: m :: rest)

theorem binary_respelt (op : String) (args : List Node) :
    Respelt ρ shown (binary op args) (binary op (args.map (·.respell ρ))) := by
  unfold binary
  rw [List.length_map]
  split
  · exact .append (.text _) (.append (joinNodes_respelt _ args) (.text _))
  · exact .fail (Error.alike_refl _)

theorem entry_respelt (p : Node × Node) :
    Respelt ρ shown (entry p) (entry (p.1.respell ρ, p.2.respell ρ)) :=
  .append (.item rfl) (.append (.text _) (.item rfl))

end Layout

-- ================================================================= forms

open Layout

variable {ρ : Respelling} {shown : Prop}

theorem SpecialForm.layout_respelt (hρ : shown → ρ.KeepsTexts) {form : SpecialForm}
    (hraw : ρ.OnlyStamps ∨ form ≠ .raw) (args : List Node) :
    Respelt ρ shown (form.layout args) (form.layout (args.map (·.respell ρ))) := by
  cases form with
  | declaration => exact declaration_respelt hρ args
  | call =>
      cases args with
      | nil => exact malformed_respelt fun _ => rfl
      | cons f rest => exact call_respelt f rest
  | concatenation | path | conjunction | disjunction => exact joinNodes_respelt _ args
  | member =>
      have hshape (args : List Node) : Respelt ρ shown (malformed (.dotShape args))
          (malformed (.dotShape (args.map (·.respell ρ)))) :=
        malformed_respelt fun h => congrArg
          ("(. obj method ...) needs an object and a method: " ++ ·)
          (displayForm_respell (hρ h) "." args).symm
      rcases args with _ | ⟨object, _ | ⟨method, rest⟩⟩
      · exact hshape []
      · exact hshape [object]
      · exact methodCall_respelt object (.node rfl) rest
  | conditional => exact conditional_respelt hρ args
  | result =>
      rcases args with _ | ⟨n, _ | ⟨m, rest⟩⟩
      · exact .statement (.append (.text _) (.node rfl))
      · exact .statement (.append (.text _) (.node rfl))
      · exact argumentCount_respelt hρ "return" 1 (n :: m :: rest)
  | deletion =>
      refine unary_respelt hρ "delete" (fun n => ?_) args
      exact .append (.text _) (.node rfl)
  | assignment =>
      simp only [layout, List.isEmpty_map, List.length_map]
      split
      · exact malformed_respelt fun h => congrArg ("set! expects target/value pairs: " ++ ·)
          (displayForm_respell (hρ h) "set!" args).symm
      · exact seq_twin (assignments_respelt args)
  | construction =>
      cases args with
      | nil => exact malformed_respelt fun _ => rfl
      | cons f rest => exact .append (.text _) (.append (.node rfl) (arguments_respelt rest))
  | index =>
      cases args with
      | nil => exact malformed_respelt fun _ => rfl
      | cons target keys =>
          refine seq_twin (.cons (.node rfl) (forall₂_respelt fun key _ => ?_))
          exact .append (.text _) (.append (.item rfl) (.text _))
  | increment | decrement =>
      refine unary_respelt hρ _ (fun n => ?_) args
      exact .append (.node rfl) (.text _)
  | successor | predecessor =>
      refine unary_respelt hρ _ (fun n => ?_) args
      exact .append (.text _) (.append (.node rfl) (.text _))
  | definedness =>
      refine unary_respelt hρ _ (fun n => ?_) args
      refine .append (.text _) (.append (.twice ?_ _) (.text _))
      exact .node rfl
  | choice =>
      rcases args with _ | ⟨test, _ | ⟨yes, _ | ⟨no, _ | ⟨more, rest⟩⟩⟩⟩
      · exact argumentCount_respelt hρ "?" 3 []
      · exact argumentCount_respelt hρ "?" 3 [test]
      · exact argumentCount_respelt hρ "?" 3 [test, yes]
      · exact .append (.item rfl) (.append (.text _) (.append (.item rfl)
          (.append (.text _) (.item rfl))))
      · exact argumentCount_respelt hρ "?" 3 (test :: yes :: no :: more :: rest)
  | raw =>
      have hstamps := hraw.resolve_right fun h => h rfl
      have htexts : (args.map (·.respell ρ)).map rawText = args.map rawText := by
        rw [List.map_map]
        exact List.map_congr_left fun n _ => n.rawText_respell hstamps
      simp only [layout, htexts]
      exact .text _
  | block => exact statements_respelt args
  | whileLoop => exact whileLoop_respelt args
  | forLoop => exact forLoop_respelt hρ args
  | functionLiteral => exact functionLiteral_respelt hρ args
  | functionDeclaration => exact functionDeclaration_respelt hρ args
  | tryBlock => exact tryBlock_respelt hρ args
  | loopExit => exact .text _

theorem Layout.symbolForm_respelt (hρ : shown → ρ.KeepsTexts) {id : Ident}
    (hid : ρ.OnlyStamps ∨ id.name ≠ "quote") (args : List Node) :
    Respelt ρ shown (symbolForm id args)
      (symbolForm (ρ.ident id) (args.map (·.respell ρ))) := by
  unfold symbolForm
  rw [ρ.name_ident]
  split
  · rename_i method _
    cases args with
    | nil =>
        refine malformed_respelt fun h => ?_
        exact congrArg ("Method call needs an object: " ++ ·)
          (Node.display_respell (hρ h) (.form [.sym id])).symm
    | cons object rest =>
        refine methodCall_respelt object ?_ rest
        unfold symName ident
        split
        · exact .text _
        · exact .fail (Error.alike_refl _)
  · split
    · rename_i special hspecial
      refine SpecialForm.layout_respelt hρ (hid.imp_right fun hname hraw => hname ?_) args
      rw [hraw] at hspecial
      exact SpecialForm.eq_quote_of_raw hspecial
    · split
      · exact binary_respelt id.name args
      · split
        · refine operand_respelt id.name (fun n => ?_) args
          exact .append (.text _) (.node rfl)
        · split
          · refine operand_respelt id.name (fun n => ?_) args
            exact .append (.node rfl) (.text _)
          · exact call_respelt (.sym id) args

/-- Whether a node itself is no stream and no head of raw text. -/
def Node.isRegular : Node → Bool
  | .stream _ _ => false
  | .sym id => id.name != "quote"
  | _ => true

/-- The layout of a node in another spelling has the children in this spelling,
and fails alike. -/
theorem Node.layout_respelt (hρ : shown → ρ.KeepsTexts) {n : Node}
    (hn : ρ.OnlyStamps ∨ n.every isRegular) : Respelt ρ shown n.layout (n.respell ρ).layout := by
  have hunknown (items : List Node) : Respelt ρ shown
      (.fail (.form (.unknownHead (.form items))))
      (.fail (.form (.unknownHead (.form (items.map (·.respell ρ)))))) := by
    refine .fail ⟨rfl, fun h => ?_⟩
    rw [← respell_form]
    exact congrArg ("invalid form: " ++ ·) (display_respell (hρ h) _).symm
  cases n with
  | sym id => exact symName_respelt hρ id
  | keyword id => exact keywordName_respelt hρ id
  | ratio q =>
      simp only [respell, layout]
      split
      · exact .text _
      · exact .fail (Error.alike_refl _)
  | hole h => exact .fail (Error.alike_refl _)
  | form items =>
      cases items with
      | nil => exact .fail (Error.alike_refl _)
      | cons head args =>
          rw [respell_form, List.map_cons]
          cases head with
          | sym id =>
              refine symbolForm_respelt hρ (hn.imp_right fun hn => ?_) args
              have hid := (every_iff.1 ((every_iff.1 hn).2 (.sym id) (.head _))).1
              exact bne_iff_ne.1 hid
          | keyword id => exact call_respelt (.keyword id) args
          | form items => exact call_respelt (.form items) args
          | _ => exact hunknown (_ :: args)
  | seq kind items =>
      rw [respell_seq]
      exact .append (.text _) (.append (joinNodes_respelt ", " items) (.text _))
  | map kind pairs =>
      rw [respell_map]
      exact .append (.text _)
        (.append (join_twin ", " (forall₂_respelt fun p _ => entry_respelt p)) (.text _))
  | stream id items =>
      rw [respell_stream]
      refine .stream rfl (List.forall₂_map_right_iff.2 (List.forall₂_same.2 fun _ _ => rfl))
  | _ => exact .text _

end FormScript
