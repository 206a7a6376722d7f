/-
What a dictionary holds that pairs are entered into one after another: of same keys
the first stays, in its place, with the last of their values.

That two keys are the same is a question of their codes (`Node.sameKey_iff`): numbers
of all kinds have one code for each exact value, and what has an identity of its own is
coded by it alone. So sameness is an equivalence, whatever the keys, and the order in
which pairs are looked through does not show.
-/
import FormScript.Layout.Children

namespace FormScript

-- ================================================================== codes

/-- One node for each exact value. -/
def ExactNumber.code : ExactNumber → Node
  | .finite value => .ratio value
  | .infinite negative => .bool negative

namespace Node

mutual

/-- A node that stands for all keys that are the same as this one. -/
def code : Node → Node
  | .foreign id _ => .foreign id ""
  | .stream id _ => .stream id []
  | .form items => .form (codes items)
  | .seq kind items => .seq kind (codes items)
  | .map kind pairs => .map kind (pairCodes pairs)
  | n =>
    match n.exact? with
    | some x => x.code
    | none => n
termination_by structural n => n

def codes : List Node → List Node
  | [] => []
  | n :: rest => n.code :: codes rest
termination_by structural ns => ns

def pairCodes : List (Node × Node) → List (Node × Node)
  | [] => []
  | (k, v) :: rest => (k.code, v.code) :: pairCodes rest
termination_by structural ps => ps

end

-- ================================================================ numbers

theorem code_eq_code_iff {n : Node} {x : ExactNumber} : n.code = x.code ↔ n.exact? = some x := by
  have hinj {y : ExactNumber} : y.code = x.code ↔ y = x := by
    cases x <;> cases y <;> simp [ExactNumber.code]
  cases h : n.exact? with
  | some y =>
      have hcode : n.code = y.code := by
        cases n with
        | bool | int | ratio => simp_all [code]
        | float id value =>
            rw [ Node.exact?] at h
            simp [code, Node.exact?, h]
        | _ => cases h
      rw [hcode, hinj, Option.some.injEq]
  | none =>
      have hother : n.code ≠ x.code := by
        cases n with
        | bool | int | ratio => cases h
        | float id value =>
            rw [ Node.exact?] at h
            cases x <;> simp [code, Node.exact?, h, ExactNumber.code]
        | _ => cases x <;> simp [code, Node.exact?, ExactNumber.code]
      simp [hother]

/-- Nodes of two kinds are the same key only as numbers. -/
theorem sameKey_of_ctorIdx_ne {a b : Node} (h : a.ctorIdx ≠ b.ctorIdx) :
    a.sameKey b = a.sameNumber b := by
  cases a <;> cases b <;> first | rfl | exact absurd rfl h

theorem sameNumber_of_not_number {a : Node} (h : a.exact? = none) (b : Node) :
    a.sameNumber b = false := by
  unfold sameNumber
  rw [h]

/-- A number is the same key as the numbers of its exact value. -/
theorem sameKey_iff_of_number {a : Node} {x : ExactNumber} (h : a.exact? = some x) (b : Node) :
    a.sameKey b ↔ b.exact? = some x := by
  have hnumber : a.sameNumber b ↔ b.exact? = some x := by
    unfold sameNumber
    rw [h]
    cases b.exact? with
    | none => simp
    | some y =>
        simp only [beq_iff_eq, Option.some.injEq]
        exact eq_comm
  rw [← hnumber]
  cases a with
  | bool | int | ratio => cases b <;> rfl
  | float id value =>
      cases b with
      | float id' value' =>
          rw [sameKey, Bool.or_eq_true, or_iff_right_of_imp]
          intro hsame
          have hvalue : value = value' := by simp_all
          rw [hnumber, ← h, hvalue]
          rfl
      | _ => rfl
  | _ => cases h

-- =============================================================== sameness

theorem sameKeys_iff {xs ys : List Node}
    (h : ∀ x ∈ xs, ∀ y, x.sameKey y ↔ x.code = y.code) :
    sameKeys xs ys ↔ codes xs = codes ys := by
  induction xs generalizing ys with
  | nil => cases ys <;> simp [sameKeys, codes]
  | cons x xs ih =>
      cases ys with
      | nil => simp [sameKeys, codes]
      | cons y ys =>
          have hrest : sameKeys xs ys ↔ codes xs = codes ys := ih fun z hz => h z (.tail _ hz)
          simp [sameKeys, codes, h x (.head _) y, hrest]

theorem samePairs_iff {ps qs : List (Node × Node)}
    (h : ∀ p ∈ ps, (∀ y, p.1.sameKey y ↔ p.1.code = y.code)
      ∧ ∀ y, p.2.sameKey y ↔ p.2.code = y.code) :
    samePairs ps qs ↔ pairCodes ps = pairCodes qs := by
  induction ps generalizing qs with
  | nil => cases qs <;> simp [samePairs, pairCodes]
  | cons p ps ih =>
      cases qs with
      | nil => simp [samePairs, pairCodes]
      | cons q qs =>
          have hrest : samePairs ps qs ↔ pairCodes ps = pairCodes qs :=
            ih fun z hz => h z (.tail _ hz)
          obtain ⟨hkey, hvalue⟩ := h p (.head _)
          obtain ⟨k, v⟩ := p
          obtain ⟨l, w⟩ := q
          simp [samePairs, pairCodes, hkey l, hvalue w, hrest]

/-- Other nodes keep their kinds in their codes. -/
theorem code_ctorIdx {n : Node} (h : n.exact? = none) : n.code.ctorIdx = n.ctorIdx := by
  cases n with
  | bool | int | ratio => cases h
  | float id value =>
      rw [ Node.exact?] at h
      simp only [code, Node.exact?, h]
  | _ => rfl

/-- Floats that are not numbers are the same key if they are one and the same. -/
theorem sameKey_float_iff {id : Identity} {value : Binary64}
    (h : Node.exact? (.float id value) = none) (id' : Identity) (value' : Binary64) :
    (Node.float id value).sameKey (.float id' value')
      ↔ (Node.float id value).code = (Node.float id' value').code := by
  have hcode : (Node.float id value).code = .float id value := by
    rw [ Node.exact?] at h
    simp only [code, Node.exact?, h]
  rw [hcode, sameKey, sameNumber_of_not_number h, Bool.or_false]
  cases h' : Node.exact? (.float id' value') with
  | some y =>
      have hne : value ≠ value' := by
        rintro rfl
        exact absurd (h.symm.trans h') (by simp)
      rw [code_eq_code_iff.2 h']
      cases y <;> simp [ExactNumber.code, hne]
  | none =>
      rw [ Node.exact?] at h'
      simp [code, Node.exact?, h']

/-- Nodes of one kind that are no numbers are the same key if they have one code, and
what they hold is. -/
theorem sameKey_iff_of_ctorIdx_eq {a b : Node} (ha : a.exact? = none)
    (hkind : a.ctorIdx = b.ctorIdx)
    (h : ∀ m ∈ a.children, ∀ c, m.sameKey c ↔ m.code = c.code) :
    a.sameKey b ↔ a.code = b.code := by
  cases a with
  | bool | int | ratio => cases ha
  | float id value =>
      cases b with
      | float id' value' => exact sameKey_float_iff ha id' value'
      | _ => cases hkind
  | form xs =>
      have hitems : ∀ x ∈ xs, ∀ y, x.sameKey y ↔ x.code = y.code := h
      cases b with
      | form ys => simp [sameKey, code, sameKeys_iff hitems]
      | _ => cases hkind
  | seq kind xs =>
      have hitems : ∀ x ∈ xs, ∀ y, x.sameKey y ↔ x.code = y.code := h
      cases b with
      | seq kind' ys => simp [sameKey, code, sameKeys_iff hitems]
      | _ => cases hkind
  | map kind ps =>
      have hpairs : ∀ p ∈ ps, (∀ y, p.1.sameKey y ↔ p.1.code = y.code)
          ∧ ∀ y, p.2.sameKey y ↔ p.2.code = y.code := fun p hp =>
        ⟨h p.1 (mem_children_of_mem kind hp).1, h p.2 (mem_children_of_mem kind hp).2⟩
      cases b with
      | map kind' qs => simp [sameKey, code, samePairs_iff hpairs]
      | _ => cases hkind
  | _ =>
      cases b <;> cases hkind
      simp [sameKey, code, Node.exact?]

/-- Two nodes are the same key if they have one code. -/
theorem sameKey_iff (a b : Node) : a.sameKey b ↔ a.code = b.code := by
  induction a using children_induction generalizing b with
  | step a ih =>
      cases ha : a.exact? with
      | some x =>
          have hcode : a.code = x.code := code_eq_code_iff.2 ha
          rw [sameKey_iff_of_number ha, hcode, ← code_eq_code_iff]
          exact eq_comm
      | none =>
          by_cases hkind : a.ctorIdx = b.ctorIdx
          · exact sameKey_iff_of_ctorIdx_eq ha hkind ih
          · rw [sameKey_of_ctorIdx_ne hkind, sameNumber_of_not_number ha]
            refine iff_of_false Bool.false_ne_true fun hcode => ?_
            cases hb : b.exact? with
            | some y =>
                rw [code_eq_code_iff.2 hb, code_eq_code_iff, ha] at hcode
                cases hcode
            | none =>
                rw [← code_ctorIdx ha, ← code_ctorIdx hb, hcode] at hkind
                exact hkind rfl

end Node

-- =========================================================== dictionaries

/-- The pairs of a dictionary that these pairs were entered into in turn: each key that
is not the same as an earlier one, with the last value under a key that is the same. -/
def collapse : List (Node × Node) → List (Node × Node)
  | [] => []
  | (key, value) :: rest =>
    (key, ((rest.filter fun p => key.sameKey p.1).map (·.2)).getLastD value)
      :: (collapse rest).filter fun p => !key.sameKey p.1

/-- A key that is the same as another one is entered among those that are not the same
as the other one to no effect. -/
theorem filter_enterPair_of_same {key other value : Node} (h : other.sameKey key)
    (pairs : List (Node × Node)) :
    (enterPair key value pairs).filter (fun p => !other.sameKey p.1)
      = pairs.filter fun p => !other.sameKey p.1 := by
  induction pairs with
  | nil => simp [enterPair, h]
  | cons p rest ih =>
      rw [enterPair]
      split
      · rename_i hsame
        have hother : other.sameKey p.1 := by
          rw [Node.sameKey_iff] at h hsame ⊢
          rw [h, hsame]
        simp [hother]
      · rw [List.filter_cons, List.filter_cons, ih]

/-- Other keys are entered before the keys that are the same as one are left out, or
after. -/
theorem filter_enterPair_of_not_same {key other value : Node} (h : ¬ other.sameKey key)
    (pairs : List (Node × Node)) :
    (enterPair key value pairs).filter (fun p => !other.sameKey p.1)
      = enterPair key value (pairs.filter fun p => !other.sameKey p.1) := by
  induction pairs with
  | nil => simp [enterPair, h]
  | cons p rest ih =>
      rw [enterPair]
      split
      · rename_i hsame
        have hother : ¬ other.sameKey p.1 := by
          rw [Node.sameKey_iff] at h hsame ⊢
          rw [← hsame] at h
          exact h
        simp [hother, enterPair, hsame]
      · rename_i hdiffer
        rw [List.filter_cons, List.filter_cons, ih]
        split
        · rw [enterPair, if_neg hdiffer]
        · rfl

/-- One more pair is entered into what the pairs before it have made. -/
theorem collapse_concat (pairs : List (Node × Node)) (key value : Node) :
    collapse (pairs ++ [(key, value)]) = enterPair key value (collapse pairs) := by
  induction pairs with
  | nil => simp [collapse, enterPair]
  | cons p rest ih =>
      obtain ⟨first, firstValue⟩ := p
      rw [List.cons_append, collapse, collapse, ih, enterPair, List.filter_append]
      split
      · rename_i hsame
        rw [filter_enterPair_of_same hsame]
        simp [hsame]
      · rename_i hdiffer
        rw [filter_enterPair_of_not_same hdiffer]
        simp [hdiffer]

end FormScript
