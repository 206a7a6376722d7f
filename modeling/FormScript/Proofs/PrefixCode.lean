/-
Texts that can be told apart from what follows them. A spelling `enc`
assigns a text to every value of a class; a value is `Readable` if its
text, followed by anything that may follow it, is no other value's text
with another continuation. Readable values stay readable when they are
put together: in runs of characters that nothing after them extends
(`run_inj`), and in lists with separators up to something that ends them
(`cons_inj`, `joined_inj`).
-/

namespace FormScript.PrefixCode

-- ======================================================= character runs

/-- A text that does not go on with a character of the class `p`. -/
def Stops (p : Char → Bool) (u : List Char) : Prop :=
  ∀ c ∈ u.head?, p c = false

theorem dropWhile_of_stops {p : Char → Bool} {u : List Char}
    (h : Stops p u) : u.dropWhile p = u := by
  cases u with
  | nil => rfl
  | cons c u => exact List.dropWhile_cons_of_neg (by simp [h c rfl])

/-- A run of characters of one class ends where the class does. -/
theorem run_inj {p : Char → Bool} {x y u v : List Char}
    (hx : ∀ c ∈ x, p c) (hy : ∀ c ∈ y, p c) (hu : Stops p u)
    (hv : Stops p v) (h : x ++ u = y ++ v) : x = y ∧ u = v := by
  have huv : u = v := by
    have hdrop := congrArg (List.dropWhile p) h
    rwa [List.dropWhile_append_of_pos hx, List.dropWhile_append_of_pos hy,
      dropWhile_of_stops hu, dropWhile_of_stops hv] at hdrop
  subst huv
  exact ⟨List.append_cancel_right h, rfl⟩

-- ============================================================== readable

variable {α : Type}

/-- A value whose text tells it from all values of the class `S`, whatever
continuation that `F` allows comes after it. -/
def Readable (S : α → Prop) (enc : α → List Char) (F : List Char → Prop)
    (x : α) : Prop :=
  ∀ ⦃y : α⦄, S y → ∀ ⦃u v : List Char⦄, F u → F v →
    enc x ++ u = enc y ++ v → x = y ∧ u = v

/-- A list after its first element: a separator before each one. -/
def tail (sep : List Char) (enc : α → List Char) (xs : List α) : List Char :=
  xs.flatMap fun x => sep ++ enc x

theorem intercalate_cons_eq (sep : List Char) (enc : α → List Char) (x : α)
    (xs : List α) :
    sep.intercalate ((x :: xs).map enc) = enc x ++ tail sep enc xs := by
  induction xs generalizing x with
  | nil => simp [tail]
  | cons y xs ih =>
      rw [List.map_cons, List.map_cons, List.intercalate_cons_cons,
        ← List.map_cons, ih y]
      simp [tail]

variable {S : α → Prop} {enc : α → List Char} {F G : List Char → Prop}
  {s close : Char} {sep : List Char}

/-- What may come after a list: something that may come after an element,
but no separator. -/
structure Ends (F : List Char → Prop) (s : Char) (G : List Char → Prop) :
    Prop where
  follows : ∀ ⦃w⦄, G w → F w
  stops : ∀ ⦃w⦄, ¬ G (s :: w)

/-- A closing character ends a list. -/
theorem ends_of_close (hne : s ≠ close) (hclose : ∀ w, F (close :: w)) :
    Ends F s (fun w => ∃ v, w = close :: v) where
  follows := by
    rintro w ⟨v, rfl⟩
    exact hclose v
  stops := by
    rintro w ⟨v, hv⟩
    injection hv with hc _
    exact hne hc

/-- What follows an element of a list: another separator, or the end. -/
theorem continues_tail (hsep : ∀ w, F (s :: sep ++ w)) (hends : Ends F s G)
    (xs : List α) {u : List Char} (hu : G u) :
    F (tail (s :: sep) enc xs ++ u) := by
  cases xs with
  | nil => exact hends.follows hu
  | cons x xs =>
      have hw := hsep (enc x ++ (tail (s :: sep) enc xs ++ u))
      simpa [tail] using hw

/-- The tails of lists of readable values are told apart. -/
theorem tail_inj (hsep : ∀ w, F (s :: sep ++ w)) (hends : Ends F s G)
    {xs ys : List α} (hxs : ∀ x ∈ xs, Readable S enc F x)
    (hys : ∀ y ∈ ys, S y) {u v : List Char} (hu : G u) (hv : G v)
    (h : tail (s :: sep) enc xs ++ u = tail (s :: sep) enc ys ++ v) :
    xs = ys ∧ u = v := by
  induction xs generalizing ys with
  | nil =>
      cases ys with
      | nil => exact ⟨rfl, h⟩
      | cons y ys =>
          change u = s :: _ at h
          rw [h] at hu
          exact absurd hu (hends.stops (w := _))
  | cons x xs ih =>
      cases ys with
      | nil =>
          change s :: _ = v at h
          rw [← h] at hv
          exact absurd hv (hends.stops (w := _))
      | cons y ys =>
          have hxy : enc x ++ (tail (s :: sep) enc xs ++ u)
              = enc y ++ (tail (s :: sep) enc ys ++ v) := by
            simpa [tail] using h
          obtain ⟨rfl, hrest⟩ := hxs x (.head _) (hys y (.head _))
            (continues_tail hsep hends xs hu) (continues_tail hsep hends ys hv)
            hxy
          obtain ⟨rfl, huv⟩ := ih (fun z hz => hxs z (.tail _ hz))
            (fun z hz => hys z (.tail _ hz)) hrest
          exact ⟨rfl, huv⟩

/-- Lists that have a first element are told apart together with what comes
after them. -/
theorem cons_inj (hsep : ∀ w, F (s :: sep ++ w)) (hends : Ends F s G)
    {x y : α} {xs ys : List α}
    (hxs : ∀ z ∈ x :: xs, Readable S enc F z) (hys : ∀ z ∈ y :: ys, S z)
    {u v : List Char} (hu : G u) (hv : G v)
    (h : (s :: sep).intercalate ((x :: xs).map enc) ++ u
      = (s :: sep).intercalate ((y :: ys).map enc) ++ v) :
    x :: xs = y :: ys ∧ u = v := by
  rw [intercalate_cons_eq, intercalate_cons_eq, List.append_assoc,
    List.append_assoc] at h
  obtain ⟨rfl, hrest⟩ := hxs x (.head _) (hys y (.head _))
    (continues_tail hsep hends xs hu) (continues_tail hsep hends ys hv) h
  obtain ⟨rfl, huv⟩ := tail_inj hsep hends (fun z hz => hxs z (.tail _ hz))
    (fun z hz => hys z (.tail _ hz)) hu hv hrest
  exact ⟨rfl, huv⟩

/-- Lists of readable values up to a closing character are told apart, if
no value starts with that character. -/
theorem joined_inj (hne : s ≠ close) (hsep : ∀ w, F (s :: sep ++ w))
    (hclose : ∀ w, F (close :: w))
    (hstart : ∀ x, S x → ∃ c cs, enc x = c :: cs ∧ c ≠ close)
    {xs ys : List α} (hxs : ∀ x ∈ xs, S x ∧ Readable S enc F x)
    (hys : ∀ y ∈ ys, S y) {u v : List Char}
    (h : (s :: sep).intercalate (xs.map enc) ++ close :: u
      = (s :: sep).intercalate (ys.map enc) ++ close :: v) :
    xs = ys ∧ u = v := by
  cases xs with
  | nil =>
      cases ys with
      | nil =>
          injection h with _ huv
          exact ⟨rfl, huv⟩
      | cons y ys =>
          obtain ⟨c, cs, hy, hc⟩ := hstart y (hys y (.head _))
          rw [intercalate_cons_eq, hy] at h
          injection h with hc' _
          exact absurd hc'.symm hc
  | cons x xs =>
      cases ys with
      | nil =>
          obtain ⟨c, cs, hx, hc⟩ := hstart x (hxs x (.head _)).1
          rw [intercalate_cons_eq, hx] at h
          injection h with hc' _
          exact absurd hc' hc
      | cons y ys =>
          obtain ⟨hxy, huv⟩ := cons_inj hsep (ends_of_close hne hclose)
            (fun z hz => (hxs z hz).2) hys ⟨u, rfl⟩ ⟨v, rfl⟩ h
          injection huv with _ huv
          exact ⟨hxy, huv⟩

end FormScript.PrefixCode
