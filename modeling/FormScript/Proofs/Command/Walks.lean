/-
Where a path leads, and through what. A path is walked step by step, and a double dot
takes a step back, so the places that it passes through need not lie above each other.
Still, whatever lies above the place of a path is itself on the way, or there in any case:
the root, the working directory or a directory above that (`Path.exists_of_prefix_place`).

A walk gets to the end exactly if the path is clear and leads through directories
(`Files.walk_eq_ok_iff`). On a clear path only a missing directory can stop it
(`Files.walk_error_of_clear`).
-/
import FormScript.Files
import Mathlib.Data.List.Induction

namespace FormScript

-- ================================================================= places

namespace Path

/-- One path is another, or leads to a directory that the other passes through. -/
def AtOrAbove (q p : Path) : Prop := q.absolute = p.absolute ∧ q.parts <+: p.parts

/-- A path to a directory that another path passes through. -/
def Above (q p : Path) : Prop :=
  q.absolute = p.absolute ∧ ∃ name rest, p.parts = q.parts ++ name :: rest

theorem Above.atOrAbove {q p : Path} (h : q.Above p) : q.AtOrAbove p := by
  obtain ⟨habsolute, name, rest, hparts⟩ := h
  exact ⟨habsolute, hparts ▸ List.prefix_append _ _⟩

theorem atOrAbove_refl (p : Path) : p.AtOrAbove p := ⟨rfl, List.prefix_rfl⟩

theorem AtOrAbove.trans {r q p : Path} (hr : r.AtOrAbove q) (hq : q.AtOrAbove p) :
    r.AtOrAbove p :=
  ⟨hr.1.trans hq.1, hr.2.trans hq.2⟩

theorem AtOrAbove.eq_or_above {q p : Path} (h : q.AtOrAbove p) : q = p ∨ q.Above p := by
  obtain ⟨habsolute, rest, hparts⟩ := h
  cases rest with
  | nil =>
      left
      rw [List.append_nil] at hparts
      cases q
      cases p
      simp_all
  | cons name rest => exact .inr ⟨habsolute, name, rest, hparts.symm⟩

/-- What is above a path with one more name is the path without it, or above that. -/
theorem above_child_iff {q p : Path} {name : String} : q.Above (p.child name) ↔ q.AtOrAbove p := by
  constructor
  · intro h
    obtain ⟨habsolute, other, rest, hparts⟩ := h
    refine ⟨habsolute, ?_⟩
    replace hparts : p.parts ++ [name] = q.parts ++ other :: rest := hparts
    have hfront : q.parts <+: p.parts ++ [name] := hparts ▸ List.prefix_append _ _
    rcases List.prefix_concat_iff.1 hfront with heq | hfront
    · rw [heq] at hparts
      simp at hparts
    · exact hfront
  · intro h
    obtain ⟨habsolute, rest, hparts⟩ := h
    refine ⟨habsolute, ?_⟩
    show ∃ other more, p.parts ++ [name] = q.parts ++ other :: more
    rw [← hparts, List.append_assoc]
    cases rest with
    | nil => exact ⟨name, [], rfl⟩
    | cons other more => exact ⟨other, more ++ [name], rfl⟩

theorem place_child (p : Path) (name : String) : (p.child name).place = stepTo p.place name := by
  unfold place child
  rw [List.foldl_append]
  rfl

/-- A step adds a name to a place, or leads back along it. -/
theorem stepTo_cases (place : List String) (name : String) :
    (∃ last, stepTo place name = place ++ [last]) ∨ stepTo place name <+: place := by
  unfold stepTo up
  by_cases hback : name = parentName
  · rw [if_pos hback]
    by_cases hroot : place == [rootName]
    · rw [if_pos hroot]
      exact .inr List.prefix_rfl
    · rw [if_neg hroot]
      by_cases hparents : place.all (· == parentName)
      · rw [if_pos hparents]
        exact .inl ⟨_, rfl⟩
      · rw [if_neg hparents]
        exact .inr (List.dropLast_prefix place)
  · rw [if_neg hback]
    exact .inl ⟨_, rfl⟩

theorem prefix_stepTo {place x : List String} {name : String} (h : x <+: stepTo place name) :
    x = stepTo place name ∨ x <+: place := by
  rcases stepTo_cases place name with ⟨last, hstep⟩ | hstep
  · rw [hstep] at h ⊢
    exact List.prefix_concat_iff.1 h
  · exact .inr (h.trans hstep)

/-- A directory that is there in any case: the root, the working directory or one above
that. -/
def IsGiven (place : List String) : Prop :=
  place = [rootName] ∨ ∀ name ∈ place, name = parentName

theorem isGiven_origin (p : Path) : IsGiven p.origin := by
  unfold origin
  split
  · exact .inl rfl
  · exact .inr (by simp)

/-- Whatever is above the place of a path is given or on the way. -/
theorem exists_of_prefix_place {p : Path} {x : List String} (h : x <+: p.place) :
    IsGiven x ∨ ∃ q : Path, q.AtOrAbove p ∧ q.place = x := by
  obtain ⟨absolute, parts⟩ := p
  induction parts using List.reverseRecOn with
  | nil =>
      left
      have horigin : x <+: (⟨absolute, []⟩ : Path).origin := h
      rcases isGiven_origin ⟨absolute, []⟩ with hroot | hparents
      · rw [hroot] at horigin
        rcases List.prefix_concat_iff.1 (show x <+: [] ++ [rootName] from horigin) with heq | hnil
        · exact .inl heq
        · rw [List.prefix_nil.1 hnil]
          exact .inr (by simp)
      · exact .inr fun name hname => hparents name (horigin.subset hname)
  | append_singleton parts name ih =>
      have hplace : (⟨absolute, parts ++ [name]⟩ : Path).place
          = stepTo (⟨absolute, parts⟩ : Path).place name := place_child ⟨absolute, parts⟩ name
      have hstep := h
      rw [hplace] at hstep
      rcases prefix_stepTo hstep with heq | hfront
      · exact .inr ⟨_, atOrAbove_refl _, hplace.trans heq.symm⟩
      · rcases ih hfront with hgiven | ⟨q, hq, hx⟩
        · exact .inl hgiven
        · exact .inr ⟨q, ⟨hq.1, hq.2.trans (List.prefix_append _ _)⟩, hx⟩

-- ================================================================== texts

theorem utf8ByteSize_intercalate_le (sep : String) (xs ys : List String) :
    (sep.intercalate xs).utf8ByteSize ≤ (sep.intercalate (xs ++ ys)).utf8ByteSize := by
  induction xs with
  | nil => exact Nat.zero_le _
  | cons x xs ih =>
      cases xs with
      | nil =>
          cases ys with
          | nil => exact Nat.le_refl _
          | cons y ys =>
              rw [List.singleton_append, String.intercalate_cons_of_ne_nil (List.cons_ne_nil y ys),
                String.utf8ByteSize_append, String.utf8ByteSize_append, String.intercalate_singleton]
              omega
      | cons x' xs =>
          have hmore : x' :: xs ++ ys ≠ [] := List.cons_ne_nil x' (xs ++ ys)
          rw [List.cons_append, String.intercalate_cons_of_ne_nil (List.cons_ne_nil x' xs),
            String.intercalate_cons_of_ne_nil hmore,
            String.utf8ByteSize_append, String.utf8ByteSize_append, String.utf8ByteSize_append,
            String.utf8ByteSize_append]
          exact Nat.add_le_add_left ih _

/-- A path is not too long if one further down is not. -/
theorem AtOrAbove.text_short {q p : Path} (h : q.AtOrAbove p)
    (hp : p.text.utf8ByteSize ≤ Files.maxPath) : q.text.utf8ByteSize ≤ Files.maxPath := by
  obtain ⟨absolute, front⟩ := q
  obtain ⟨absolute', parts⟩ := p
  obtain ⟨rfl, rest, rfl⟩ := h
  have hle := utf8ByteSize_intercalate_le "/" front rest
  cases absolute with
  | true =>
      simp only [text, String.utf8ByteSize_append] at hp ⊢
      omega
  | false =>
      cases front with
      | nil => decide
      | cons name front =>
          simp only [text, List.cons_append] at hp ⊢
          exact Nat.le_trans hle hp

end Path

-- ================================================================ walking

namespace Files

variable {α : Type} {fs : Files α} {p : Path}

theorem isDirectory_iff {place : List String} :
    fs.isDirectory place ↔ Path.IsGiven place ∨ (∃ directory ∈ fs.directories, place <+: directory)
      ∨ ∃ entry ∈ fs.files, place <+: entry.1 ∧ place ≠ entry.1 := by
  unfold isDirectory Path.IsGiven
  simp only [Bool.or_eq_true, beq_iff_eq, List.all_eq_true, List.any_eq_true, Bool.and_eq_true,
    bne_iff_ne, List.isPrefixOf_iff_prefix, or_assoc]

theorem isDirectory_of_isGiven {place : List String} (h : Path.IsGiven place) :
    fs.isDirectory place :=
  isDirectory_iff.2 (.inl h)

/-- From a place a step can be made along a name. -/
structure Enters (fs : Files α) (place : List String) (name : String) : Prop where
  no_file : fs.isFile place = false
  directory : fs.isDirectory place
  short : name.utf8ByteSize ≤ maxName

theorem enter_eq_ok_iff {place next : List String} {name : String} :
    fs.enter place name = .ok next ↔ fs.Enters place name ∧ next = Path.stepTo place name := by
  unfold enter
  by_cases hfile : fs.isFile place
  · rw [if_pos hfile]
    constructor
    · intro h
      cases h
    · intro h
      rw [h.1.no_file] at hfile
      cases hfile
  · rw [if_neg hfile]
    by_cases hdirectory : fs.isDirectory place
    · rw [if_neg (by simp [hdirectory])]
      by_cases hshort : name.utf8ByteSize ≤ maxName
      · rw [if_neg (by omega)]
        constructor
        · intro h
          cases h
          exact ⟨⟨by simpa using hfile, hdirectory, hshort⟩, rfl⟩
        · intro h
          rw [h.2]
      · rw [if_pos (by omega)]
        constructor
        · intro h
          cases h
        · intro h
          exact absurd h.1.short hshort
    · rw [if_pos (by simp [hdirectory])]
      constructor
      · intro h
        cases h
      · intro h
        exact absurd h.1.directory hdirectory

/-- A step fails over a missing directory unless there is a file, or the name is too
long. -/
theorem enter_error {place : List String} {name : String} {fault : FileFault}
    (hfile : fs.isFile place = false) (hshort : name.utf8ByteSize ≤ maxName)
    (h : fs.enter place name = .error fault) : fault = .missing := by
  unfold enter at h
  rw [if_neg (by simp [hfile])] at h
  by_cases hdirectory : fs.isDirectory place
  · rw [if_neg (by simp [hdirectory]), if_neg (by omega)] at h
    cases h
  · rw [if_pos (by simp [hdirectory])] at h
    cases h
    rfl

/-- All steps along some names can be made if each of them can, where it is made. -/
theorem foldlM_enter_ok_iff {names start place : List String} :
    names.foldlM fs.enter start = .ok place
      ↔ (∀ front name rest, names = front ++ name :: rest →
          fs.Enters (front.foldl Path.stepTo start) name)
        ∧ place = names.foldl Path.stepTo start := by
  induction names generalizing start with
  | nil =>
      constructor
      · intro h
        cases h
        exact ⟨fun front name rest h => by simp at h, rfl⟩
      · intro h
        rw [h.2]
        rfl
  | cons name names ih =>
      rw [List.foldlM_cons, List.foldl_cons]
      cases henter : fs.enter start name with
      | error fault =>
          constructor
          · intro h
            cases h
          · intro h
            have hfirst : fs.Enters start name := h.1 [] name names rfl
            rw [enter_eq_ok_iff.2 ⟨hfirst, rfl⟩] at henter
            cases henter
      | ok next =>
          obtain ⟨hfirst, rfl⟩ := enter_eq_ok_iff.1 henter
          refine ih.trans (and_congr_left fun _ => ?_)
          constructor
          · intro h front other rest hnames
            cases front with
            | nil =>
                cases hnames
                exact hfirst
            | cons _ front =>
                cases hnames
                exact h front other rest rfl
          · intro h front other rest hnames
            exact h (name :: front) other rest (by rw [hnames]; rfl)

/-- Where no file is in the way and no name is too long, only a missing directory stops
the way. -/
theorem foldlM_enter_error {names start : List String} {fault : FileFault}
    (hway : ∀ front name rest, names = front ++ name :: rest →
      fs.isFile (front.foldl Path.stepTo start) = false ∧ name.utf8ByteSize ≤ maxName)
    (h : names.foldlM fs.enter start = .error fault) : fault = .missing := by
  induction names generalizing start with
  | nil => cases h
  | cons name names ih =>
      rw [List.foldlM_cons] at h
      obtain ⟨hfile, hshort⟩ := hway [] name names rfl
      cases henter : fs.enter start name with
      | error fault' =>
          rw [henter] at h
          cases h
          exact enter_error hfile hshort henter
      | ok next =>
          rw [henter] at h
          obtain ⟨-, rfl⟩ := enter_eq_ok_iff.1 henter
          refine ih (fun front other rest hnames => ?_) h
          exact hway (name :: front) other rest (by rw [hnames]; rfl)

/-- A path is clear if neither it nor a name of it is too long, and no file is where it
passes through. -/
structure Clear (fs : Files α) (p : Path) : Prop where
  text_short : p.text.utf8ByteSize ≤ maxPath
  names_short : ∀ name ∈ p.parts, name.utf8ByteSize ≤ maxName
  above_free : ∀ q : Path, q.Above p → fs.isFile q.place = false

/-- A path is walked to its end if it is clear and passes through directories. -/
theorem walk_eq_ok_iff {place : List String} :
    fs.walk p = .ok place
      ↔ fs.Clear p ∧ (∀ q : Path, q.Above p → fs.isDirectory q.place) ∧ place = p.place := by
  unfold walk
  by_cases htext : p.text.utf8ByteSize ≤ maxPath
  · rw [if_neg (by omega), foldlM_enter_ok_iff]
    constructor
    · intro h
      obtain ⟨hsteps, hplace⟩ := h
      refine ⟨⟨htext, ?_, ?_⟩, ?_, hplace⟩
      · intro name hname
        obtain ⟨front, rest, hparts⟩ := List.append_of_mem hname
        exact (hsteps front name rest hparts).short
      · intro q hq
        obtain ⟨habsolute, name, rest, hparts⟩ := hq
        have hstep := hsteps q.parts name rest hparts
        rw [Path.place, Path.origin, habsolute]
        exact hstep.no_file
      · intro q hq
        obtain ⟨habsolute, name, rest, hparts⟩ := hq
        have hstep := hsteps q.parts name rest hparts
        rw [Path.place, Path.origin, habsolute]
        exact hstep.directory
    · intro h
      obtain ⟨hclear, hdirectories, hplace⟩ := h
      refine ⟨fun front name rest hparts => ?_, hplace⟩
      have habove : (⟨p.absolute, front⟩ : Path).Above p := ⟨rfl, name, rest, hparts⟩
      have hmem : name ∈ p.parts := hparts ▸ List.mem_append_right _ (.head _)
      exact ⟨hclear.above_free _ habove, hdirectories _ habove, hclear.names_short name hmem⟩
  · rw [if_pos (by omega)]
    constructor
    · intro h
      cases h
    · intro h
      exact absurd h.1.text_short htext

theorem walk_error_of_clear {fault : FileFault} (hclear : fs.Clear p)
    (h : fs.walk p = .error fault) : fault = .missing := by
  unfold walk at h
  have htext := hclear.text_short
  rw [if_neg (by omega)] at h
  refine foldlM_enter_error (fun front name rest hparts => ?_) h
  have habove : (⟨p.absolute, front⟩ : Path).Above p := ⟨rfl, name, rest, hparts⟩
  have hmem : name ∈ p.parts := hparts ▸ List.mem_append_right _ (.head _)
  exact ⟨hclear.above_free _ habove, hclear.names_short name hmem⟩

end Files

end FormScript
