/-
What writing a file does to the files. Writing makes the directories above the file that
are missing, puts the file in its place and changes nothing else (`Files.written_of_write`);
and it succeeds exactly for a path that can be written (`Files.write_ok_iff`), provided
that there is something to write. If there is not, a blank file is left, with no other
change than before (`Files.write_unfilled`).

# Making directories

Making the directories of a path never removes one, never touches a file, and adds only
directories of the path (`Files.Made`). That is all that is needed to read off from a
success what has been done. For the success itself one has to follow the recursion: a
directory that cannot be made since one above it is missing is made after that one
(`Files.ensureAll_ok`).
-/
import FormScript.Proofs.Command.Walks

namespace FormScript.Files

variable {α : Type} {fs : Files α} {p : Path}

-- ============================================================ directories

/-- The files with one more directory. -/
def withDirectory (fs : Files α) (place : List String) : Files α :=
  { fs with directories := fs.directories ++ [place] }

theorem isDirectory_withDirectory {place x : List String} :
    (fs.withDirectory place).isDirectory x ↔ fs.isDirectory x ∨ x <+: place := by
  rw [isDirectory_iff, isDirectory_iff]
  unfold withDirectory
  simp only [List.mem_append, List.mem_singleton]
  constructor
  · intro h
    rcases h with h | ⟨directory, hold | hnew, h⟩ | h
    · exact .inl (.inl h)
    · exact .inl (.inr (.inl ⟨directory, hold, h⟩))
    · exact .inr (hnew ▸ h)
    · exact .inl (.inr (.inr h))
  · intro h
    rcases h with (h | ⟨directory, hold, h⟩ | h) | h
    · exact .inl h
    · exact .inr (.inl ⟨directory, .inl hold, h⟩)
    · exact .inr (.inr h)
    · exact .inr (.inl ⟨place, .inr rfl, h⟩)

/-- Directories have been made along a path: no file has changed, no directory is gone,
and those that are new are on the way of the path. -/
structure Made (p : Path) (fs fs' : Files α) : Prop where
  files_eq : fs'.files = fs.files
  grows : ∀ place, fs.isDirectory place → fs'.isDirectory place
  only : ∀ place, fs'.isDirectory place →
    fs.isDirectory place ∨ ∃ q : Path, q.AtOrAbove p ∧ q.place = place

theorem made_refl (p : Path) (fs : Files α) : Made p fs fs := ⟨rfl, fun _ h => h, fun _ h => .inl h⟩

theorem Made.trans {q : Path} {fs₁ fs₂ : Files α} (hq : q.AtOrAbove p) (h₁ : Made q fs fs₁)
    (h₂ : Made p fs₁ fs₂) : Made p fs fs₂ := by
  refine ⟨h₂.files_eq.trans h₁.files_eq, fun place h => h₂.grows place (h₁.grows place h), ?_⟩
  intro place h
  rcases h₂.only place h with h | h
  · rcases h₁.only place h with h | ⟨r, hr, hplace⟩
    · exact .inl h
    · exact .inr ⟨r, hr.trans hq, hplace⟩
  · exact .inr h

theorem made_withDirectory (p : Path) (fs : Files α) : Made p fs (fs.withDirectory p.place) := by
  refine ⟨rfl, fun place h => isDirectory_withDirectory.2 (.inl h), ?_⟩
  intro place h
  rcases isDirectory_withDirectory.1 h with h | h
  · exact .inl h
  · rcases Path.exists_of_prefix_place h with hgiven | hway
    · exact .inl (isDirectory_of_isGiven hgiven)
    · exact .inr hway

theorem Made.isFile_eq {fs' : Files α} (h : Made p fs fs') (place : List String) :
    fs'.isFile place = fs.isFile place := by
  unfold isFile get?
  rw [h.files_eq]

theorem Made.clear {q : Path} {fs' : Files α} (h : Made q fs fs') (hclear : fs.Clear p) :
    fs'.Clear p :=
  ⟨hclear.text_short, hclear.names_short,
    fun r hr => (h.isFile_eq _).trans (hclear.above_free r hr)⟩

-- ================================================================= making

theorem makeDirectory_of_error {fault : FileFault} (h : fs.walk p = .error fault) :
    fs.makeDirectory p = .error fault := by
  unfold makeDirectory
  rw [h]
  rfl

theorem makeDirectory_of_exists {place : List String} (h : fs.walk p = .ok place)
    (hexists : fs.exists? place) : fs.makeDirectory p = .error .present := by
  unfold makeDirectory
  rw [h]
  simp only [bind, Except.bind, hexists, if_true]
  rfl

theorem makeDirectory_of_free {place : List String} (h : fs.walk p = .ok place)
    (hfree : fs.exists? place = false) : fs.makeDirectory p = .ok (fs.withDirectory place) := by
  unfold makeDirectory
  rw [h]
  simp only [bind, Except.bind, hfree]
  rfl

theorem made_of_makeDirectory {fs' : Files α} (h : fs.makeDirectory p = .ok fs') :
    Made p fs fs' := by
  cases hwalk : fs.walk p with
  | error fault =>
      rw [makeDirectory_of_error hwalk] at h
      cases h
  | ok place =>
      obtain ⟨-, -, rfl⟩ := walk_eq_ok_iff.1 hwalk
      cases hexists : fs.exists? p.place with
      | true =>
          rw [makeDirectory_of_exists hwalk hexists] at h
          cases h
      | false =>
          rw [makeDirectory_of_free hwalk hexists] at h
          cases h
          exact made_withDirectory p fs

theorem made_of_ensureOne {fs' : Files α} (h : ensureOne p fs = .ok () fs') : Made p fs fs' := by
  unfold ensureOne at h
  cases hmake : fs.makeDirectory p with
  | ok made =>
      rw [hmake] at h
      cases h
      exact made_of_makeDirectory hmake
  | error fault =>
      rw [hmake] at h
      by_cases hthere : fs.leadsToDirectory p
      · simp only [hthere, if_true] at h
        cases h
        exact made_refl p fs
      · simp only [hthere] at h
        cases h

theorem leadsToDirectory_of_walk (h : fs.walk p = .ok p.place)
    (hdirectory : fs.isDirectory p.place) : fs.leadsToDirectory p := by
  have hlocate : fs.locate p = .ok p.place := by
    unfold locate exists?
    rw [h]
    simp only [bind, Except.bind, hdirectory, Bool.or_true, if_true]
    rfl
  unfold leadsToDirectory
  rw [hlocate]
  exact hdirectory

/-- A directory is made where those above it are there and no file is in its place. -/
theorem ensureOne_ok (hclear : fs.Clear p)
    (habove : ∀ q : Path, q.Above p → fs.isDirectory q.place) (hfree : fs.isFile p.place = false) :
    ∃ fs', ensureOne p fs = .ok () fs' ∧ fs'.isDirectory p.place := by
  have hwalk : fs.walk p = .ok p.place := walk_eq_ok_iff.2 ⟨hclear, habove, rfl⟩
  unfold ensureOne
  by_cases hdirectory : fs.isDirectory p.place
  · have hexists : fs.exists? p.place := by simp [exists?, hdirectory]
    rw [makeDirectory_of_exists hwalk hexists]
    exact ⟨fs, if_pos (leadsToDirectory_of_walk hwalk hdirectory), hdirectory⟩
  · have hexists : fs.exists? p.place = false := by simp [exists?, hfree, hdirectory]
    rw [makeDirectory_of_free hwalk hexists]
    exact ⟨_, rfl, isDirectory_withDirectory.2 (.inr List.prefix_rfl)⟩

-- ========================================================== making them all

/-- The path whose names are given from the last one on. -/
def pathOf (absolute : Bool) (reversed : List String) : Path := ⟨absolute, reversed.reverse⟩

theorem pathOf_cons (absolute : Bool) (name : String) (above : List String) :
    pathOf absolute (name :: above) = (pathOf absolute above).child name := by
  unfold pathOf Path.child
  rw [List.reverse_cons]

variable {absolute : Bool} {name : String} {above : List String}

theorem ensureAll_of_missing
    (h : fs.makeDirectory (pathOf absolute (name :: above)) = .error .missing) :
    ensureAll absolute (name :: above) fs
      = (ensureAll absolute above >>= fun _ => ensureOne (pathOf absolute (name :: above))) fs := by
  unfold pathOf at h ⊢
  rw [ensureAll]
  simp only [h, bind, EStateM.bind]
  cases ensureAll absolute above fs <;> rfl

theorem ensureAll_of_not_missing
    (h : fs.makeDirectory (pathOf absolute (name :: above)) ≠ .error .missing) :
    ensureAll absolute (name :: above) fs = ensureOne (pathOf absolute (name :: above)) fs := by
  unfold pathOf at h ⊢
  rw [ensureAll]
  dsimp only
  split
  · exact absurd ‹_› h
  · rfl

theorem bind_eq_ok_iff {β γ : Type} {x : ChangeM α β} {f : β → ChangeM α γ} {c : γ}
    {fs' : Files α} :
    (x >>= f) fs = .ok c fs' ↔ ∃ b fs₁, x fs = .ok b fs₁ ∧ f b fs₁ = .ok c fs' := by
  show EStateM.bind x f fs = .ok c fs' ↔ _
  unfold EStateM.bind
  cases x fs <;> simp

theorem made_of_ensureAll {reversed : List String} {fs' : Files α}
    (h : ensureAll absolute reversed fs = .ok () fs') : Made (pathOf absolute reversed) fs fs' := by
  induction reversed generalizing fs fs' with
  | nil => exact made_of_ensureOne h
  | cons name above ih =>
      by_cases hmake : fs.makeDirectory (pathOf absolute (name :: above)) = .error .missing
      · rw [ensureAll_of_missing hmake] at h
        obtain ⟨_, fs₁, habove, hone⟩ := bind_eq_ok_iff.1 h
        refine (ih habove).trans ?_ (made_of_ensureOne hone)
        rw [pathOf_cons]
        exact (Path.above_child_iff.2 (Path.atOrAbove_refl _)).atOrAbove
      · rw [ensureAll_of_not_missing hmake] at h
        exact made_of_ensureOne h

theorem Clear.of_child (h : fs.Clear (p.child name)) : fs.Clear p := by
  have habove : p.Above (p.child name) := Path.above_child_iff.2 (Path.atOrAbove_refl p)
  refine ⟨habove.atOrAbove.text_short h.text_short, ?_, ?_⟩
  · intro other hother
    exact h.names_short other (List.mem_append_left _ hother)
  · intro q hq
    exact h.above_free q (Path.above_child_iff.2 hq.atOrAbove)

theorem Clear.isFile_parent (h : fs.Clear (p.child name)) : fs.isFile p.place = false :=
  h.above_free p (Path.above_child_iff.2 (Path.atOrAbove_refl p))

/-- All directories of a clear path can be made, unless a file is in the place of the
last one. -/
theorem ensureAll_ok {reversed : List String} (hclear : fs.Clear (pathOf absolute reversed))
    (hfree : fs.isFile (pathOf absolute reversed).place = false) :
    ∃ fs', ensureAll absolute reversed fs = .ok () fs'
      ∧ ∀ q : Path, q.AtOrAbove (pathOf absolute reversed) → fs'.isDirectory q.place := by
  -- once those above are there, the last one is made and nothing is lost
  have hlast {p : Path} {fs₁ : Files α} (hclear : fs₁.Clear p)
      (habove : ∀ q : Path, q.Above p → fs₁.isDirectory q.place)
      (hfree : fs₁.isFile p.place = false) :
      ∃ fs', ensureOne p fs₁ = .ok () fs'
        ∧ ∀ q : Path, q.AtOrAbove p → fs'.isDirectory q.place := by
    obtain ⟨fs', hone, hplace⟩ := ensureOne_ok hclear habove hfree
    refine ⟨fs', hone, fun q hq => ?_⟩
    rcases hq.eq_or_above with rfl | hq
    · exact hplace
    · exact (made_of_ensureOne hone).grows _ (habove q hq)
  induction reversed with
  | nil =>
      refine hlast hclear (fun q hq => ?_) hfree
      obtain ⟨-, name, rest, hparts⟩ := hq
      simp at hparts
  | cons name above ih =>
      by_cases hmake : fs.makeDirectory (pathOf absolute (name :: above)) = .error .missing
      · rw [ensureAll_of_missing hmake]
        rw [pathOf_cons] at hclear hfree ⊢
        obtain ⟨fs₁, hall, hdirectories⟩ := ih hclear.of_child hclear.isFile_parent
        have hmade := made_of_ensureAll hall
        obtain ⟨fs', hone, hway⟩ := hlast (hmade.clear hclear)
          (fun q hq => hdirectories q (Path.above_child_iff.1 hq))
          ((hmade.isFile_eq _).trans hfree)
        exact ⟨fs', bind_eq_ok_iff.2 ⟨(), fs₁, hall, hone⟩, hway⟩
      · rw [ensureAll_of_not_missing hmake]
        cases hwalk : fs.walk (pathOf absolute (name :: above)) with
        | error fault =>
            have hfault := walk_error_of_clear hclear hwalk
            rw [hfault] at hwalk
            exact absurd (makeDirectory_of_error hwalk) hmake
        | ok place => exact hlast hclear (walk_eq_ok_iff.1 hwalk).2.1 hfree

-- ================================================================ writing

theorem get?_put_self (fs : Files α) (place : List String) (file : α) :
    (fs.put place file).get? place = some file := by
  unfold get? put
  rw [List.lookup_append, List.lookup_eq_none_iff.2, Option.none_or]
  · simp
  · intro entry hentry
    have hkey := (List.mem_filter.1 hentry).2
    simpa [bne_iff_ne, ne_comm] using hkey

theorem get?_put_of_ne {place x : List String} {file : α} (h : x ≠ place) :
    (fs.put place file).get? x = fs.get? x := by
  have hfilter (files : List (List String × α)) :
      (files.filter (·.1 != place)).lookup x = files.lookup x := by
    induction files with
    | nil => rfl
    | cons entry files ih =>
        obtain ⟨key, value⟩ := entry
        by_cases hkey : key = place
        · rw [List.filter_cons_of_neg (by simp [hkey]), ih, List.lookup_cons, hkey,
            beq_false_of_ne h]
        · rw [List.filter_cons_of_pos (by simp [hkey]), List.lookup_cons, List.lookup_cons, ih]
  have hlast : [(place, file)].lookup x = none := by
    rw [List.lookup_cons, beq_false_of_ne h]
    rfl
  unfold get? put
  rw [List.lookup_append, hfilter, hlast, Option.or_none]

/-- A file brings the directories above it into being. -/
theorem isDirectory_put {place x : List String} {file : α} :
    (fs.put place file).isDirectory x ↔ fs.isDirectory x ∨ x <+: place ∧ x ≠ place := by
  rw [isDirectory_iff, isDirectory_iff]
  unfold put
  simp only [List.mem_append, List.mem_singleton, List.mem_filter, bne_iff_ne]
  constructor
  · intro h
    rcases h with h | h | ⟨entry, hold | hnew, h⟩
    · exact .inl (.inl h)
    · exact .inl (.inr (.inl h))
    · exact .inl (.inr (.inr ⟨entry, hold.1, h⟩))
    · rw [hnew] at h
      exact .inr h
  · intro h
    rcases h with (h | h | ⟨entry, hold, h⟩) | h
    · exact .inl h
    · exact .inr (.inl h)
    · -- an entry that is replaced leaves its place to the new one
      by_cases hplace : entry.1 = place
      · exact .inr (.inr ⟨(place, file), .inr rfl, hplace ▸ h⟩)
      · exact .inr (.inr ⟨entry, .inl ⟨hold, hplace⟩, h⟩)
    · exact .inr (.inr ⟨(place, file), .inr rfl, h⟩)

/-- A path at which a file can be written: it is clear, leads to no directory, and does
not come back to a place that it has passed through. -/
structure Writable (fs : Files α) (p : Path) : Prop extends fs.Clear p where
  no_directory : fs.isDirectory p.place = false
  apart : ∀ q : Path, q.Above p → q.place ≠ p.place

/-- A file has been written at a path: it is there, all other files are as they were, and
so are the directories, apart from those that the path passes through, which are there. -/
structure Written (fs : Files α) (p : Path) (file : α) (fs' : Files α) : Prop where
  holds : fs'.get? p.place = some file
  others : ∀ place, place ≠ p.place → fs'.get? place = fs.get? place
  directories : ∀ place,
    fs'.isDirectory place ↔ fs.isDirectory place ∨ ∃ q : Path, q.Above p ∧ q.place = place

/-- A path that leads to no directory has a last name. -/
theorem exists_child_of_not_directory (h : fs.isDirectory p.place = false) :
    ∃ (parent : Path) (name : String), p = parent.child name := by
  obtain ⟨absolute, parts⟩ := p
  rcases List.eq_nil_or_concat parts with hnil | ⟨front, name, hparts⟩
  · have horigin : fs.isDirectory (⟨absolute, parts⟩ : Path).place := by
      rw [hnil]
      exact isDirectory_of_isGiven (Path.isGiven_origin _)
    rw [h] at horigin
    cases horigin
  · rw [List.concat_eq_append] at hparts
    exact ⟨⟨absolute, front⟩, name, by rw [hparts]; rfl⟩

theorem pathOf_above_child (p : Path) (name : String) :
    pathOf (p.child name).absolute (p.child name).parts.reverse.tail = p := by
  unfold pathOf Path.child
  rw [List.reverse_concat, List.tail_cons, List.reverse_reverse]

variable {blank : α} {contents : Except HostError α}

theorem fill_eq_ok_iff {place : List String} {fs' : Files α} :
    fill place blank contents fs = .ok () fs'
      ↔ ∃ file, contents = .ok file ∧ fs' = fs.put place file := by
  unfold fill
  cases contents with
  | error e =>
      constructor
      · intro h
        cases h
      · rintro ⟨file, h, -⟩
        cases h
  | ok file =>
      constructor
      · intro h
        cases h
        exact ⟨file, rfl, rfl⟩
      · rintro ⟨file, h, rfl⟩
        cases h
        rfl

/-- A file that can be reached, with no directory in its place, is opened. -/
theorem overwrite_eq_fill (hwalk : fs.walk p = .ok p.place)
    (hdirectory : fs.isDirectory p.place = false) :
    overwrite p blank contents fs = fill p.place blank contents fs := by
  unfold overwrite
  rw [hwalk]
  simp only [hdirectory]
  rfl

theorem overwrite_eq_ok_iff {fs' : Files α} :
    overwrite p blank contents fs = .ok () fs'
      ↔ fs.walk p = .ok p.place ∧ fs.isDirectory p.place = false
        ∧ ∃ file, contents = .ok file ∧ fs' = fs.put p.place file := by
  cases hwalk : fs.walk p with
  | error fault =>
      unfold overwrite
      rw [hwalk]
      constructor
      · intro h
        cases h
      · intro h
        cases h.1
  | ok place =>
      obtain ⟨-, -, rfl⟩ := walk_eq_ok_iff.1 hwalk
      cases hdirectory : fs.isDirectory p.place with
      | true =>
          unfold overwrite
          rw [hwalk]
          simp only [hdirectory, if_true]
          constructor
          · intro h
            cases h
          · intro h
            cases h.2.1
      | false =>
          rw [overwrite_eq_fill hwalk hdirectory, fill_eq_ok_iff]
          constructor
          · intro h
            exact ⟨rfl, rfl, h⟩
          · intro h
            exact h.2.2

/-- The file at a path can be opened once these directories have been made above it. -/
structure Opened (parent : Path) (name : String) (fs fs₁ : Files α) : Prop where
  made : Made parent fs fs₁
  walk_eq : fs₁.walk (parent.child name) = .ok (parent.child name).place
  no_directory : fs₁.isDirectory (parent.child name).place = false

/-- A file is written after the directories above it have been made. -/
theorem write_cases {fs' : Files α} (h : write p blank contents fs = .ok () fs') :
    ∃ (parent : Path) (name : String) (fs₁ : Files α) (file : α), p = parent.child name
      ∧ Opened parent name fs fs₁ ∧ contents = .ok file ∧ fs' = fs₁.put p.place file := by
  obtain ⟨_, fs₁, hall, hover⟩ := bind_eq_ok_iff.1 h
  obtain ⟨hwalk, hdirectory, file, hfile, hput⟩ := overwrite_eq_ok_iff.1 hover
  obtain ⟨parent, name, rfl⟩ := exists_child_of_not_directory hdirectory
  have hmade := made_of_ensureAll hall
  rw [pathOf_above_child] at hmade
  exact ⟨parent, name, fs₁, file, rfl, ⟨hmade, hwalk, hdirectory⟩, hfile, hput⟩

/-- At a path that can be written the file is opened, whatever then gets into it. -/
theorem write_eq_fill (blank : α) (contents : Except HostError α) (h : fs.Writable p) :
    ∃ (parent : Path) (name : String) (fs₁ : Files α), p = parent.child name
      ∧ Opened parent name fs fs₁
      ∧ write p blank contents fs = fill p.place blank contents fs₁ := by
  obtain ⟨parent, name, rfl⟩ := exists_child_of_not_directory h.no_directory
  have hparent := pathOf_above_child parent name
  have hclear := h.toClear.of_child
  have hfree := h.toClear.isFile_parent
  rw [← hparent] at hclear hfree
  obtain ⟨fs₁, hall, hdirectories⟩ := ensureAll_ok hclear hfree
  have hmade := made_of_ensureAll hall
  rw [hparent] at hdirectories hmade
  have hwalk : fs₁.walk (parent.child name) = .ok (parent.child name).place :=
    walk_eq_ok_iff.2 ⟨hmade.clear h.toClear,
      fun q hq => hdirectories q (Path.above_child_iff.1 hq), rfl⟩
  have hdirectory : fs₁.isDirectory (parent.child name).place = false := by
    rw [← Bool.not_eq_true]
    intro hafter
    rcases hmade.only _ hafter with hbefore | ⟨q, hq, hplace⟩
    · rw [h.no_directory] at hbefore
      cases hbefore
    · exact h.apart q (Path.above_child_iff.2 hq) hplace
  refine ⟨parent, name, fs₁, rfl, ⟨hmade, hwalk, hdirectory⟩, ?_⟩
  rw [← overwrite_eq_fill hwalk hdirectory]
  show EStateM.bind _ _ fs = _
  unfold EStateM.bind
  rw [hall]

theorem Opened.writable {parent : Path} {name : String} {fs₁ : Files α}
    (h : Opened parent name fs fs₁) : fs.Writable (parent.child name) := by
  obtain ⟨hclear, habove, -⟩ := walk_eq_ok_iff.1 h.walk_eq
  have hdirectory := h.no_directory
  refine ⟨⟨hclear.text_short, hclear.names_short, fun q hq => ?_⟩, ?_, fun q hq heq => ?_⟩
  · exact (h.made.isFile_eq _).symm.trans (hclear.above_free q hq)
  · rw [← Bool.not_eq_true]
    intro hbefore
    rw [h.made.grows _ hbefore] at hdirectory
    cases hdirectory
  · rw [← heq, habove q hq] at hdirectory
    cases hdirectory

/-- Opening and putting a file does nothing but put the file in its place and make the
directories above. -/
theorem Opened.written {parent : Path} {name : String} {fs₁ : Files α}
    (h : Opened parent name fs fs₁) (file : α) :
    Written fs (parent.child name) file (fs₁.put (parent.child name).place file) := by
  obtain ⟨-, habove, -⟩ := walk_eq_ok_iff.1 h.walk_eq
  refine ⟨get?_put_self _ _ _, fun place hplace => ?_, fun place => ?_⟩
  · rw [get?_put_of_ne hplace, get?, get?, h.made.files_eq]
  · rw [isDirectory_put]
    constructor
    · intro hafter
      rcases hafter with hmid | ⟨hfront, hne⟩
      · rcases h.made.only place hmid with hbefore | ⟨q, hq, hplace⟩
        · exact .inl hbefore
        · exact .inr ⟨q, Path.above_child_iff.2 hq, hplace⟩
      · -- what is above the file is above it on the path, or was there before
        rcases Path.exists_of_prefix_place hfront with hgiven | ⟨q, hq, hplace⟩
        · exact .inl (isDirectory_of_isGiven hgiven)
        · rcases hq.eq_or_above with rfl | hq
          · exact absurd hplace.symm hne
          · exact .inr ⟨q, hq, hplace⟩
    · intro hbefore
      left
      rcases hbefore with hbefore | ⟨q, hq, rfl⟩
      · exact h.made.grows place hbefore
      · exact habove q hq

/-- Writing succeeds for the paths at which a file can be written, and for no others, if
there is a file to be written. -/
theorem write_ok_iff :
    (∃ fs', write p blank contents fs = .ok () fs')
      ↔ fs.Writable p ∧ ∃ file, contents = .ok file := by
  constructor
  · rintro ⟨fs', h⟩
    obtain ⟨parent, name, fs₁, file, rfl, hopened, hfile, -⟩ := write_cases h
    exact ⟨hopened.writable, file, hfile⟩
  · rintro ⟨h, file, hfile⟩
    obtain ⟨parent, name, fs₁, rfl, -, hwrite⟩ := write_eq_fill blank contents h
    exact ⟨_, hwrite.trans (fill_eq_ok_iff.2 ⟨file, hfile, rfl⟩)⟩

/-- What has been written is the file, and nothing else has changed. -/
theorem written_of_write {file : α} {fs' : Files α}
    (h : write p blank (.ok file) fs = .ok () fs') : Written fs p file fs' := by
  obtain ⟨parent, name, fs₁, other, rfl, hopened, hfile, rfl⟩ := write_cases h
  cases hfile
  exact hopened.written file

/-- Without a file to be written, a blank one is left at a path that can be written. -/
theorem write_unfilled {e : HostError} (h : fs.Writable p) :
    ∃ fs', write p blank (.error e) fs = .error e fs' ∧ Written fs p blank fs' := by
  obtain ⟨parent, name, fs₁, rfl, hopened, hwrite⟩ := write_eq_fill blank (.error e) h
  exact ⟨_, hwrite, hopened.written blank⟩

end FormScript.Files
