/-
How a target is cut. The variable of a target is what follows its last colon, and the
module is what stands before it, as long as the variable has no colon of its own. A single
letter before the only colon is the exception: it is a drive, and the whole target is
then one path or one module's name with the default variable.

What is found for a target depends on the two parts alone, so everything about targets is
settled by where they are cut (`split_joined`, `split_drive`) and by what is known about
the module part: whether it is the path of a module (`parse_of_suffix`), whether it leads
anywhere (`parse_of_module`), or whether not even that can be told (`parse_of_error`).
-/
import FormScript.Target
import Mathlib.Data.List.TakeDrop
import Mathlib.Data.List.TakeWhile

namespace FormScript.Target

-- ================================================================= colons

theorem toList_colon (spec variableName : String) :
    (spec ++ ":" ++ variableName).toList = spec.toList ++ ':' :: variableName.toList := by
  rw [String.toList_append, String.toList_append, List.append_assoc]
  rfl

theorem bne_colon_of_mem_reverse {chars : List Char} (h : ':' ∉ chars) :
    ∀ c ∈ chars.reverse, (c != ':') = true := by
  intro c hc
  apply bne_iff_ne.2
  intro heq
  exact h (heq ▸ List.mem_reverse.1 hc)

theorem cutLastColon?_of_notMem {text : String} (h : ':' ∉ text.toList) :
    cutLastColon? text = none := by
  rw [cutLastColon?, List.span_eq_takeWhile_dropWhile,
    List.dropWhile_eq_nil_iff.2 (bne_colon_of_mem_reverse h)]

/-- The last colon is the one in front of a text that has none. -/
theorem cutLastColon?_joined (spec : String) {variableName : String}
    (h : ':' ∉ variableName.toList) :
    cutLastColon? (spec ++ ":" ++ variableName) = some (spec, variableName) := by
  have hvariable := bne_colon_of_mem_reverse h
  have hreverse : (spec ++ ":" ++ variableName).toList.reverse
      = variableName.toList.reverse ++ ':' :: spec.toList.reverse := by
    rw [toList_colon, List.reverse_append, List.reverse_cons, List.append_assoc]
    rfl
  rw [cutLastColon?, hreverse, List.span_eq_takeWhile_dropWhile,
    List.takeWhile_append_of_pos hvariable, List.dropWhile_append_of_pos hvariable]
  simp

theorem split_of_notMem {text : String} (h : ':' ∉ text.toList) :
    split text = (text, defaultVariable) := by
  rw [split, cutLastColon?_of_notMem h]

/-- A target is cut at its variable. -/
theorem split_joined {spec variableName : String} (hspec : isDrive spec = false)
    (h : ':' ∉ variableName.toList) (hnonempty : variableName ≠ "") :
    split (spec ++ ":" ++ variableName) = (spec, variableName) := by
  have hempty : variableName.isEmpty = false := by
    rw [Bool.eq_false_iff, ne_eq, String.isEmpty_iff]
    exact hnonempty
  rw [split, cutLastColon?_joined spec h]
  simp only [hspec, hempty, Bool.false_eq_true, if_false]

/-- A colon with nothing behind it leaves the default variable. -/
theorem split_trailing {spec : String} (hspec : isDrive spec = false) :
    split (spec ++ ":") = (spec, defaultVariable) := by
  have hcut : cutLastColon? (spec ++ ":" ++ "") = some (spec, "") :=
    cutLastColon?_joined spec (by simp)
  rw [String.append_empty] at hcut
  rw [split, hcut]
  simp only [hspec, Bool.false_eq_true, if_false]
  rfl

/-- A target that starts with a drive is not cut. -/
theorem split_drive {drive variableName : String} (hdrive : isDrive drive)
    (h : ':' ∉ variableName.toList) :
    split (drive ++ ":" ++ variableName) = (drive ++ ":" ++ variableName, defaultVariable) := by
  rw [split, cutLastColon?_joined drive h]
  simp only [hdrive, if_true]

theorem exists_of_isDrive {drive : String} (h : isDrive drive) :
    ∃ c, drive.toList = [c] ∧ Text.isLetter c := by
  unfold isDrive at h
  split at h
  · exact ⟨_, ‹_›, h⟩
  · cases h

-- ================================================================ parsing

variable {α : Type} {files : Files α} {target spec variableName : String}

/-- What cannot be looked at makes every target fail that it is the module part of. -/
theorem parse_of_error {e : HostError} (hsplit : split target = (spec, variableName))
    (hfind : files.find? (.ofText spec) = .error e) : parse files target = .error e := by
  unfold parse
  simp only [hsplit, hfind]
  rfl

/-- What leads nowhere and does not look like a path is a module's name. -/
theorem parse_of_module (hsplit : split target = (spec, variableName))
    (hsuffix : endsIn suffix spec = false) (hfind : files.find? (.ofText spec) = .ok none) :
    parse files target = .ok ⟨.module, spec, variableName⟩ := by
  unfold parse
  simp only [hsplit, hfind, hsuffix]
  rfl

/-- The file of a module that is named by its path, `found` being where the path leads. -/
def fileOf (files : Files α) (path : Path) (found : Option (List String)) : Path :=
  (if found.any files.isDirectory then path.child initFile else path).resolve

/-- What looks like the path of a module is one, whether it leads anywhere or not. -/
theorem parse_of_suffix {found : Option (List String)}
    (hsplit : split target = (spec, variableName)) (hsuffix : endsIn suffix spec)
    (hnull : (Path.ofText spec).hasNull = false) (hfind : files.find? (.ofText spec) = .ok found) :
    parse files target
      = .ok ⟨.file (fileOf files (.ofText spec) found),
          fileModuleStart ++ (fileOf files (.ofText spec) found).stem, variableName⟩ := by
  unfold parse
  simp only [hsplit, hfind, hsuffix, hnull]
  rfl

/-- No module is found under a path with a null character. -/
theorem parse_of_null (hsplit : split target = (spec, variableName)) (hsuffix : endsIn suffix spec)
    (hnull : (Path.ofText spec).hasNull) : parse files target = .error .nullCharacter := by
  have hfind : files.find? (.ofText spec) = .ok none := if_pos hnull
  unfold parse
  simp only [hsplit, hfind, hsuffix, hnull]
  rfl

-- ================================================================= drives

theorem endsIn_suffix_of_short {text : String} (h : text.toList.length < 3) :
    endsIn suffix text = false := by
  rw [Bool.eq_false_iff]
  intro hends
  have hle := (List.isSuffixOf_iff_suffix.1 hends).length_le
  have hsuffix : suffix.toList.length = 3 := rfl
  omega

theorem colon_notMem_of_isDrive {drive : String} (h : isDrive drive) : ':' ∉ drive.toList := by
  obtain ⟨c, hc, hletter⟩ := exists_of_isDrive h
  rw [hc, List.mem_singleton]
  intro heq
  have hplain : Text.isLetter ':' = false := by decide +kernel
  rw [← heq, hplain] at hletter
  cases hletter

/-- A path ends in the suffix of modules only if it has more than one character. -/
theorem isDrive_of_suffix (h : endsIn suffix spec) : isDrive spec = false := by
  rw [Bool.eq_false_iff]
  intro hdrive
  obtain ⟨c, hc, -⟩ := exists_of_isDrive hdrive
  have hshort : endsIn suffix spec = false := endsIn_suffix_of_short (by simp [hc])
  rw [hshort] at h
  cases h

/-- Without a suffix, a drive and what follows its colon are the name of a module. -/
theorem parse_drive {drive : String} (hdrive : isDrive drive) (h : ':' ∉ variableName.toList)
    (hsuffix : endsIn suffix (drive ++ ":" ++ variableName) = false)
    (hfind : files.find? (.ofText (drive ++ ":" ++ variableName)) = .ok none) :
    parse files (drive ++ ":" ++ variableName)
      = .ok ⟨.module, drive ++ ":" ++ variableName, defaultVariable⟩ :=
  parse_of_module (split_drive hdrive h) hsuffix hfind

-- ================================================================= targets

/-- Targets are cut at their variable.

- A module's name that leads nowhere, has no colon and is no single letter is the module
  part of the target, with a variable behind a colon, with nothing behind the colon, or
  without a colon. If the name is too long to be looked at, all three fail alike.
- A single letter is a drive. Alone it is a module's name like any other, and with a colon
  it is part of the name of the module, or of the path.
- A path of a module is the module part of the target in the same way: the file and the
  module are those of the path alone. If it has a null character or is too long to be
  looked at, both fail alike. -/
theorem parse_splits_at_variable {α : Type} (files : Files α) (v : String) (hv : v ≠ "")
    (hcolon : ':' ∉ v.toList) :
    (∀ m : String, ':' ∉ m.toList → endsIn suffix m = false → isDrive m = false →
        (files.find? (.ofText m) = .ok none →
          parse files (m ++ ":" ++ v) = .ok ⟨.module, m, v⟩
            ∧ parse files m = .ok ⟨.module, m, defaultVariable⟩
            ∧ parse files (m ++ ":") = .ok ⟨.module, m, defaultVariable⟩)
          ∧ ∀ e, files.find? (.ofText m) = .error e →
            parse files (m ++ ":" ++ v) = .error e ∧ parse files m = .error e
              ∧ parse files (m ++ ":") = .error e)
      ∧ (∀ d : String, isDrive d →
        (files.find? (.ofText d) = .ok none → parse files d = .ok ⟨.module, d, defaultVariable⟩)
          ∧ (files.find? (.ofText (d ++ ":")) = .ok none →
            parse files (d ++ ":") = .ok ⟨.module, d ++ ":", defaultVariable⟩)
          ∧ (files.find? (.ofText (d ++ ":" ++ v)) = .ok none →
            endsIn suffix (d ++ ":" ++ v) = false →
            parse files (d ++ ":" ++ v) = .ok ⟨.module, d ++ ":" ++ v, defaultVariable⟩))
      ∧ ∀ p : String, ':' ∉ p.toList → endsIn suffix p →
        ((Path.ofText p).hasNull = false → ∀ found, files.find? (.ofText p) = .ok found →
          ∃ path, parse files p = .ok ⟨.file path, fileModuleStart ++ path.stem, defaultVariable⟩
            ∧ parse files (p ++ ":" ++ v) = .ok ⟨.file path, fileModuleStart ++ path.stem, v⟩)
          ∧ ((Path.ofText p).hasNull ∨ (∃ e, files.find? (.ofText p) = .error e) →
            ∃ e, parse files p = .error e ∧ parse files (p ++ ":" ++ v) = .error e) := by
  refine ⟨?_, ?_, ?_⟩
  · intro m hm hsuffix hdrive
    have hjoined := split_joined hdrive hcolon hv
    have hbare := split_of_notMem hm
    have htrailing := split_trailing hdrive
    constructor
    · intro hfind
      exact ⟨parse_of_module hjoined hsuffix hfind, parse_of_module hbare hsuffix hfind,
        parse_of_module htrailing hsuffix hfind⟩
    · intro e hfind
      exact ⟨parse_of_error hjoined hfind, parse_of_error hbare hfind,
        parse_of_error htrailing hfind⟩
  · intro d hdrive
    obtain ⟨c, hc, -⟩ := exists_of_isDrive hdrive
    refine ⟨?_, ?_, ?_⟩
    · intro hfind
      have hshort : endsIn suffix d = false := endsIn_suffix_of_short (by simp [hc])
      exact parse_of_module (split_of_notMem (colon_notMem_of_isDrive hdrive)) hshort hfind
    · intro hfind
      have hshort : endsIn suffix (d ++ ":") = false := by
        apply endsIn_suffix_of_short
        simp [hc]
      rw [← String.append_empty (s := d ++ ":")] at hfind hshort ⊢
      exact parse_drive hdrive (by simp) hshort hfind
    · intro hfind hsuffix
      exact parse_drive hdrive hcolon hsuffix hfind
  · intro p hp hsuffix
    have hjoined := split_joined (isDrive_of_suffix hsuffix) hcolon hv
    have hbare := split_of_notMem hp
    constructor
    · intro hnull found hfind
      exact ⟨_, parse_of_suffix hbare hsuffix hnull hfind,
        parse_of_suffix hjoined hsuffix hnull hfind⟩
    · intro h
      rcases h with hnull | ⟨e, hfind⟩
      · exact ⟨_, parse_of_null hbare hsuffix hnull, parse_of_null hjoined hsuffix hnull⟩
      · exact ⟨e, parse_of_error hbare hfind, parse_of_error hjoined hfind⟩

/-- A package, a module in it, and a directory that is called like the path of a module. -/
def packageFiles : Files Unit where
  files := [(["pages", "__init__.py"], ()), (["pages", "start.py"], ())]
  directories := [["old.py"]]

/-- A dotted name that leads nowhere, a letter of its own, and a path with a directory at
its end. -/
theorem packageFiles_targets :
    parse packageFiles "pages.start:tree" = .ok ⟨.module, "pages.start", "tree"⟩
      ∧ parse packageFiles "pages.start:" = .ok ⟨.module, "pages.start", "forms"⟩
      ∧ parse packageFiles "é:tree" = .ok ⟨.module, "é:tree", "forms"⟩
      ∧ ∃ path, parse packageFiles "pages/../old.py"
          = .ok ⟨.file path, "_jsforms_target_" ++ path.stem, "forms"⟩
        ∧ parse packageFiles "pages/../old.py:tree"
          = .ok ⟨.file path, "_jsforms_target_" ++ path.stem, "tree"⟩ := by
  have hsplits := parse_splits_at_variable packageFiles "tree" (by decide) (by decide)
  obtain ⟨hmodule, hdrive, hpath⟩ := hsplits
  obtain ⟨hjoined, -, htrailing⟩ :=
    (hmodule "pages.start" (by decide) (by decide) (by decide)).1 rfl
  exact ⟨hjoined, htrailing, (hdrive "é" (by decide)).2.2 rfl (by decide),
    (hpath "pages/../old.py" (by decide) (by decide)).1 (by decide) _ rfl⟩

/-- A module whose name is a single letter is not found by its variable. -/
theorem singleLetter_not_split :
    ({} : Files Unit).find? (.ofText "a") = .ok none
      ∧ ({} : Files Unit).find? (.ofText "a:") = .ok none
      ∧ ({} : Files Unit).find? (.ofText "a:x") = .ok none
      ∧ ':' ∉ "a".toList ∧ endsIn suffix "a" = false ∧ ':' ∉ "x".toList
      ∧ parse ({} : Files Unit) "a:x" = .ok ⟨.module, "a:x", "forms"⟩
      ∧ parse ({} : Files Unit) "a:" = .ok ⟨.module, "a:", "forms"⟩ :=
  ⟨rfl, rfl, rfl, by decide, by decide, by decide, rfl, rfl⟩

end FormScript.Target
