/-
The emit command puts nothing out before the script is complete.

# Failing or producing

The user is told about a target, the target is loaded, the settings are read and the
script is written, in this order, and the first of these that fails ends the command
(`Command.Fails`); otherwise there is a script (`Command.Produces`). Loading and writing can
change what is registered, and what has run, but neither the host nor any file
(`LoadM.KeepsSurroundings`): only the delivery of a script does that.

# Two ways of delivery

A script that is delivered to a file is there as it is. What is printed of it is the
front's to say; a front that leaves out style codes prints exactly those scripts as they
are that have none.
-/
import FormScript.Proofs.Command.Files
import FormScript.Proofs.Command.Styles

namespace FormScript

/-- What a library does not change by loading. -/
def Library.surroundings (lib : Library) : Host × Files Content := (lib.host, lib.files)

-- ========================================================== what loading keeps

namespace LoadM

variable {α β : Type}

/-- The library that a step leaves, whether it fails or not. -/
def after : EStateM.Result Error Library α → Library
  | .ok _ lib => lib
  | .error _ lib => lib

/-- A step that changes neither the host nor any file or directory. -/
def KeepsSurroundings (m : LoadM α) : Prop :=
  ∀ lib, (after (m lib)).surroundings = lib.surroundings

theorem pure_keepsSurroundings (a : α) : KeepsSurroundings (pure a : LoadM α) := fun _ => rfl

theorem throw_keepsSurroundings (e : Error) : KeepsSurroundings (throw e : LoadM α) := fun _ => rfl

theorem throw_bind_keepsSurroundings (e : Error) (f : α → LoadM β) :
    KeepsSurroundings ((throw e : LoadM α) >>= f) :=
  fun _ => rfl

theorem get_keepsSurroundings : KeepsSurroundings (get : LoadM Library) := fun _ => rfl

theorem bind_keepsSurroundings {m : LoadM α} {f : α → LoadM β} (hm : KeepsSurroundings m)
    (hf : ∀ a, KeepsSurroundings (f a)) : KeepsSurroundings (m >>= f) := by
  intro lib
  have hfirst := hm lib
  show (after (EStateM.bind m f lib)).surroundings = lib.surroundings
  unfold EStateM.bind
  cases hm : m lib with
  | ok a mid =>
      rw [hm] at hfirst
      exact (hf a mid).trans hfirst
  | error e mid =>
      rw [hm] at hfirst
      exact hfirst

theorem modify_keepsSurroundings {f : Library → Library}
    (h : ∀ lib, (f lib).surroundings = lib.surroundings) :
    KeepsSurroundings (modify f : LoadM Unit) :=
  h

theorem forM_keepsSurroundings {f : α → LoadM Unit} (h : ∀ a, KeepsSurroundings (f a))
    (items : List α) : KeepsSurroundings (items.forM f) := by
  induction items with
  | nil => exact pure_keepsSurroundings ()
  | cons a items ih => exact bind_keepsSurroundings (h a) fun _ => ih

end LoadM

namespace Library

open LoadM

theorem freshStamp_keepsSurroundings : KeepsSurroundings freshStamp := fun _ => rfl

theorem ofExcept_keepsSurroundings {α : Type} (x : Except Error α) :
    KeepsSurroundings (ofExcept x) := by
  cases x with
  | ok a => exact pure_keepsSurroundings a
  | error e => exact throw_keepsSurroundings e

theorem updateModule_keepsSurroundings (name : String) (f : LoadedModule → LoadedModule) :
    KeepsSurroundings (updateModule name f) :=
  modify_keepsSurroundings fun _ => rfl

theorem setVariable_keepsSurroundings (moduleName variableName : String) (value : Node) :
    KeepsSurroundings (setVariable moduleName variableName value) :=
  updateModule_keepsSurroundings _ _

theorem perform_keepsSurroundings (moduleName : String) (action : Action) :
    KeepsSurroundings (perform moduleName action) := by
  cases action with
  | define make =>
      refine bind_keepsSurroundings freshStamp_keepsSurroundings fun stamp => ?_
      refine bind_keepsSurroundings (ofExcept_keepsSurroundings _) fun definition => ?_
      refine bind_keepsSurroundings (ofExcept_keepsSurroundings _) fun form => ?_
      exact modify_keepsSurroundings fun _ => rfl
  | set variableName make =>
      refine bind_keepsSurroundings freshStamp_keepsSurroundings fun stamp => ?_
      refine bind_keepsSurroundings (ofExcept_keepsSurroundings _) fun value => ?_
      exact setVariable_keepsSurroundings _ _ _

theorem runModule_keepsSurroundings (info : ModuleInfo) (actions : List Action) :
    KeepsSurroundings (runModule info actions) := by
  refine bind_keepsSurroundings get_keepsSurroundings fun lib => ?_
  refine bind_keepsSurroundings (updateModule_keepsSurroundings _ _) fun _ => ?_
  exact forM_keepsSurroundings (perform_keepsSurroundings info.name) actions

theorem importAs_keepsSurroundings (info : ModuleInfo) (actions : List Action) :
    KeepsSurroundings (importAs info actions) := by
  intro lib
  have hrun := runModule_keepsSurroundings info actions lib
  unfold importAs
  cases hm : runModule info actions lib with
  | ok a mid =>
      rw [hm] at hrun
      exact hrun
  | error e mid =>
      rw [hm] at hrun
      exact hrun

theorem importFrom_keepsSurroundings (directories : List (List String)) (tail name : String) :
    KeepsSurroundings (importFrom directories tail name) := by
  refine bind_keepsSurroundings get_keepsSurroundings fun lib => ?_
  split
  · refine bind_keepsSurroundings (importAs_keepsSurroundings _ _) fun _ => ?_
    exact pure_keepsSurroundings _
  · exact throw_keepsSurroundings _

theorem importParts_keepsSurroundings (parts : List String) :
    KeepsSurroundings (importParts parts) := by
  induction parts with
  | nil => exact pure_keepsSurroundings ()
  | cons tail above ih =>
      refine bind_keepsSurroundings get_keepsSurroundings fun lib => ?_
      dsimp only
      split
      · exact pure_keepsSurroundings ()
      · split
        · refine bind_keepsSurroundings get_keepsSurroundings fun lib => ?_
          refine bind_keepsSurroundings (importFrom_keepsSurroundings _ _ _) fun _ => ?_
          exact pure_keepsSurroundings ()
        · refine bind_keepsSurroundings ih fun _ => ?_
          refine bind_keepsSurroundings get_keepsSurroundings fun lib => ?_
          split
          · refine bind_keepsSurroundings (importFrom_keepsSurroundings _ _ _) fun info => ?_
            refine bind_keepsSurroundings get_keepsSurroundings fun lib => ?_
            refine bind_keepsSurroundings freshStamp_keepsSurroundings fun stamp => ?_
            exact setVariable_keepsSurroundings _ _ _
          · exact throw_keepsSurroundings _

theorem importModule_keepsSurroundings (name : String) : KeepsSurroundings (importModule name) := by
  unfold importModule
  split
  · exact throw_keepsSurroundings _
  · exact importParts_keepsSurroundings _

theorem runFile_keepsSurroundings (path : Path) (name : String) :
    KeepsSurroundings (runFile path name) := by
  refine bind_keepsSurroundings get_keepsSurroundings fun lib => ?_
  refine bind_keepsSurroundings (ofExcept_keepsSurroundings _) fun place => ?_
  cases place with
  | none => exact throw_keepsSurroundings _
  | some place =>
      dsimp only
      split
      · exact throw_bind_keepsSurroundings _ _
      · split
        · exact runModule_keepsSurroundings _ _
        · refine bind_keepsSurroundings (runModule_keepsSurroundings _ _) fun _ => ?_
          exact throw_keepsSurroundings _

theorem variableOf_keepsSurroundings (target : Target) :
    KeepsSurroundings (variableOf target) := by
  refine bind_keepsSurroundings get_keepsSurroundings fun lib => ?_
  dsimp only
  split
  · exact pure_keepsSurroundings _
  · exact throw_keepsSurroundings _

theorem load_keepsSurroundings (target : String) : KeepsSurroundings (load target) := by
  refine bind_keepsSurroundings get_keepsSurroundings fun lib => ?_
  refine bind_keepsSurroundings (ofExcept_keepsSurroundings _) fun target => ?_
  dsimp only
  split
  · refine bind_keepsSurroundings (runFile_keepsSurroundings _ _) fun _ => ?_
    refine bind_keepsSurroundings (variableOf_keepsSurroundings target) fun value => ?_
    exact pure_keepsSurroundings _
  · refine bind_keepsSurroundings (importModule_keepsSurroundings _) fun _ => ?_
    refine bind_keepsSurroundings (variableOf_keepsSurroundings target) fun value => ?_
    exact pure_keepsSurroundings _

/-- The library with no event noted yet. -/
def quiet (lib : Library) : Library := { lib with events := #[] }

end Library

-- ======================================================= failing or producing

namespace Command

variable {front : Front} {environment : String → Option String} {target : String}
  {keepRepeats : Bool} {lib : Library} {text : String}

theorem writeScript_keepsSurroundings (config : Config) (value : Node) :
    LoadM.KeepsSurroundings (writeScript config value) := by
  intro lib
  unfold writeScript
  dsimp only
  split <;> rfl

/-- No script comes of a target: the user cannot be told about it, it cannot be loaded, the
settings cannot be read, or its forms cannot be written. -/
inductive Fails (front : Front) (environment : String → Option String) (target : String)
    (keepRepeats : Bool) (lib : Library) : Prop
  | announcing {e : Error} :
      front.tell (loadingNotice target) = some e → Fails front environment target keepRepeats lib
  | loading {e : Error} {after : Library} :
      front.tell (loadingNotice target) = none →
      Library.load target lib = .error e after → Fails front environment target keepRepeats lib
  | settings {found : Target × Node} {loaded : Library} {stop : Stop} :
      front.tell (loadingNotice target) = none →
      Library.load target lib = .ok found loaded →
      settings environment keepRepeats = .error stop →
      Fails front environment target keepRepeats lib
  | emitting {found : Target × Node} {loaded after : Library} {config : Config} {e : Error} :
      front.tell (loadingNotice target) = none →
      Library.load target lib = .ok found loaded →
      settings environment keepRepeats = .ok config →
      writeScript config found.2 loaded = .error e after →
      Fails front environment target keepRepeats lib

/-- A target is loaded, and its forms are written with the settings. -/
inductive Produces (front : Front) (environment : String → Option String) (target : String)
    (keepRepeats : Bool) (lib : Library) (text : String) : Prop
  | emitted {found : Target × Node} {loaded after : Library} {config : Config} :
      front.tell (loadingNotice target) = none →
      Library.load target lib = .ok found loaded →
      settings environment keepRepeats = .ok config →
      writeScript config found.2 loaded = .ok text after →
      Produces front environment target keepRepeats lib text

/-- How far the command gets with the script, once the user has been told. -/
theorem scriptOf_of_produces (h : Produces front environment target keepRepeats lib text) :
    front.tell (loadingNotice target) = none
      ∧ ∃ after, scriptOf environment target keepRepeats lib = (.ok text, after) := by
  obtain ⟨htell, hload, hsettings, hwrite⟩ := h
  refine ⟨htell, ?_⟩
  unfold scriptOf
  rw [hload, hsettings]
  dsimp only
  rw [hwrite]
  exact ⟨_, rfl⟩

theorem scriptOf_of_fails (h : Fails front environment target keepRepeats lib)
    (htell : front.tell (loadingNotice target) = none) :
    ∃ stop after, scriptOf environment target keepRepeats lib = (.error stop, after) := by
  unfold scriptOf
  cases h with
  | announcing hfails =>
      rw [htell] at hfails
      cases hfails
  | loading _ hload =>
      rw [hload]
      exact ⟨_, _, rfl⟩
  | settings _ hload hsettings =>
      rw [hload, hsettings]
      exact ⟨_, _, rfl⟩
  | emitting _ hload hsettings hwrite =>
      rw [hload, hsettings]
      dsimp only
      rw [hwrite]
      exact ⟨_, _, rfl⟩

theorem fails_or_produces (front : Front) (environment : String → Option String)
    (target : String) (keepRepeats : Bool) (lib : Library) :
    Fails front environment target keepRepeats lib
      ∨ ∃ text, Produces front environment target keepRepeats lib text := by
  cases htell : front.tell (loadingNotice target) with
  | some e => exact .inl (.announcing htell)
  | none =>
      cases hload : Library.load target lib with
      | error e after => exact .inl (.loading htell hload)
      | ok found loaded =>
          cases hsettings : settings environment keepRepeats with
          | error stop => exact .inl (.settings htell hload hsettings)
          | ok config =>
              cases hwrite : writeScript config found.2 loaded with
              | error e after => exact .inl (.emitting htell hload hsettings hwrite)
              | ok text after => exact .inr ⟨text, .emitted htell hload hsettings hwrite⟩

/-- There is a script unless one of the steps to it fails. -/
theorem fails_iff_not_produces :
    Fails front environment target keepRepeats lib
      ↔ ¬∃ text, Produces front environment target keepRepeats lib text := by
  constructor
  · rintro hfails ⟨text, hproduces⟩
    obtain ⟨htell, after, hscript⟩ := scriptOf_of_produces hproduces
    obtain ⟨stop, other, hstop⟩ := scriptOf_of_fails hfails htell
    rw [hscript] at hstop
    cases hstop
  · intro hnone
    exact (fails_or_produces front environment target keepRepeats lib).resolve_right hnone

/-- Up to the script, no file and no directory changes, and neither does the host. -/
theorem surroundings_scriptOf (environment : String → Option String) (target : String)
    (keepRepeats : Bool) (lib : Library) :
    (scriptOf environment target keepRepeats lib).2.surroundings = lib.surroundings := by
  have hkeep := Library.load_keepsSurroundings target lib
  unfold scriptOf
  cases hload : Library.load target lib with
  | error e after =>
      rw [hload] at hkeep
      exact hkeep
  | ok found loaded =>
      rw [hload] at hkeep
      dsimp only
      cases settings environment keepRepeats with
      | error stop => exact hkeep
      | ok config =>
          have hwrite := writeScript_keepsSurroundings config found.2 loaded
          dsimp only
          cases hscript : writeScript config found.2 loaded with
          | error e after =>
              rw [hscript] at hwrite
              exact hwrite.trans hkeep
          | ok text after =>
              rw [hscript] at hwrite
              exact hwrite.trans hkeep

-- ================================================================ delivery

/-- A command that has failed: it has put nothing out, and all files and directories are
as they were. -/
structure Stopped (lib : Library) (result : Outcome × Library) : Prop where
  status : result.1.status = 1
  silent : result.1.output = some ""
  untouched : result.2.files = lib.files

/-- A command that has printed a script as the front does, and has left all files and
directories as they were. -/
structure Printed (front : Front) (lib : Library) (text : String) (result : Outcome × Library) :
    Prop where
  output : result.1.output = some (front.print text).output
  status : result.1.status = 0 ↔ (front.print text).failure = none
  untouched : result.2.files = lib.files

/-- A command that had a script for a file, and has printed nothing. The script is in the
file if this can be written and the script can be encoded, even if the user then cannot be
told; a file that can be written is left empty for a script that cannot be encoded. -/
structure Filed (front : Front) (lib : Library) (file text : String)
    (result : Outcome × Library) : Prop where
  silent : result.1.output = some ""
  status : result.1.status = 0
    ↔ lib.files.Writable (Path.ofText file) ∧ lib.host.encode text = .ok ()
      ∧ front.tell (writtenNotice (Path.ofText file)) = none
  written : lib.files.Writable (Path.ofText file) → lib.host.encode text = .ok () →
    lib.files.Written (Path.ofText file) (.text text) result.2.files
  emptied : ∀ e, lib.files.Writable (Path.ofText file) → lib.host.encode text = .error e →
    result.1.failure = some (.host e)
      ∧ lib.files.Written (Path.ofText file) (.text "") result.2.files

theorem status_telling {notice : Notice} {next : Outcome} :
    (front.telling notice next).status = 0 ↔ next.status = 0 ∧ front.tell notice = none := by
  unfold Front.telling
  cases front.tell notice with
  | some failure => simp [Outcome.raising]
  | none => simp [Outcome.after]

theorem output_telling {notice : Notice} {next : Outcome} (h : next.output = some "") :
    (front.telling notice next).output = some "" := by
  unfold Front.telling
  cases front.tell notice with
  | some failure => rfl
  | none => exact h

theorem outcome_stop (stop : Stop) :
    (stop.outcome front).status = 1 ∧ (stop.outcome front).output = some "" := by
  cases stop with
  | raised failure => exact ⟨rfl, rfl⟩
  | reported reason =>
      refine ⟨?_, output_telling rfl⟩
      show (Front.telling front (failureNotice reason) { status := 1 }).status = 1
      unfold Front.telling
      cases front.tell (failureNotice reason) <;> rfl

/-- Of the outcome of a command, what the notices and the events leave as it is. -/
structure SameResult (outcome other : Outcome × Library) : Prop where
  status : outcome.1.status = other.1.status
  output : outcome.1.output = other.1.output
  failure : outcome.1.failure = other.1.failure
  library : outcome.2 = other.2

theorem runEmit_of_unannounced {e : Error} (environment : String → Option String)
    (output : Option String) (keepRepeats verbose : Bool) (lib : Library)
    (h : front.tell (loadingNotice target) = some e) :
    SameResult (runEmit front environment target output keepRepeats verbose lib)
      (.raising e, lib.quiet) := by
  unfold runEmit announcing
  rw [h]
  exact ⟨rfl, rfl, rfl, rfl⟩

theorem runEmit_of_error {stop : Stop} {after : Library} (output : Option String) (verbose : Bool)
    (htell : front.tell (loadingNotice target) = none)
    (h : scriptOf environment target keepRepeats lib.quiet = (.error stop, after)) :
    SameResult (runEmit front environment target output keepRepeats verbose lib)
      (stop.outcome front, after) := by
  unfold Library.quiet at h
  unfold runEmit announcing
  rw [htell]
  dsimp only
  rw [h]
  exact ⟨rfl, rfl, rfl, rfl⟩

theorem runEmit_of_ok {after : Library} (output : Option String) (verbose : Bool)
    (htell : front.tell (loadingNotice target) = none)
    (h : scriptOf environment target keepRepeats lib.quiet = (.ok text, after)) :
    SameResult (runEmit front environment target output keepRepeats verbose lib)
      (deliver front text output after) := by
  unfold Library.quiet at h
  unfold runEmit announcing
  rw [htell]
  dsimp only
  rw [h]
  exact ⟨rfl, rfl, rfl, rfl⟩

theorem stopped_of_fails (output : Option String) (verbose : Bool)
    (h : Fails front environment target keepRepeats lib.quiet) :
    Stopped lib (runEmit front environment target output keepRepeats verbose lib) := by
  cases htell : front.tell (loadingNotice target) with
  | some e =>
      have hrun := runEmit_of_unannounced environment output keepRepeats verbose lib htell
      refine ⟨hrun.status, hrun.output, ?_⟩
      rw [hrun.library]
      rfl
  | none =>
      obtain ⟨stop, after, hscript⟩ := scriptOf_of_fails h htell
      have hrun := runEmit_of_error output verbose htell hscript
      have hkeep := surroundings_scriptOf environment target keepRepeats lib.quiet
      rw [hscript] at hkeep
      obtain ⟨hstatus, houtput⟩ := outcome_stop stop
      refine ⟨hrun.status.trans hstatus, hrun.output.trans houtput, ?_⟩
      rw [hrun.library]
      exact congrArg Prod.snd hkeep

theorem printed_of_deliver (text : String) (lib : Library) :
    Printed front lib text (deliver front text none lib) := by
  refine ⟨rfl, ?_, rfl⟩
  show (front.printing text).status = 0 ↔ _
  unfold Front.printing
  dsimp only
  cases (front.print text).failure <;> simp

theorem contents_of_ok {host : Host} (h : host.encode text = .ok ()) :
    contents host text = .ok (.text text) := by
  unfold contents
  rw [h]
  rfl

theorem contents_of_error {host : Host} {e : HostError} (h : host.encode text = .error e) :
    contents host text = .error e := by
  unfold contents
  rw [h]
  rfl

theorem deliver_of_write {file : String} {files : Files Content}
    (h : Files.write (Path.ofText file) (.text "") (contents lib.host text) lib.files
      = .ok () files) :
    deliver front text (some file) lib
      = (front.telling (writtenNotice (Path.ofText file)) {}, { lib with files }) := by
  unfold deliver
  dsimp only
  rw [h]

theorem deliver_of_write_error {file : String} {e : HostError} {files : Files Content}
    (h : Files.write (Path.ofText file) (.text "") (contents lib.host text) lib.files
      = .error e files) :
    deliver front text (some file) lib = (.raising (.host e), { lib with files }) := by
  unfold deliver
  dsimp only
  rw [h]

theorem filed_of_deliver (file text : String) (lib : Library) :
    Filed front lib file text (deliver front text (some file) lib) := by
  cases hencode : lib.host.encode text with
  | ok done =>
      have hcontents := contents_of_ok hencode
      have hnone (e : HostError) : lib.host.encode text ≠ .error e := by
        rw [hencode]
        exact fun h => by cases h
      cases hwrite : Files.write (Path.ofText file) (.text "") (contents lib.host text)
          lib.files with
      | ok _ files =>
          have hwritable := (Files.write_ok_iff.1 ⟨files, hwrite⟩).1
          rw [deliver_of_write hwrite]
          rw [hcontents] at hwrite
          refine ⟨output_telling rfl, ?_, fun _ _ => Files.written_of_write hwrite, ?_⟩
          · exact status_telling.trans (by simp [hwritable, hencode])
          · exact fun e _ h => absurd h (hnone e)
      | error e files =>
          have hnot : ¬lib.files.Writable (Path.ofText file) := by
            intro hwritable
            obtain ⟨files', hok⟩ := Files.write_ok_iff.2 ⟨hwritable, _, hcontents⟩
            rw [hok] at hwrite
            cases hwrite
          rw [deliver_of_write_error hwrite]
          refine ⟨rfl, ?_, fun h => absurd h hnot, fun _ h => absurd h hnot⟩
          simp [Outcome.raising, hnot]
  | error e =>
      have hcontents := contents_of_error hencode
      cases hwrite : Files.write (Path.ofText file) (.text "") (contents lib.host text)
          lib.files with
      | ok _ files =>
          obtain ⟨-, other, hother⟩ := Files.write_ok_iff.1 ⟨files, hwrite⟩
          rw [hcontents] at hother
          cases hother
      | error e' files =>
          rw [deliver_of_write_error hwrite]
          refine ⟨rfl, ?_, ?_, ?_⟩
          · simp [Outcome.raising, hencode]
          · intro _ h
            rw [hencode] at h
            cases h
          · -- the file has been opened, and nothing put into it
            intro e'' hwritable h
            rw [hencode] at h
            cases h
            obtain ⟨left, hleft, hwritten⟩ := Files.write_unfilled hwritable
            rw [hcontents, hleft] at hwrite
            cases hwrite
            exact ⟨rfl, hwritten⟩

/-- A script is printed, from the files as they were. -/
theorem printed_of_produces (verbose : Bool)
    (h : Produces front environment target keepRepeats lib.quiet text) :
    Printed front lib text (runEmit front environment target none keepRepeats verbose lib) := by
  obtain ⟨htell, after, hscript⟩ := scriptOf_of_produces h
  have hrun := runEmit_of_ok none verbose htell hscript
  have hkeep := surroundings_scriptOf environment target keepRepeats lib.quiet
  rw [hscript] at hkeep
  have hprinted : Printed front after text (deliver front text none after) :=
    printed_of_deliver text after
  refine ⟨hrun.output.trans hprinted.output, ?_, ?_⟩
  · rw [hrun.status]
    exact hprinted.status
  · rw [hrun.library]
    exact congrArg Prod.snd hkeep

/-- A script is delivered to the files as they were, since getting it has changed none. -/
theorem filed_of_produces (file : String) (verbose : Bool)
    (h : Produces front environment target keepRepeats lib.quiet text) :
    Filed front lib file text
      (runEmit front environment target (some file) keepRepeats verbose lib) := by
  obtain ⟨htell, after, hscript⟩ := scriptOf_of_produces h
  have hrun := runEmit_of_ok (some file) verbose htell hscript
  have hkeep := surroundings_scriptOf environment target keepRepeats lib.quiet
  rw [hscript] at hkeep
  have hhost : after.host = lib.host := congrArg Prod.fst hkeep
  have hfiles : after.files = lib.files := congrArg Prod.snd hkeep
  have hfiled : Filed front after file text (deliver front text (some file) after) :=
    filed_of_deliver file text after
  refine ⟨hrun.output.trans hfiled.silent, ?_, ?_, ?_⟩
  · rw [hrun.status, ← hhost, ← hfiles]
    exact hfiled.status
  · rw [hrun.library, ← hhost, ← hfiles]
    exact hfiled.written
  · rw [hrun.library, hrun.failure, ← hhost, ← hfiles]
    exact hfiled.emptied

/-- The emit command does all or nothing. If the user cannot be told, or loading, the
settings or the script fail, it exits with status 1, prints nothing and leaves all files and
directories as they were, whether a file is named for the script or not. Otherwise there is
a script, which is printed, or else written to the file that is named, with no other change
than the directories above it (`Filed` says when this succeeds). A front that leaves out
style codes prints another text than the one in the file unless there are none. -/
theorem emit_all_or_nothing (front : Front) (environment : String → Option String)
    (lib : Library) (target file : String) (keepRepeats verbose : Bool) :
    (Fails front environment target keepRepeats lib.quiet
        ↔ ¬∃ text, Produces front environment target keepRepeats lib.quiet text)
      ∧ (Fails front environment target keepRepeats lib.quiet → ∀ output,
        Stopped lib (runEmit front environment target output keepRepeats verbose lib))
      ∧ ∀ text, Produces front environment target keepRepeats lib.quiet text →
        Printed front lib text (runEmit front environment target none keepRepeats verbose lib)
          ∧ Filed front lib file text
            (runEmit front environment target (some file) keepRepeats verbose lib)
          ∧ (front.RemovesStyles → ∀ out : String, Text.Styled text.toList out.toList →
            (runEmit front environment target none keepRepeats verbose lib).1.status = 0 →
              (runEmit front environment target none keepRepeats verbose lib).1.output = some out
                ∧ (out = text ↔ Text.escapeChar ∉ text.toList)) := by
  refine ⟨fails_iff_not_produces, fun h output => stopped_of_fails output verbose h, ?_⟩
  intro text h
  have hprinted := printed_of_produces verbose h
  refine ⟨hprinted, filed_of_produces file verbose h, ?_⟩
  intro hremoves out hstyled hstatus
  have hout : (front.print text).output = out :=
    hremoves text out hstyled (hprinted.status.1 hstatus)
  refine ⟨hprinted.output.trans (congrArg some hout), ?_⟩
  rw [← hstyled.eq_iff, String.toList_inj]

/-- A module whose only form is a text that turns a terminal red. -/
def colouredPage : Library where
  files := { files := [(["page.py"], .module [.set "forms" fun _ => .ok (.str "\x1b[31mred")])] }

/-- An environment that sets the expansion limit and nothing else. -/
def limitedTo (limit : String) (name : String) : Option String :=
  if name = limitVariable then some limit else none

/-- The script of its only form. -/
def colouredScript : String := "\"\x1b[31mred\""

theorem colouredScript_styled : Text.Styled colouredScript.toList "\"red\"".toList := by
  have hscript : colouredScript.toList
      = '\x22' :: Text.escapeChar :: '[' :: (['3', '1'] ++ 'm' :: ['r', 'e', 'd', '\x22']) := by
    decide +kernel
  have hout : "\"red\"".toList = ['\x22', 'r', 'e', 'd', '\x22'] := by decide +kernel
  rw [hscript, hout]
  have hparams : ∀ c ∈ ['3', '1'], Text.isStyleParameter c :=
    List.forall_mem_cons.2 ⟨rfl, List.forall_mem_singleton.2 rfl⟩
  refine .keep (by decide) (.code hparams ?_)
  exact .keep (by decide) (.keep (by decide) (.keep (by decide) (.keep (by decide) .nil)))

/-- The script is printed without its style code, and written as it is below a directory
that is reached by a detour; and nothing is done under a limit that is no number. -/
theorem colouredPage_delivered :
    Produces plainFront (limitedTo "9") "page.py" false colouredPage.quiet colouredScript
      ∧ Printed plainFront colouredPage colouredScript
        (runEmit plainFront (limitedTo "9") "page.py" none false false colouredPage)
      ∧ (runEmit plainFront (limitedTo "9") "page.py" none false false colouredPage).1.output
        = some "\"red\""
      ∧ Filed plainFront colouredPage "site/../js/out.js" colouredScript
        (runEmit plainFront (limitedTo "9") "page.py" (some "site/../js/out.js") false false
          colouredPage)
      ∧ (runEmit plainFront (limitedTo "9") "page.py" (some "site/../js/out.js") false false
          colouredPage).1.status = 0
      ∧ Stopped colouredPage
        (runEmit plainFront (limitedTo "nine") "page.py" (some "site/../js/out.js") false false
          colouredPage) := by
  obtain ⟨hiff, hfails, hproduces⟩ := emit_all_or_nothing plainFront (limitedTo "9") colouredPage
    "page.py" "site/../js/out.js" false false
  have hstatus : (runEmit plainFront (limitedTo "9") "page.py" (some "site/../js/out.js") false
      false colouredPage).1.status = 0 := by decide +kernel
  have hnot : ¬Fails plainFront (limitedTo "9") "page.py" false colouredPage.quiet := by
    intro h
    rw [(hfails h _).status] at hstatus
    cases hstatus
  obtain ⟨text, h⟩ := not_not.1 (mt hiff.2 hnot)
  obtain ⟨hprinted, hfiled, hplain⟩ := hproduces text h
  -- which script it is shows in the file
  obtain ⟨hwritable, hencode, -⟩ := hfiled.status.1 hstatus
  have hfile : ((runEmit plainFront (limitedTo "9") "page.py" (some "site/../js/out.js") false
      false colouredPage).2.files.get? (Path.ofText "site/../js/out.js").place).bind Content.text?
      = some colouredScript := by decide +kernel
  rw [(hfiled.written hwritable hencode).holds] at hfile
  cases hfile
  refine ⟨h, hprinted, ?_, hfiled, hstatus, ?_⟩
  · exact (hplain plainFront_removesStyles _ colouredScript_styled (hprinted.status.2 rfl)).1
  · obtain ⟨hiff, hfails, hproduces⟩ := emit_all_or_nothing plainFront (limitedTo "nine")
      colouredPage "page.py" "site/../js/out.js" false false
    have hstopped : (runEmit plainFront (limitedTo "nine") "page.py" none false false
        colouredPage).1.status = 1 := by decide +kernel
    refine hfails (hiff.2 ?_) _
    rintro ⟨text, h⟩
    rw [(hproduces text h).1.status.2 rfl] at hstopped
    cases hstopped

/-- The file has the style code in it and the standard output has not. -/
theorem colouredPage_differs :
    plainFront.RemovesStyles
      ∧ (runEmit plainFront (fun _ => none) "page.py" (some "out.js") false false
          colouredPage).1.status = 0
      ∧ (runEmit plainFront (fun _ => none) "page.py" none false false colouredPage).1.status = 0
      ∧ ((runEmit plainFront (fun _ => none) "page.py" (some "out.js") false false
          colouredPage).2.files.get? ["out.js"]).bind Content.text? = some colouredScript
      ∧ (runEmit plainFront (fun _ => none) "page.py" none false false colouredPage).1.output
        = some "\"red\"" :=
  ⟨plainFront_removesStyles, by decide +kernel⟩

end Command

end FormScript
