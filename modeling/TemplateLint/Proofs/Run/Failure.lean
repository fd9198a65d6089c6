import TemplateLint.Proofs.Run
import TemplateLint.Proofs.Run.Trace

/-!
How a run over files fails: over a file, over standard input or over the log of todos, with nothing
shown, or because the settings of several files are asked for, with nothing done at all.
-/

namespace TemplateLint

open Effect

/-- A fault of a file, of standard input or of the log of todos. -/
inductive LintError.IsFileFault : LintError → Prop
  | unreadable (path : String) (cause : FileError) : IsFileFault (.unreadable path cause)
  | unwritable (path : String) (cause : FileError) : IsFileFault (.unwritable path cause)
  | unreadableInput (cause : FileError) : IsFileFault (.unreadableInput cause)
  | corruptTodo (path : String) (line : Nat) : IsFileFault (.corruptTodo path line)

namespace TodoStore

variable {store : TodoStore}

/-- A log that cannot be read is at fault itself. -/
theorem isFileFault_of_readChanges {files : FileSystem} {error : LintError}
    (failed : store.readChanges files = .error error) : error.IsFileFault := by
  unfold readChanges at failed
  -- The log cannot be read, or one of its lines cannot be.
  split at failed
  · split at failed
    · obtain rfl := Except.error.inj failed
      exact .unreadable _ _
    · split at failed
      · obtain rfl := Except.error.inj failed
        exact .corruptTodo _ _
      · simp at failed
  · simp at failed

/-- To read the log fails over the log. -/
theorem failsBy_readChanges (files : FileSystem) :
    FailsBy LintError.IsFileFault
      (liftM (store.readChanges files) : TodoAction (List Todo.Change)) := by
  intro memory error left failed
  rw [perform_lift] at failed
  exact isFileFault_of_readChanges (Prod.mk.inj failed).1

/-- To look up the live todos of a file fails over the log. -/
theorem failsBy_todosOf (path : String) :
    FailsBy LintError.IsFileFault (store.todosOf path) := by
  refine failsBy_bind (failsBy_get_bind fun memory => ?_) fun live => failsBy_pure _
  split
  · exact failsBy_pure _
  · refine failsBy_bind (failsBy_readChanges memory.files) fun changes => ?_
    exact failsBy_bind (failsBy_set _) fun _ => failsBy_pure _

/-- To lengthen the log fails over the log. -/
theorem failsBy_append (changes : List Todo.Change) :
    FailsBy LintError.IsFileFault (store.append changes) := by
  unfold append
  split
  · exact failsBy_pure _
  · refine failsBy_get_bind fun memory => ?_
    split
    · exact failsBy_throw (.unwritable _ _)
    · exact failsBy_set _

/-- To compact the log fails over the log. -/
theorem failsBy_compact : FailsBy LintError.IsFileFault store.compact := by
  -- Only reading the log and writing it back can fail, and only for a file.
  refine failsBy_get_bind fun memory => ?_
  refine failsBy_bind (failsBy_readChanges memory.files) fun changes => ?_
  split
  · exact failsBy_pure _
  · simp only
    split
    · exact failsBy_throw (.unwritable _ _)
    · exact failsBy_bind (failsBy_set _) fun _ => failsBy_pure _

/-- To update the todos of a file fails over the log. -/
theorem failsBy_update (path : String) (found : List Finding) (decay : Decay) (overriding : Bool)
    (today : Date) :
    FailsBy LintError.IsFileFault (store.update path found decay overriding today) :=
  failsBy_bind (failsBy_todosOf path) fun _ =>
    failsBy_bind (failsBy_append _) fun _ => failsBy_pure _

/-- To hold the findings of a file against its todos fails over the log. -/
theorem failsBy_process (path : String) (found : List Finding) (cleanup overriding : Bool)
    (today : Date) :
    FailsBy LintError.IsFileFault (store.process path found cleanup overriding today) := by
  -- Todos are read first and appended to only if there is something to drop.
  refine failsBy_bind (failsBy_todosOf path) fun existing => ?_
  simp only
  split
  · exact failsBy_pure _
  · split
    · exact failsBy_bind (failsBy_append _) fun _ => failsBy_pure _
    · exact failsBy_pure _

end TodoStore

namespace Run

/-- A step shows nothing, and it fails over a file, standard input or the log at most. -/
structure Quiet {μ α : Type} (action : Lint μ α) : Prop where
  silent : ∀ lines, Keeps (fun session => session.console = lines) action
  faults : FailsBy LintError.IsFileFault action

section Quiet

variable {μ α β : Type}

/-- A step that does nothing is quiet. -/
theorem quiet_pure (value : α) : Quiet (pure value : Lint μ α) :=
  ⟨fun _ => keeps_pure value, failsBy_pure value⟩

/-- Quiet steps are quiet in turn. -/
theorem quiet_bind {first : Lint μ α} {next : α → Lint μ β} (here : Quiet first)
    (there : ∀ value, Quiet (next value)) : Quiet (first >>= next) :=
  ⟨fun lines => keeps_bind (here.silent lines) fun value => (there value).silent lines,
    failsBy_bind here.faults fun value => (there value).faults⟩

/-- A quiet step shows nothing by the time it fails. -/
theorem Quiet.of_error {action : Lint μ α} (quiet : Quiet action) {session left : Session μ}
    {error : LintError} (failed : perform action session = (.error error, left)) :
    left.console = session.console ∧ error.IsFileFault := by
  have same := quiet.silent session.console session rfl
  rw [failed] at same
  exact ⟨same, quiet.faults session error left failed⟩

/-- A quiet step that succeeds has shown nothing. -/
theorem Quiet.of_ok {action : Lint μ α} (quiet : Quiet action) {session left : Session μ}
    {value : α} (done : perform action session = (.ok value, left)) :
    left.console = session.console := by
  have same := quiet.silent session.console session rfl
  rwa [done] at same

/-- What a run asks of its engine while it lints is quiet. -/
structure QuietEngine (engine : Engine μ) (decay : Decay) (overriding : Bool) : Prop where
  verify : ∀ template, Quiet (engine.verify template)
  fix : ∀ template, Quiet (engine.fix template)
  settings : ∀ template, Quiet (engine.settings template)
  update : ∀ template found, Quiet (engine.updateTodos template found decay overriding)
  process : ∀ template found cleanup,
    Quiet (engine.processTodos template found decay cleanup overriding)

/-- A template is loaded quietly. -/
theorem quiet_load (workingDir : String) (stdinFilename : Option String) (spec : FileSpec) :
    Quiet (load workingDir stdinFilename spec : Lint μ Template) := by
  -- Standard input and a file are read in different ways, and either of them fails without a word.
  cases spec with
  | stdin =>
    constructor
    · refine fun lines => keeps_get_bind fun session shown => ?_
      simp only [perform_bind, perform_set]
      cases session.input.text? <;> exact shown
    · refine failsBy_get_bind fun session => failsBy_bind (failsBy_set _) fun _ => ?_
      split
      · exact failsBy_pure _
      · exact failsBy_throw (.unreadableInput _)
  | path path =>
    constructor
    · refine fun lines => keeps_get_bind fun session shown => ?_
      simp only
      cases session.files.readText (Path.join workingDir path) <;> exact shown
    · refine failsBy_get_bind fun session => ?_
      simp only
      split
      · exact failsBy_pure _
      · exact failsBy_throw (.unreadable _ _)

/-- A fixed template is put in the place of its file quietly. -/
theorem quiet_writeBack (workingDir : String) (template : Template) (output : String) :
    Quiet (writeBack workingDir template output : Lint μ Unit) := by
  -- Nothing is shown whether the file can be written or not.
  constructor
  · refine fun lines => keeps_get_bind fun session shown => ?_
    simp only
    cases session.files.write (Path.join workingDir template.filePath) output <;> exact shown
  · refine failsBy_get_bind fun session => ?_
    simp only
    split
    · exact failsBy_set _
    · exact failsBy_throw (.unwritable _ _)

variable {engine : Engine μ} {workingDir : String} {options : RunOptions} {decay : Decay}
  {overriding : Bool}

/-- A file is linted quietly. -/
theorem quiet_lintFile (quiet : QuietEngine engine decay overriding) (spec : FileSpec) :
    Quiet (lintFile engine workingDir options decay overriding spec) := by
  -- Each of the steps is quiet, so that the sequence of them is.
  rw [lintFile_eq]
  refine quiet_bind (quiet_load _ _ _) fun template => ?_
  refine quiet_bind ?_ fun found => quiet_bind ?_ fun counts => quiet_bind ?_ fun _ => quiet_pure _
  · unfold findings
    split
    · refine quiet_bind (quiet.fix template) fun outcome => ?_
      split
      · exact quiet_bind (quiet_writeBack _ _ _) fun _ => quiet_pure _
      · exact quiet_pure _
    · exact quiet.verify template
  · split
    · exact quiet.update template found
    · exact quiet_pure _
  · split
    · exact quiet_pure _
    · exact quiet.process template found _

/-- Files are linted quietly one after another, up to the first that fails. -/
theorem quiet_lintFiles (quiet : QuietEngine engine decay overriding) (specs : List FileSpec) :
    Quiet (lintFiles engine workingDir options decay overriding specs) := by
  induction specs with
  | nil => exact quiet_pure _
  | cons spec later ih =>
    exact quiet_bind (quiet_lintFile quiet spec) fun _ => quiet_bind ih fun _ => quiet_pure _

/-- A run that fails has shown nothing, and has failed over a file unless it has done nothing. -/
theorem console_of_run_error (quiet : QuietEngine engine decay overriding) {files : FileSet}
    {session left : Session μ} {error : LintError}
    (failed : perform (run engine workingDir options decay overriding files) session =
      (.error error, left)) :
    left.console = session.console ∧ (error.IsFileFault ∨ left = session) := by
  unfold run at failed
  split at failed
  · split at failed
    · simp at failed
    · rename_i spec single
      -- The settings are shown last, and to show them does not fail.
      have quietly : Quiet (do
          let template ← load workingDir options.stdinFilename spec
          engine.settings template) :=
        quiet_bind (quiet_load _ _ _) quiet.settings
      have before : perform (do
          let template ← load workingDir options.stdinFilename spec
          engine.settings template) session = (.error error, left) := by
        simp only [printConfig, bind_assoc] at failed
        rw [← bind_assoc] at failed
        rcases perform_bind_error.mp failed with early | ⟨_, _, _, late⟩
        · exact early
        · rcases perform_bind_error.mp late with late | ⟨_, _, _, late⟩
          · cases late
          · cases late
      have ended := quietly.of_error before
      exact ⟨ended.1, .inl ended.2⟩
    · obtain ⟨_, rfl⟩ := Prod.mk.inj failed
      exact ⟨rfl, .inr rfl⟩
  · rcases perform_bind_error.mp failed with early | ⟨_, _, _, late⟩
    · have ended := (quiet_lintFiles quiet files.specs).of_error early
      exact ⟨ended.1, .inl ended.2⟩
    · cases late

/-- A run that completes has shown nothing. -/
theorem console_of_run_completed (quiet : QuietEngine engine decay overriding) {files : FileSet}
    {session left : Session μ} {results : RunResults}
    (ran : perform (run engine workingDir options decay overriding files) session =
      (.ok (.completed results), left)) : left.console = session.console := by
  unfold run at ran
  split at ran
  · split at ran
    · obtain ⟨_, rfl⟩ := Prod.mk.inj ran
      rfl
    · -- The settings of one file are shown, and no results are given.
      obtain ⟨⟨⟩, mid, _, answered⟩ := perform_bind_ok.mp ran
      cases answered
    · cases ran
  · obtain ⟨own, mid, linted, answered⟩ := perform_bind_ok.mp ran
    obtain ⟨_, rfl⟩ := Prod.mk.inj answered
    exact (quiet_lintFiles quiet files.specs).of_ok linted

end Quiet

/-- A step of the store that fails over the log is quiet in a run. -/
theorem quiet_withTodos {α : Type} {action : TodoAction α}
    (faults : FailsBy LintError.IsFileFault action) : Quiet (Session.withTodos action) := by
  constructor
  · intro lines session shown
    rw [Session.perform_withTodos]
    exact shown
  · intro session error left failed
    rw [Session.perform_withTodos] at failed
    exact faults session.todos error _ (Prod.ext (Prod.mk.inj failed).1 rfl)

/-- The engine of rules is quiet: rules only read, and the store works on the log alone. -/
theorem quietEngine_engine (set : RuleSet) (store : TodoStore) (today : Date) (decay : Decay)
    (overriding : Bool) : QuietEngine (set.engine store today) decay overriding where
  verify template := quiet_pure (set.verify template)
  fix template := quiet_pure (set.fix template)
  settings template := quiet_pure (set.settings template)
  update template found := quiet_withTodos (store.failsBy_update template.filePath found decay
    overriding today)
  process template found cleanup := quiet_withTodos (store.failsBy_process template.filePath found
    cleanup overriding today)

end Run

end TemplateLint
