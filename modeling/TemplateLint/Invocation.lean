import TemplateLint.Report.Registry
import TemplateLint.Rules.Engine
import TemplateLint.Run
import TemplateLint.Settings.Effective

/-!
A whole invocation: settings first, then files, rules and the report's maker, and only when all of
these are found does the run over the files begin.
-/

namespace TemplateLint

/-- What an invocation finds around it. -/
structure Surroundings where
  currentDir : String
  today : Date
  colours : Bool

namespace Invocation

/-- A step of an invocation; the engine remembers the live todos. -/
abbrev Step :=
  Lint (Option (List Todo))

/-- What a pure step gives, or its fault. -/
def orThrow {α : Type} (result : Except LintError α) : Step α :=
  match result with
  | .ok value => pure value
  | .error error => throw error

/-- The directory to work in, by its canonical path. -/
def workingDir (files : FileSystem) (currentDir : String) (named : Option String) :
    Except LintError String :=
  let path := named.getD currentDir
  -- An empty name is looked up as it is, and refused.
  match files.canonical (if path.isEmpty then path else Path.join currentDir path) with
  | .ok canonical => .ok canonical
  | .error cause => .error (.unreadable path cause)

/-- Days until todos decay make sense only where todos are made. -/
def checkUsage (arguments : Arguments) : Except LintError Unit :=
  if arguments.days ≠ .never ∧ !arguments.has .updateTodo then
    .error (.usage ("Using `--todo-days-to-warn` or `--todo-days-to-error` is only valid " ++
      "with the `--update-todo` option"))
  else .ok ()

/-- The todo store must be laid out and configured as it is today. -/
def checkStore (store : TodoStore) (files : FileSystem) (project : Option Decay) :
    Except LintError Unit :=
  if store.isOutdated files then .error (.oldTodoStorage store.logPath)
  else
    match store.settingsFault? files project with
    | some fault => .error (.badTodoConfig fault)
    | none => .ok ()

/-- How the report of a run is asked for. -/
def reportOptions (arguments : Arguments) (settings : Settings) (colours : Bool) :
    ReportOptions where
  outputFile := settings.outputFile
  quiet := arguments.has .quiet
  verbose := arguments.has .verbose
  includeTodo := arguments.has .includeTodo
  workingDir := settings.workingDir
  delegates := settings.delegates
  colours

/-- What is asked of the run over the files. -/
def runOptions (arguments : Arguments) : RunOptions where
  fix := arguments.has .fix
  updateTodo := arguments.has .updateTodo
  cleanTodo := arguments.has .cleanTodo
  printConfig := arguments.has .printConfig
  stdinFilename := arguments.filename

/-- Compacts the todo store and notes how many entries are gone. -/
def compact (store : TodoStore) (muted : Bool) : Step Nat := do
  let removed ← Session.withTodos store.compact
  -- The note alone is muted, never the compaction.
  if !muted then
    Session.print
      ⟨.log, "Removed " ++ toString removed ++ " todos in " ++ todoLogFile ++ " storage file"⟩
  pure 0

/-- Shows a report, with its notes unless these are muted; what was shown before a failure stays. -/
def report (muted : Bool) (action : Reporting Unit) : Step Unit := do
  let session ← get
  let (result, desk) := action.run.run ⟨session.files, []⟩
  -- Lines are shown also when the report fails halfway, since they were printed before.
  let shown := desk.shown.filter fun notice => !(notice.isNote && muted)
  set { session with files := desk.files, console := session.console ++ shown.map Notice.line }
  orThrow result

/-- Lints the files that a command line names, and gives the exit status. -/
def lint (surroundings : Surroundings) (arguments : Arguments) (settings : Settings)
    (store : TodoStore) (muted : Bool) : Step Nat := do
  let files := (← get).files
  let decay ← orThrow (store.decay files settings.todo arguments.days)
  -- What can be refused at all is looked up before the first file is touched.
  let specs ← orThrow (resolve files settings.workingDir arguments.paths settings.ignore)
  let rules ← orThrow (RuleSet.ofConfig settings.rules settings.inlineConfig)
  let formatter ←
    if arguments.has .printConfig then pure fun _ _ => pure ()
    else
      orThrow (Registry.standard.resolve files settings.format
        (reportOptions arguments settings surroundings.colours))
  let outcome ← Run.run (rules.engine store surroundings.today) settings.workingDir
    (runOptions arguments) decay settings.overriding specs
  match outcome with
  | .printedConfig => pure 0
  | .completed run =>
    let results := Results.ofFindings run.findings
    report muted (formatter results {
      todoChanges := if arguments.has .updateTodo then some (run.added, run.removed) else none
      maxWarnings := arguments.maxWarnings
      fix := arguments.has .fix })
    pure (results.summary.exitStatus (arguments.has .quiet) arguments.maxWarnings)

/-- One invocation, which gives the exit status. -/
def execute (surroundings : Surroundings) (arguments : Arguments) : Step Nat := do
  let files := (← get).files
  let directory ← orThrow (workingDir files surroundings.currentDir arguments.workingDirectory)
  orThrow (checkUsage arguments)
  let settings ← orThrow (Settings.effective files directory arguments)
  -- The format decides whether notes are shown, and the project may set it.
  let muted := arguments.mutesNotes settings.format
  let store : TodoStore := ⟨directory, engineName⟩
  orThrow (checkStore store files settings.todo)
  if arguments.has .compactTodo then compact store muted
  else lint surroundings arguments settings store muted

end Invocation

end TemplateLint
