import TemplateLint.Invocation
import TemplateLint.Proofs.Report.Registry
import TemplateLint.Proofs.Run
import TemplateLint.Proofs.Settings.Effective

/-!
What an invocation finds before its run over the files begins, what it does with the outcome of
that run, and what it finds again once the log of todos has appeared.
-/

namespace TemplateLint

open Effect

namespace Summary

/-- Counting findings adds the errors and the warnings among them. -/
theorem foldl_add (findings : List Finding) (summary : Summary) :
    (findings.foldl add summary).errors =
        summary.errors + findings.countP (·.severity = .error) ∧
      (findings.foldl add summary).warnings =
        summary.warnings + findings.countP (·.severity = .warning) := by
  induction findings generalizing summary with
  | nil => exact ⟨rfl, rfl⟩
  | cons finding later ih =>
    obtain ⟨errors, warnings⟩ := ih (summary.add finding)
    rw [List.foldl_cons, errors, warnings, add]
    -- A finding is counted by its severity alone.
    cases weight : finding.severity <;> simp [weight, Nat.add_assoc, Nat.add_comm]

/-- A run fails for any error, and for more warnings than are allowed where these count. -/
theorem exitStatus_eq_one_iff (findings : List Finding) (quiet : Bool) (maxWarnings : Option Nat) :
    (ofFindings findings).exitStatus quiet maxWarnings = 1 ↔
      (∃ finding ∈ findings, finding.severity = .error) ∨
        (quiet = false ∧ ∃ limit, maxWarnings = some limit ∧
          limit < findings.countP (·.severity = .warning)) := by
  obtain ⟨errors, warnings⟩ := foldl_add findings zero
  -- The status looks at counts, which a fold has made of the findings.
  have anyError : 0 < (ofFindings findings).errors ↔
      ∃ finding ∈ findings, finding.severity = .error := by
    rw [ofFindings, errors]
    simp [zero, List.countP_pos_iff]
  have many : (ofFindings findings).warnings = findings.countP (·.severity = .warning) := by
    rw [ofFindings, warnings]
    simp [zero]
  have beyond : (ofFindings findings).exceeds quiet maxWarnings = true ↔
      quiet = false ∧ ∃ limit, maxWarnings = some limit ∧
        limit < (ofFindings findings).warnings := by
    cases maxWarnings <;> simp [exceeds]
  rw [← anyError, ← many, ← beyond]
  simp only [exitStatus, Bool.or_eq_true, decide_eq_true_eq]
  by_cases failing : 0 < (ofFindings findings).errors ∨
      (ofFindings findings).exceeds quiet maxWarnings = true
  · rw [if_pos failing]
    exact iff_of_true rfl failing
  · rw [if_neg failing]
    exact iff_of_false (by decide) failing

/-- A run fails or it does not. -/
theorem exitStatus_cases (summary : Summary) (quiet : Bool) (maxWarnings : Option Nat) :
    summary.exitStatus quiet maxWarnings = 0 ∨ summary.exitStatus quiet maxWarnings = 1 := by
  unfold exitStatus
  split
  · exact .inr rfl
  · exact .inl rfl

/-- A run without errors and without a bound on its warnings ends well. -/
theorem exitStatus_of_noErrors {findings : List Finding}
    (noErrors : ∀ finding ∈ findings, finding.severity ≠ .error) (quiet : Bool) :
    (Results.ofFindings findings).summary.exitStatus quiet none = 0 := by
  have errors : (ofFindings findings).errors = 0 := by
    rw [ofFindings, (foldl_add findings zero).1]
    simpa [zero, List.countP_eq_zero] using noErrors
  simp [Results.ofFindings, exitStatus, errors, exceeds]

end Summary

namespace Arguments

/-- The command line without the switch that updates todos, and without days for new ones. -/
def withoutUpdate (arguments : Arguments) : Arguments :=
  { arguments with switches := arguments.switches.filter (· ≠ .updateTodo), days := .never }

/-- All other switches are as they were. -/
theorem has_withoutUpdate {switch : Switch} (other : switch ≠ .updateTodo)
    (arguments : Arguments) : arguments.withoutUpdate.has switch = arguments.has switch := by
  rw [has, has, Bool.eq_iff_iff, List.contains_iff_mem, List.contains_iff_mem]
  simp [withoutUpdate, other]

end Arguments

namespace Invocation

variable {surroundings : Surroundings} {arguments : Arguments} {files : FileSystem}
  {directory : String} {settings : Settings} {session left : Session (Option (List Todo))}
  {status : Nat}

/-- A pure step answers what it gives, or fails with its fault. -/
theorem perform_orThrow {α : Type} (result : Except LintError α)
    (session : Session (Option (List Todo))) :
    perform (orThrow result) session = (result, session) := by
  cases result <;> rfl

/-- What follows a pure step succeeds exactly when the step gives it something to work on. -/
theorem perform_orThrow_bind_ok {α β : Type} {result : Except LintError α}
    {next : α → Step β} {value : β} :
    perform (orThrow result >>= next) session = (.ok value, left) ↔
      ∃ own, result = .ok own ∧ perform (next own) session = (.ok value, left) := by
  rw [perform_bind, perform_orThrow]
  cases result with
  | error error => simp
  | ok own => simp

/-- The directory and the settings of an invocation are found, and the todo store is sound. -/
structure Prepared (surroundings : Surroundings) (arguments : Arguments) (files : FileSystem)
    (directory : String) (settings : Settings) : Prop where
  here : workingDir files surroundings.currentDir arguments.workingDirectory = .ok directory
  usage : checkUsage arguments = .ok ()
  inForce : Settings.effective files directory arguments = .ok settings
  sound : checkStore ⟨directory, engineName⟩ files settings.todo = .ok ()

/-- What an invocation does once it is prepared. -/
def proceed (surroundings : Surroundings) (arguments : Arguments) (directory : String)
    (settings : Settings) : Step Nat :=
  if arguments.has .compactTodo then
    compact ⟨directory, engineName⟩ (arguments.mutesNotes settings.format)
  else lint surroundings arguments settings ⟨directory, engineName⟩
    (arguments.mutesNotes settings.format)

/-- An invocation completes exactly when it is prepared and completes after that. -/
theorem perform_execute_ok :
    perform (execute surroundings arguments) session = (.ok status, left) ↔
      ∃ directory settings, Prepared surroundings arguments session.files directory settings ∧
        perform (proceed surroundings arguments directory settings) session =
          (.ok status, left) := by
  -- Three checks come first; each one either ends the invocation or hands on what it found.
  rw [execute, perform_bind_of_ok _ (perform_get session)]
  simp only [perform_orThrow_bind_ok]
  constructor
  · rintro ⟨directory, here, ⟨⟩, usage, settings, inForce, ⟨⟩, sound, done⟩
    exact ⟨directory, settings, ⟨here, usage, inForce, sound⟩, done⟩
  · rintro ⟨directory, settings, ⟨here, usage, inForce, sound⟩, done⟩
    exact ⟨directory, here, (), usage, settings, inForce, (), sound, done⟩

/-- All that a run over files needs, besides the files. -/
structure Plan where
  decay : Decay
  specs : FileSet
  rules : RuleSet
  formatter : Formatter

/-- The maker of the report; there is none when the settings are shown instead. -/
def findFormatter (surroundings : Surroundings) (arguments : Arguments) (settings : Settings)
    (files : FileSystem) : Except LintError Formatter :=
  if arguments.has .printConfig then .ok fun _ _ => pure ()
  else
    Registry.standard.resolve files settings.format
      (reportOptions arguments settings surroundings.colours)

/-- A plan is what an invocation finds for its run. -/
structure Planned (surroundings : Surroundings) (arguments : Arguments) (settings : Settings)
    (store : TodoStore) (files : FileSystem) (plan : Plan) : Prop where
  decay : store.decay files settings.todo arguments.days = .ok plan.decay
  specs : resolve files settings.workingDir arguments.paths settings.ignore = .ok plan.specs
  rules : RuleSet.ofConfig settings.rules settings.inlineConfig = .ok plan.rules
  formatter : findFormatter surroundings arguments settings files = .ok plan.formatter

/-- The run over the files of a plan. -/
def Plan.run (plan : Plan) (surroundings : Surroundings) (arguments : Arguments)
    (settings : Settings) (store : TodoStore) : Step RunOutcome :=
  Run.run (plan.rules.engine store surroundings.today) settings.workingDir (runOptions arguments)
    plan.decay settings.overriding plan.specs

/-- What is reported of a run, and the exit status. -/
def conclude (arguments : Arguments) (muted : Bool) (formatter : Formatter) :
    RunOutcome → Step Nat
  | .printedConfig => pure 0
  | .completed run => do
    let results := Results.ofFindings run.findings
    report muted (formatter results {
      todoChanges := if arguments.has .updateTodo then some (run.added, run.removed) else none
      maxWarnings := arguments.maxWarnings
      fix := arguments.has .fix })
    pure (results.summary.exitStatus (arguments.has .quiet) arguments.maxWarnings)

/-- Files are linted by a plan that is found piece by piece, a run, and a report of that run. -/
theorem lint_eq (store : TodoStore) (muted : Bool) :
    lint surroundings arguments settings store muted = (do
      let session ← get
      let decay ← orThrow (store.decay session.files settings.todo arguments.days)
      let specs ←
        orThrow (resolve session.files settings.workingDir arguments.paths settings.ignore)
      let rules ← orThrow (RuleSet.ofConfig settings.rules settings.inlineConfig)
      let formatter ← orThrow (findFormatter surroundings arguments settings session.files)
      let outcome ← Plan.run ⟨decay, specs, rules, formatter⟩ surroundings arguments settings store
      conclude arguments muted formatter outcome) := by
  unfold lint findFormatter
  refine bind_congr fun session => bind_congr fun decay => bind_congr fun specs =>
    bind_congr fun rules => ?_
  -- The maker of the report is asked for only when there will be a report.
  cases arguments.has .printConfig <;> rfl

/-- Files are linted exactly when there is a plan, a run after it, and a report of that run. -/
theorem perform_lint_ok {store : TodoStore} {muted : Bool} :
    perform (lint surroundings arguments settings store muted) session = (.ok status, left) ↔
      ∃ plan outcome mid, Planned surroundings arguments settings store session.files plan ∧
        perform (plan.run surroundings arguments settings store) session = (.ok outcome, mid) ∧
        perform (conclude arguments muted plan.formatter outcome) mid = (.ok status, left) := by
  rw [lint_eq, perform_bind_of_ok _ (perform_get session)]
  -- What is planned are the answers of the checks before the run, in their order.
  simp only [perform_orThrow_bind_ok]
  constructor
  · rintro ⟨decay, days, specs, found, rules, sound, formatter, made, done⟩
    obtain ⟨outcome, mid, ran, concluded⟩ := perform_bind_ok.mp done
    exact ⟨⟨decay, specs, rules, formatter⟩, outcome, mid, ⟨days, found, sound, made⟩, ran,
      concluded⟩
  · rintro ⟨plan, outcome, mid, ⟨days, found, sound, made⟩, ran, concluded⟩
    exact ⟨plan.decay, days, plan.specs, found, plan.rules, sound, plan.formatter, made,
      perform_bind_ok.mpr ⟨outcome, mid, ran, concluded⟩⟩

/-- A working directory is the canonical path of a place that is found. -/
theorem workingDir_eq_ok {currentDir : String} {named : Option String} :
    workingDir files currentDir named = .ok directory ↔
      ∃ location, FileSystem.pathOf location = directory ∧
        files.find (if (named.getD currentDir).isEmpty then named.getD currentDir
          else Path.join currentDir (named.getD currentDir)) = .ok location := by
  simp only [workingDir, FileSystem.canonical]
  cases files.find (if (named.getD currentDir).isEmpty then named.getD currentDir
    else Path.join currentDir (named.getD currentDir)) with
  | error cause => simp
  | ok location => simp

/-- A working directory has a path. -/
theorem workingDir_ne_nil {currentDir : String} {named : Option String}
    (here : workingDir files currentDir named = .ok directory) : directory.toList ≠ [] := by
  obtain ⟨location, rfl, _⟩ := workingDir_eq_ok.mp here
  exact FileSystem.pathOf_ne_nil location

/--
Settings in force are those of a directory, override what the command line configures, and name the
format that the command line names.
-/
theorem fields_of_effective
    (inForce : Settings.effective files directory arguments = .ok settings) :
    settings.workingDir = directory ∧
      settings.overriding = (arguments.config.isSome || !arguments.rules.isEmpty) ∧
      ∀ name, arguments.format = some name → settings.format = name := by
  unfold Settings.effective Settings.merge at inForce
  -- The configuration, the rules given as one text and the rules given one by one may each fail.
  split at inForce
  · simp at inForce
  · split at inForce
    · simp at inForce
    · split at inForce
      · simp at inForce
      · obtain rfl := Except.ok.inj inForce
        exact ⟨rfl, rfl, fun name named => by simp [named]⟩

/-- Settings in force are those of a directory, and override what the command line configures. -/
theorem eq_of_effective (inForce : Settings.effective files directory arguments = .ok settings) :
    settings.workingDir = directory ∧
      settings.overriding = (arguments.config.isSome || !arguments.rules.isEmpty) :=
  ⟨(fields_of_effective inForce).1, (fields_of_effective inForce).2.1⟩

/-- The settings in force name the working directory. -/
theorem workingDir_of_effective (inForce : Settings.effective files directory arguments =
    .ok settings) : settings.workingDir = directory :=
  (eq_of_effective inForce).1

/-- The format that a command line names is in force. -/
theorem format_of_effective {name : String} (named : arguments.format = some name)
    (inForce : Settings.effective files directory arguments = .ok settings) :
    settings.format = name :=
  (fields_of_effective inForce).2.2 name named

/-- Settings override nothing when the command line configures no rules. -/
theorem overriding_of_effective (noConfig : arguments.config = none) (noRules : arguments.rules = [])
    (inForce : Settings.effective files directory arguments = .ok settings) :
    settings.overriding = false := by
  rw [(eq_of_effective inForce).2, noConfig, noRules]
  rfl

/-- An invocation that was prepared is prepared once the log has appeared. -/
theorem Prepared.grown {others : FileSystem}
    (prepared : Prepared surroundings arguments files directory settings)
    (grown : TodoStore.Grown ⟨directory, engineName⟩ files others) :
    Prepared surroundings arguments others directory settings := by
  rcases grown with rfl | ⟨spot, free, appears⟩
  · exact prepared
  · obtain ⟨location, canonical, found⟩ := workingDir_eq_ok.mp prepared.here
    refine ⟨workingDir_eq_ok.mpr ⟨location, canonical, appears.find_iff.mpr (.inl found)⟩,
      prepared.usage, Settings.effective_eq appears prepared.inForce, ?_⟩
    -- The checks of the store ask for its directory and settings, and never for the log.
    have sound := prepared.sound
    simp only [checkStore, TodoStore.isOutdated, appears.isDirectory_eq,
      TodoStore.settingsFault?_eq appears] at sound ⊢
    exact sound

/-- The directory in which the log has appeared was there. -/
theorem find_of_appears {others : FileSystem} {spot : Location} {store : TodoStore}
    (some : store.directory.toList ≠ [])
    (free : files.locate store.logPath true = .ok (.vacant spot false))
    (appears : Appears todoLogFile spot files others) :
    ∃ location, files.find store.directory = .ok location := by
  have present := (appears.filled store.logPath true).present_iff.mpr (.inr ⟨rfl, free⟩)
  obtain ⟨location, found, stands⟩ := FileSystem.find_of_join some (by decide) present
  rcases appears.find_iff.mp found with before | ⟨rfl, _⟩
  · exact ⟨location, before⟩
  · -- At the log's place stands a file, and no directory.
    obtain ⟨content, executable, file⟩ := appears.entry_spot
    rw [file] at stands
    simp at stands

/-- What was planned is planned once the log has appeared, if no path argument leads to it. -/
theorem Planned.grown {others : FileSystem} {store : TodoStore} {plan : Plan}
    (planned : Planned surroundings arguments settings store files plan)
    (here : settings.workingDir = store.directory) (some : store.directory.toList ≠ [])
    (away : ∀ pattern ∈ arguments.paths,
      store.LeadsAway files (Path.join store.directory pattern))
    (shown : Registry.IsShown settings.format
      (reportOptions arguments settings surroundings.colours))
    (grown : store.Grown files others) :
    Planned surroundings arguments settings store others plan := by
  have formatter := planned.formatter
  -- Rules come from the settings alone; the days, files and formatter are looked up on the disk.
  refine ⟨?_, ?_, planned.rules, ?_⟩
  · rcases grown with rfl | ⟨spot, free, appears⟩
    · exact planned.decay
    · rw [TodoStore.decay_eq appears, planned.decay]
  · rcases grown with rfl | ⟨spot, free, appears⟩
    · exact planned.specs
    · obtain ⟨location, found⟩ := find_of_appears some free appears
      rw [here, resolve_eq appears found fun pattern member => away pattern member spot free,
        ← here, planned.specs]
  · unfold findFormatter at formatter ⊢
    split
    · rename_i shows
      rwa [if_pos shows] at formatter
    · rename_i reports
      rw [if_neg reports] at formatter
      exact (Registry.resolve_of_isShown shown formatter).2 others

/-- An invocation that was prepared is prepared without an update. -/
theorem Prepared.withoutUpdate
    (prepared : Prepared surroundings arguments files directory settings) :
    Prepared surroundings arguments.withoutUpdate files directory settings := by
  refine ⟨prepared.here, ?_, ?_, prepared.sound⟩
  · -- Days without an update are refused, but no days are left to refuse.
    exact if_neg (by simp [Arguments.withoutUpdate])
  · rw [← prepared.inForce]
    simp only [Settings.effective, Settings.merge, Settings.ignoreSpec,
      Arguments.has_withoutUpdate (show Switch.noInlineConfig ≠ .updateTodo by decide),
      Arguments.has_withoutUpdate (show Switch.noIgnorePattern ≠ .updateTodo by decide)]
    rfl

/-- The report is asked for alike without an update. -/
theorem reportOptions_withoutUpdate (settings : Settings) (colours : Bool) :
    reportOptions arguments.withoutUpdate settings colours =
      reportOptions arguments settings colours := by
  simp only [reportOptions,
    Arguments.has_withoutUpdate (show Switch.quiet ≠ .updateTodo by decide),
    Arguments.has_withoutUpdate (show Switch.verbose ≠ .updateTodo by decide),
    Arguments.has_withoutUpdate (show Switch.includeTodo ≠ .updateTodo by decide)]

/-- What was planned is planned without an update, but for the days of new todos. -/
theorem Planned.withoutUpdate {store : TodoStore} {plan : Plan}
    (planned : Planned surroundings arguments settings store files plan) {own : Decay}
    (days : store.decay files settings.todo .never = .ok own) :
    Planned surroundings arguments.withoutUpdate settings store files { plan with decay := own } := by
  refine ⟨days, planned.specs, planned.rules, ?_⟩
  rw [← planned.formatter]
  simp only [findFormatter, reportOptions_withoutUpdate,
    Arguments.has_withoutUpdate (show Switch.printConfig ≠ .updateTodo by decide)]

/-- A report that is shown leaves the disk as it is. -/
theorem perform_report {formatter : Formatter} (shows : Report.OnlyShows formatter)
    (muted : Bool) (results : Results) (facts : RunFacts)
    (session : Session (Option (List Todo))) :
    ∃ left, perform (report muted (formatter results facts)) session = (.ok (), left) ∧
      left.files = session.files := by
  -- Lines that are shown may be muted, and neither way touches the disk.
  obtain ⟨shown, made⟩ := shows results facts ⟨session.files, []⟩
  have ran : (formatter results facts).run.run ⟨session.files, []⟩ =
      (.ok (), ⟨session.files, shown⟩) := made
  refine ⟨{ session with
    console := session.console ++
      (shown.filter fun notice => !(notice.isNote && muted)).map Notice.line }, ?_, rfl⟩
  rw [report, perform_bind_of_ok _ (perform_get session)]
  simp only [ran]
  rfl

/-- A run without errors is concluded well, and its report leaves the disk as it is. -/
theorem perform_conclude {formatter : Formatter} (shows : Report.OnlyShows formatter)
    (noLimit : arguments.maxWarnings = none) {results : RunResults}
    (noErrors : ∀ finding ∈ results.findings, finding.severity ≠ .error) (muted : Bool)
    (session : Session (Option (List Todo))) :
    ∃ left, perform (conclude arguments muted formatter (.completed results)) session =
        (.ok 0, left) ∧ left.files = session.files := by
  obtain ⟨left, made, same⟩ := perform_report shows muted (.ofFindings results.findings)
    ⟨if arguments.has .updateTodo then some (results.added, results.removed) else none,
      arguments.maxWarnings, arguments.has .fix⟩ session
  refine ⟨left, ?_, same⟩
  -- Without errors and without a limit on warnings the status is that of success.
  rw [conclude, perform_bind_of_ok _ made, noLimit,
    Summary.exitStatus_of_noErrors noErrors, perform_pure]

end Invocation

end TemplateLint
