import TemplateLint.Proofs.Adoption
import TemplateLint.Proofs.Report.Failure
import TemplateLint.Proofs.Run.Failure

/-!
What an invocation that fails leaves behind: one that is rejected leaves all as it was, and only
several formatters in one run may have shown a part of their reports by then.
-/

namespace TemplateLint

open Effect

namespace LintError

/-- A fault of what the user asks for or configures, and not of the work that is asked for. -/
def isRejection : LintError → Bool
  | .noFilesMatched _ | .badGlob _ | .notSingleFile _ | .badInlineConfig | .badOverride _
  | .badRule _ _ | .badConfig _ _ | .badTodoConfig _ | .oldTodoStorage _
  | .formatterNotLoaded _ _ | .usage _ => true
  | .unreadable _ _ | .unwritable _ _ | .unreadableInput _ | .corruptTodo _ _
  | .formatterFailed _ _ => false

/-- A fault of a file is met at work. -/
theorem IsFileFault.not_isRejection {error : LintError} (ours : error.IsFileFault) :
    error.isRejection = false := by
  cases ours <;> rfl

/-- A fault of a report is met at work. -/
theorem IsReportFault.not_isRejection {error : LintError} (ours : error.IsReportFault) :
    error.isRejection = false := by
  cases ours <;> rfl

end LintError

namespace Invocation

variable {surroundings : Surroundings} {arguments : Arguments} {directory : String}
  {settings : Settings} {store : TodoStore} {muted : Bool} {plan : Plan} {outcome : RunOutcome}
  {session mid left : Session (Option (List Todo))} {error : LintError}

/-- How an invocation fails that lints files: it finds no plan, or the run or its report fails. -/
inductive LintFailure (surroundings : Surroundings) (arguments : Arguments) (settings : Settings)
    (store : TodoStore) (muted : Bool) (session : Session (Option (List Todo)))
    (error : LintError) (left : Session (Option (List Todo))) : Prop
  | unplanned (same : left = session)
  | running (plan : Plan)
      (failed : perform (plan.run surroundings arguments settings store) session =
        (.error error, left))
  | reporting (plan : Plan) (outcome : RunOutcome) (mid : Session (Option (List Todo)))
      (planned : Planned surroundings arguments settings store session.files plan)
      (ran : perform (plan.run surroundings arguments settings store) session =
        (.ok outcome, mid))
      (failed : perform (conclude arguments muted plan.formatter outcome) mid =
        (.error error, left))

/-- How an invocation fails: it is refused as it stands, or it fails to compact or to lint. -/
inductive Failure (surroundings : Surroundings) (arguments : Arguments)
    (session : Session (Option (List Todo))) (error : LintError)
    (left : Session (Option (List Todo))) : Prop
  | refused (same : left = session)
  | compacting (directory : String) (muted : Bool)
      (failed : perform (compact (storeIn directory) muted) session = (.error error, left))
  | linting (directory : String) (settings : Settings)
      (prepared : Prepared surroundings arguments session.files directory settings)
      (failed : LintFailure surroundings arguments settings (storeIn directory)
        (arguments.mutesNotes settings.format) session error left)

/-- What follows a pure step fails exactly when the step fails as it stands, or what follows. -/
theorem perform_orThrow_bind_error {α β : Type} {result : Except LintError α}
    {next : α → Step β} :
    perform (orThrow result >>= next) session = (.error error, left) ↔
      (result = .error error ∧ left = session) ∨
        ∃ own, result = .ok own ∧ perform (next own) session = (.error error, left) := by
  rw [perform_bind, perform_orThrow]
  cases result with
  | error other => simp [eq_comm]
  | ok own => simp

/-- To lint files fails in one of three ways. -/
theorem lintFailure_of_lint
    (failed : perform (lint surroundings arguments settings store muted) session =
      (.error error, left)) :
    LintFailure surroundings arguments settings store muted session error left := by
  rw [lint_eq, perform_bind_of_ok _ (perform_get session)] at failed
  -- Four lookups come first, and a failure of one of them changes nothing.
  obtain ⟨_, same⟩ | ⟨decay, days, failed⟩ := perform_orThrow_bind_error.mp failed
  · exact .unplanned same
  obtain ⟨_, same⟩ | ⟨specs, found, failed⟩ := perform_orThrow_bind_error.mp failed
  · exact .unplanned same
  obtain ⟨_, same⟩ | ⟨rules, sound, failed⟩ := perform_orThrow_bind_error.mp failed
  · exact .unplanned same
  obtain ⟨_, same⟩ | ⟨formatter, made, failed⟩ := perform_orThrow_bind_error.mp failed
  · exact .unplanned same
  obtain early | ⟨outcome, mid, ran, late⟩ := perform_bind_error.mp failed
  · exact .running ⟨decay, specs, rules, formatter⟩ early
  · exact .reporting ⟨decay, specs, rules, formatter⟩ outcome mid ⟨days, found, sound, made⟩ ran
      late

/-- An invocation fails in one of three ways. -/
theorem failure_of_execute
    (failed : perform (execute surroundings arguments) session = (.error error, left)) :
    Failure surroundings arguments session error left := by
  rw [execute, perform_bind_of_ok _ (perform_get session)] at failed
  -- The checks come first, and a failure of one of them changes nothing.
  obtain ⟨_, same⟩ | ⟨directory, here, failed⟩ := perform_orThrow_bind_error.mp failed
  · exact .refused same
  obtain ⟨_, same⟩ | ⟨⟨⟩, usage, failed⟩ := perform_orThrow_bind_error.mp failed
  · exact .refused same
  obtain ⟨_, same⟩ | ⟨settings, inForce, failed⟩ := perform_orThrow_bind_error.mp failed
  · exact .refused same
  obtain ⟨_, same⟩ | ⟨⟨⟩, sound, failed⟩ := perform_orThrow_bind_error.mp failed
  · exact .refused same
  split at failed
  · exact .compacting directory _ failed
  · exact .linting directory settings ⟨here, usage, inForce, sound⟩ (lintFailure_of_lint failed)

/-- The log is compacted quietly until it is told how many entries are gone. -/
theorem console_of_compact_error
    (failed : perform (compact store muted) session = (.error error, left)) :
    left.console = session.console ∧ error.IsFileFault := by
  have quiet := Run.quiet_withTodos store.failsBy_compact
  obtain early | ⟨removed, mid, _, late⟩ := perform_bind_error.mp failed
  · exact quiet.of_error early
  · split at late <;> cases late

/-- The lines of a report that are shown; notes may be muted. -/
def linesShown (muted : Bool) (notices : List Notice) : List Line :=
  (notices.filter fun notice => !(notice.isNote && muted)).map Notice.line

/-- A report is shown as far as it has come, and ends as it ends by itself. -/
theorem perform_report_eq (action : Reporting Unit) :
    perform (report muted action) session =
      ((perform action ⟨session.files, []⟩).1,
        { session with
          files := (perform action ⟨session.files, []⟩).2.files
          console := session.console ++
            linesShown muted (perform action ⟨session.files, []⟩).2.shown }) := by
  rw [report, perform_bind_of_ok _ (perform_get session)]
  cases ended : perform action ⟨session.files, []⟩ with
  | mk result desk =>
    have ran : action.run.run ⟨session.files, []⟩ = (result, desk) := ended
    simp only [ran, perform_bind, perform_set, perform_orThrow]
    rfl

/-- What is told of a run beside its findings. -/
def factsOf (arguments : Arguments) (run : RunResults) : RunFacts where
  todoChanges := if arguments.has .updateTodo then some (run.added, run.removed) else none
  maxWarnings := arguments.maxWarnings
  fix := arguments.has .fix

/-- The report of a run fails as its formatter does, and what that has shown stays shown. -/
theorem formatter_of_conclude_error {formatter : Formatter}
    (failed : perform (conclude arguments muted formatter outcome) session =
      (.error error, left)) :
    ∃ run desk, outcome = .completed run ∧
      perform (formatter (.ofFindings run.findings) (factsOf arguments run))
        ⟨session.files, []⟩ = (.error error, desk) ∧
      left.console = session.console ++ linesShown muted desk.shown := by
  -- Only a run with results is reported, and behind the formatter nothing can fail.
  cases outcome with
  | printedConfig => cases failed
  | completed run =>
    obtain early | ⟨_, _, _, late⟩ := perform_bind_error.mp failed
    · rw [perform_report_eq] at early
      obtain ⟨result, rfl⟩ := Prod.mk.inj early
      exact ⟨run, _, rfl, Prod.ext result rfl, rfl⟩
    · cases late

/-- The formatter of a plan fails like one that is found by name. -/
theorem formatter_error
    (planned : Planned surroundings arguments settings store session.files plan)
    {results : Results} {facts : RunFacts} {desk gone : Desk}
    (failed : perform (plan.formatter results facts) desk = (.error error, gone)) :
    error.IsReportFault ∧ (gone.shown = desk.shown ∨
      settings.format = Registry.multiName ∧ ∃ formatters,
        Registry.standard.delegates session.files
          (reportOptions arguments settings surroundings.colours) settings.delegates =
            .ok formatters ∧
        Registry.CutShort formatters results facts desk error gone) := by
  have found := planned.formatter
  unfold findFormatter at found
  split at found
  · -- No formatter is asked for when the settings are shown, so none fails.
    rw [← Except.ok.inj found] at failed
    cases failed
  · exact Registry.resolve_error found failed

/-- A run over files leaves all as it was, or fails over a file with nothing shown. -/
theorem console_of_plan_error
    (failed : perform (plan.run surroundings arguments settings store) session =
      (.error error, left)) :
    left.console = session.console ∧ (error.IsFileFault ∨ left = session) :=
  Run.console_of_run_error (Run.quietEngine_engine _ _ _ _ _) failed

/--
An invocation that is rejected for what the user asks or configures leaves everything as it was:
the disk, the lines shown, the input and what is remembered.
-/
theorem eq_of_rejected
    (failed : perform (execute surroundings arguments) session = (.error error, left))
    (rejected : error.isRejection = true) : left = session := by
  -- Each fault that is met at work is none of those that reject an invocation.
  cases failure_of_execute failed with
  | refused same => exact same
  | compacting directory muted failed =>
    have ours := (console_of_compact_error failed).2.not_isRejection
    simp [ours] at rejected
  | linting directory settings prepared failed =>
    cases failed with
    | unplanned same => exact same
    | running plan failed =>
      rcases (console_of_plan_error failed).2 with ours | same
      · simp [ours.not_isRejection] at rejected
      · exact same
    | reporting plan outcome mid planned ran failed =>
      obtain ⟨run, desk, rfl, failing, _⟩ := formatter_of_conclude_error failed
      have ours := (formatter_error planned failing).1.not_isRejection
      simp [ours] at rejected

/-- A command line that asks for every change there is, and for a report into a file. -/
def sampleChanges (paths : List String) (format : String) : Arguments :=
  { Arguments.blank with
    paths, switches := [.fix, .updateTodo, .cleanTodo], format := some format
    outputFile := some "report.json" }

/-- An invocation whose formatter does not exist fixes nothing and makes no todo. -/
theorem eq_of_rejected_sample :
    let ended := sampleRun (sampleChanges ["a.hbs"] "nope") (sampleDisk "" [])
    (∃ error : LintError, error.isRejection = true ∧ ended.1 = .error error) ∧
      ended.2 = .fresh (sampleDisk "" []) .empty := by
  have fails : (sampleRun (sampleChanges ["a.hbs"] "nope") (sampleDisk "" [])).1 =
      .error (.formatterNotLoaded "nope"
        (.noProgram ["/p/nope", "/p/tmplint-formatter-nope"])) := by
    decide +kernel
  -- From here on only the outcome of the invocation counts, not how it is computed.
  generalize outcome : sampleRun (sampleChanges ["a.hbs"] "nope") (sampleDisk "" []) = ended
    at fails ⊢
  obtain ⟨answer, left⟩ := ended
  obtain rfl : answer = _ := fails
  exact ⟨⟨_, rfl, rfl⟩, eq_of_rejected outcome rfl⟩

/--
Several formatters report on a run that is over, and one of them fails when others before it have
shown their reports: just these are shown, without their notes if notes are muted.
-/
structure PartlyReported (surroundings : Surroundings) (arguments : Arguments)
    (session : Session (Option (List Todo))) (error : LintError)
    (left : Session (Option (List Todo))) (directory : String) (settings : Settings) (plan : Plan)
    (run : RunResults) (mid : Session (Option (List Todo))) (formatters : List Formatter)
    (desk : Desk) : Prop where
  prepared : Prepared surroundings arguments session.files directory settings
  several : settings.format = Registry.multiName
  planned : Planned surroundings arguments settings (storeIn directory) session.files plan
  ran : perform (plan.run surroundings arguments settings (storeIn directory)) session =
    (.ok (.completed run), mid)
  found : Registry.standard.delegates session.files
    (reportOptions arguments settings surroundings.colours) settings.delegates = .ok formatters
  cut : Registry.CutShort formatters (.ofFindings run.findings) (factsOf arguments run)
    ⟨mid.files, []⟩ error desk
  shown : left.console = session.console ++
    linesShown (arguments.mutesNotes settings.format) desk.shown

/--
An invocation that fails has shown nothing, unless it is one of several formatters that fails, and
then it has shown the reports of those before it.
-/
theorem console_of_execute_error
    (failed : perform (execute surroundings arguments) session = (.error error, left)) :
    left.console = session.console ∨
      ∃ directory settings plan run mid formatters desk,
        PartlyReported surroundings arguments session error left directory settings plan run mid
          formatters desk := by
  cases failure_of_execute failed with
  | refused same => exact .inl (same ▸ rfl)
  | compacting directory muted failed => exact .inl (console_of_compact_error failed).1
  | linting directory settings prepared failed =>
    cases failed with
    | unplanned same => exact .inl (same ▸ rfl)
    | running plan failed => exact .inl (console_of_plan_error failed).1
    | reporting plan outcome mid planned ran failed =>
      obtain ⟨run, desk, rfl, failing, console⟩ := formatter_of_conclude_error failed
      have silent : mid.console = session.console :=
        Run.console_of_run_completed (Run.quietEngine_engine _ _ _ _ _) ran
      rw [silent] at console
      rcases (formatter_error planned failing).2 with none | ⟨several, formatters, found, cut⟩
      · -- The formatter that fails begins with nothing shown.
        left
        simpa [none, linesShown] using console
      · exact .inr ⟨directory, settings, plan, run, mid, formatters, desk, prepared, several,
          planned, ran, found, cut, console⟩

/-- A project whose report is to be shown, and then to be put where a directory stands. -/
def sampleMulti : FileSystem :=
  sampleDisk ("[format]\nname=\"multi\"\n[[format.formatters]]\nname=\"pretty\"\n" ++
    "[[format.formatters]]\nname=\"json\"\noutput_file=\"d\"\n") [(["p", "d"], .directory)]

/-- A command line that names the template of the sample project. -/
def samplePlain : Arguments :=
  { Arguments.blank with paths := ["a.hbs"] }

/-- An invocation that fails to write its second report has shown the first. -/
theorem partial_report :
    let ended := sampleRun samplePlain sampleMulti
    ended.1 = .error (.unwritable "/p/d" .isDirectory) ∧
      (Session.fresh sampleMulti .empty).console = [] ∧ ended.2.console ≠ [] := by
  decide +kernel

/-- What an invocation has shown that fails to write its second report is the first report. -/
theorem console_of_execute_error_sample :
    ∃ error directory settings plan run mid formatters desk,
      (sampleRun samplePlain sampleMulti).1 = .error error ∧
        PartlyReported sampleSurroundings samplePlain (.fresh sampleMulti .empty) error
          (sampleRun samplePlain sampleMulti).2 directory settings plan run mid formatters
          desk := by
  have fails : (sampleRun samplePlain sampleMulti).1 =
        .error (.unwritable "/p/d" .isDirectory) ∧
      (sampleRun samplePlain sampleMulti).2.console ≠ [] := by
    decide +kernel
  -- From here on only the outcome of the invocation counts, not how it is computed.
  generalize outcome : sampleRun samplePlain sampleMulti = ended at fails ⊢
  obtain ⟨answer, left⟩ := ended
  obtain ⟨rfl, shown⟩ : answer = _ ∧ left.console ≠ [] := fails
  rcases console_of_execute_error outcome with none |
    ⟨directory, settings, plan, run, mid, formatters, desk, cut⟩
  · exact absurd none shown
  · exact ⟨_, directory, settings, plan, run, mid, formatters, desk, rfl, cut⟩

end Invocation

end TemplateLint
