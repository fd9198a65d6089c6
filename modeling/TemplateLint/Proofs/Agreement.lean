import TemplateLint.Proofs.Failure
import TemplateLint.Proofs.Report.Delivery
import TemplateLint.Proofs.Report.Entries

/-!
The exit status agrees with the report for machines: whoever reads the report can tell from its
entries how the invocation ended.
-/

namespace TemplateLint

open Effect

namespace Invocation

variable {surroundings : Surroundings} {arguments : Arguments} {settings : Settings}
  {session left : Session (Option (List Todo))} {status : Nat}

/--
A text is the one report that an invocation gives out, on a line of its output or into the file that
the settings name; only a sink keeps nothing of it.
-/
structure Emits (surroundings : Surroundings) (arguments : Arguments) (settings : Settings)
    (session left : Session (Option (List Todo))) (text : String) : Prop where
  delivered : ∃ mid : Session (Option (List Todo)), mid.console = session.console ∧
    perform (report (arguments.mutesNotes settings.format)
      (Report.deliver (reportOptions arguments settings surroundings.colours) text)) mid =
        (.ok (), left)
  shown : settings.outputFile = none → left.console = session.console ++ [⟨.log, text⟩]
  written : ∀ path, settings.outputFile = some path → left.console = session.console ∧
    (left.files.readText path = .ok text ∨ left.files.follow? path = some .sink)

/-- A report without notes that is delivered is given out. -/
theorem emits_of_delivered {text : String} (muted : arguments.mutesNotes settings.format = true)
    (some : text.isEmpty = false) {mid : Session (Option (List Todo))}
    (silent : mid.console = session.console)
    (done : perform (report (arguments.mutesNotes settings.format)
      (Report.deliver (reportOptions arguments settings surroundings.colours) text)) mid =
        (.ok (), left)) :
    Emits surroundings arguments settings session left text := by
  have ended := done
  rw [perform_report_eq, muted] at ended
  generalize outcome : perform (Report.deliver
    (reportOptions arguments settings surroundings.colours) text) ⟨mid.files, []⟩ = result at ended
  obtain ⟨answer, desk⟩ := result
  obtain ⟨rfl, rfl⟩ := Prod.mk.inj ended
  have gives : Report.GivesOut (reportOptions arguments settings surroundings.colours) text _ :=
    Report.givesOut_deliver some
  refine ⟨⟨mid, silent, done⟩, fun noFile => ?_, fun path file => ?_⟩
  · obtain rfl := (Prod.mk.inj (outcome.symm.trans (gives.shown noFile _))).2
    simp [linesShown, silent]
  · obtain ⟨kept, note⟩ := gives.written path file _ _ outcome
    -- The note about the file is muted, so the output is as it was.
    exact ⟨by simp [linesShown, note, silent], kept⟩

/-- The formatter for machines is the one that is found by its name. -/
theorem formatter_of_json {store : TodoStore} {files : FileSystem} {plan : Plan}
    (planned : Planned surroundings arguments settings store files plan)
    (reports : arguments.has .printConfig = false) (format : settings.format = "json") :
    plan.formatter = Report.json (reportOptions arguments settings surroundings.colours) := by
  have found := planned.formatter
  rw [findFormatter, if_neg (by simp [reports]), format] at found
  exact (Except.ok.inj found).symm

/-- What is shown of findings condemns as all of them do: only what does not count is left out. -/
theorem condemns_visible (options : ReportOptions) (results : Results)
    (maxWarnings : Option Nat) :
    Report.Condemns (Report.fieldsOf (options.visible results)) options.quiet maxWarnings ↔
      (Summary.ofFindings results.findings).exitStatus options.quiet maxWarnings = 1 := by
  rw [Report.condemns_fieldsOf, Summary.exitStatus_eq_one_iff, ReportOptions.visible]
  -- Errors are always shown, and warnings are where they count.
  have errors : (∃ finding ∈ results.findings.filter options.shows, finding.severity = .error) ↔
      ∃ finding ∈ results.findings, finding.severity = .error := by
    constructor
    · rintro ⟨finding, member, error⟩
      exact ⟨finding, (List.mem_filter.mp member).1, error⟩
    · rintro ⟨finding, member, error⟩
      exact ⟨finding, List.mem_filter.mpr ⟨member, by simp [ReportOptions.shows, error]⟩, error⟩
  have warnings (loud : options.quiet = false) :
      (results.findings.filter options.shows).countP (·.severity = .warning) =
        results.findings.countP (·.severity = .warning) := by
    rw [List.countP_filter]
    refine List.countP_congr fun finding _ => ?_
    cases weight : finding.severity <;> simp [ReportOptions.shows, weight, loud]
  rw [errors]
  cases loud : options.quiet with
  | true => simp
  | false => rw [warnings loud]

/--
The exit status agrees with the report for machines: it is one exactly if some entry of the report
is an error, or there are more warnings among the entries than are allowed and warnings count, and
it is zero otherwise, in whatever order the files are listed.
-/
theorem status_of_report (machines : arguments.format = some "json")
    (lints : arguments.has .compactTodo = false) (reports : arguments.has .printConfig = false)
    (done : perform (execute surroundings arguments) session = (.ok status, left)) :
    ∃ directory settings text fields,
      Prepared surroundings arguments session.files directory settings ∧
      Emits surroundings arguments settings session left text ∧
      Json.parse? text.toList = some (.object fields) ∧ (fields.map (·.1)).Nodup ∧
      ∀ listed : List (String × Json), listed.Perm fields →
        (status = 1 ↔ Report.Condemns listed (arguments.has .quiet) arguments.maxWarnings) ∧
        (status = 0 ↔ ¬Report.Condemns listed (arguments.has .quiet) arguments.maxWarnings) := by
  obtain ⟨directory, settings, prepared, proceeded⟩ := perform_execute_ok.mp done
  rw [proceed, if_neg (by simp [lints])] at proceeded
  obtain ⟨plan, outcome, mid, planned, ran, concluded⟩ := perform_lint_ok.mp proceeded
  have format := format_of_effective machines prepared.inForce
  have muted : arguments.mutesNotes settings.format = true := by
    simp [Arguments.mutesNotes, format]
  -- A run that does not show settings completes with findings, and has shown nothing so far.
  obtain ⟨run, rfl⟩ : ∃ run, outcome = .completed run := by
    rw [Plan.run_of_reports reports] at ran
    obtain ⟨run, _, _, answered⟩ := perform_bind_ok.mp ran
    exact ⟨run, (Except.ok.inj (Prod.mk.inj answered).1).symm⟩
  have silent : mid.console = session.console :=
    Run.console_of_run_completed (Run.quietEngine_engine _ _ _ _ _) ran
  obtain ⟨⟨⟩, ended, reported, answered⟩ := perform_bind_ok.mp concluded
  obtain ⟨answer, rfl⟩ := Prod.mk.inj answered
  obtain rfl := Except.ok.inj answer
  rw [formatter_of_json planned reports format] at reported
  -- The text that is given out is read back, and the report it writes is that of what is shown.
  let options := reportOptions arguments settings surroundings.colours
  let shown := options.visible (.ofFindings run.findings)
  have parsed := Json.parse?_renderIndented (Report.isPlain_fieldsOf shown)
  have some : (Json.renderIndented (.object (Report.fieldsOf shown))).isEmpty = false := by
    cases empty : (Json.renderIndented (.object (Report.fieldsOf shown))).isEmpty with
    | false => rfl
    | true =>
      rw [String.isEmpty_iff.mp empty] at parsed
      simp [Json.parse?, Json.readValue, Json.skipSpace, Json.readNumber, Json.readDigits] at parsed
  refine ⟨directory, settings, _, Report.fieldsOf shown, prepared,
    emits_of_delivered muted some silent reported, parsed, Report.keys_fieldsOf shown, ?_⟩
  intro listed same
  -- The status counts all findings, and the report only those that are shown.
  rw [Report.condemns_perm same]
  let verdict := (Summary.ofFindings run.findings).exitStatus (arguments.has .quiet)
    arguments.maxWarnings
  have agrees : Report.Condemns (Report.fieldsOf shown) (arguments.has .quiet)
      arguments.maxWarnings ↔ verdict = 1 :=
    condemns_visible options (.ofFindings run.findings) arguments.maxWarnings
  have either : verdict = 0 ∨ verdict = 1 := Summary.exitStatus_cases _ _ _
  show (verdict = 1 ↔ _) ∧ (verdict = 0 ↔ _)
  rw [agrees]
  exact ⟨Iff.rfl, by omega⟩

/-- A command line that asks for a report for machines, and allows no warnings. -/
def sampleMachines : Arguments :=
  { Arguments.blank with paths := ["a.hbs"], format := some "json", maxWarnings := some 0 }

/-- A project in which the sample template breaks a rule that only warns. -/
def sampleWarning : FileSystem :=
  sampleDisk "severity=\"warning\"\n" []

/-- An invocation that fails for one warning too many reports that warning. -/
theorem status_of_report_sample :
    sampleMachines.format = some "json" ∧ sampleMachines.has .compactTodo = false ∧
      sampleMachines.has .printConfig = false ∧
      ∃ left, sampleRun sampleMachines sampleWarning = (.ok 1, left) ∧
        ∃ directory settings text fields,
          Prepared sampleSurroundings sampleMachines sampleWarning directory settings ∧
          Emits sampleSurroundings sampleMachines settings (.fresh sampleWarning .empty) left
            text ∧
          Json.parse? text.toList = some (.object fields) ∧
          Report.Condemns fields false (some 0) := by
  have fails : (sampleRun sampleMachines sampleWarning).1 = .ok 1 := by decide +kernel
  -- From here on only the outcome of the invocation counts, not how it is computed.
  generalize outcome : sampleRun sampleMachines sampleWarning = ended at fails
  obtain ⟨answer, left⟩ := ended
  obtain rfl : answer = .ok 1 := fails
  obtain ⟨directory, settings, text, fields, prepared, emits, parsed, _, agrees⟩ :=
    @status_of_report sampleSurroundings sampleMachines _ _ _ rfl rfl rfl outcome
  exact ⟨rfl, rfl, rfl, left, rfl, directory, settings, text, fields, prepared, emits, parsed,
    (agrees fields (List.Perm.refl _)).1.mp rfl⟩

end Invocation

end TemplateLint
