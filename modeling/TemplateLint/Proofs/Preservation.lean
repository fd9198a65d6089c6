import TemplateLint.Proofs.Adoption
import TemplateLint.Proofs.Report.Delivery
import TemplateLint.Proofs.Run.Invariant

/-!
What an invocation may do to the log of todos: unless it is asked to compact the log it changes it
by adding entries at the end, of the kinds that its command line asks for, wherever it ends.
-/

namespace TemplateLint

open Effect FileSystem

namespace TodoStore

variable {store : TodoStore} {may : Todo.Change → Prop} {files others : FileSystem} {path : String}

/-- A path does not come to lead to the log by whatever directories and files are made. -/
def Secluded (store : TodoStore) (files : FileSystem) (path : String) : Prop :=
  ∀ others, Extends files others → ∀ spot, store.IsLogPlace others spot →
    others.target? path ≠ some spot

/-- What a change of a file would touch, it would touch after other things are made. -/
theorem target?_of_extends (grown : Extends files others) {spot : Location}
    (leads : files.target? path = some spot) : others.target? path = some spot := by
  have opened := locate_opened grown path true
  simp only [target?] at leads ⊢
  generalize others.locate path true = after at opened ⊢
  generalize files.locate path true = before at opened leads
  -- A way that led to a spot leads there whatever is made.
  cases opened with
  | kept => exact leads
  | @filled _ slashed =>
    cases slashed with
    | true => simp at leads
    | false => simpa using leads
  | blocked => simp at leads
  | onward => simp at leads

/-- A path to a file in a directory that is there is secluded unless it leads to the log. -/
theorem secluded_of_target {spot place : Location} (leads : files.target? path = some spot)
    (stands : store.IsLogPlace files place) (away : spot ≠ place) : store.Secluded files path := by
  intro others grown found isLog same
  have here := target?_of_extends grown leads
  have there := target?_of_extends grown stands
  rw [IsLogPlace, there] at isLog
  exact away (Option.some.inj (here.symm.trans (same.trans isLog.symm)))

/-- Reports are being written into files: the log reads as it did but for entries added before. -/
structure Spared (store : TodoStore) (may : Todo.Change → Prop) (paths : List String)
    (files others : FileSystem) : Prop where
  grown : Extends files others
  charted : paths ≠ [] → others.IsCharted store.logPath
  log : store.Lengthened may files others

/-- Reports into secluded files leave the log as it is. -/
theorem survives_spared {paths : List String}
    (secluded : ∀ path ∈ paths, store.Secluded files path) :
    Report.Survives (store.Spared may paths files) paths where
  directories some spared free :=
    ⟨spared.grown.trans (extends_put free),
      fun some => (extends_put free).isCharted (spared.charted some),
      spared.log.trans (lengthened_of_eq (bytes?_put free (spared.charted some)))⟩
  texts {disk made path text} member spared done := by
    -- The path is secluded, so it does not lead to the log on the disk as it is by now.
    have tended : store.Tended may disk made :=
      tended_of_write done (secluded path member disk spared.grown)
    have grown := tended.written.extends
    exact ⟨spared.grown.trans grown, fun some => grown.isCharted (spared.charted some),
      spared.log.trans tended.log⟩

end TodoStore

namespace Invocation

variable {surroundings : Surroundings} {arguments : Arguments} {files : FileSystem}
  {directory : String} {settings : Settings} {session : Session (Option (List Todo))}

/-- What holds whether or not a pure step fails holds after the step and all that follows. -/
theorem holds_of_orThrow_bind {α β : Type} {holds : FileSystem → Prop}
    {result : Except LintError α} {next : α → Step β} (held : holds session.files)
    (there : ∀ own, result = .ok own → holds (perform (next own) session).2.files) :
    holds (perform (orThrow result >>= next) session).2.files := by
  rw [perform_bind, perform_orThrow]
  cases result with
  | error error => exact held
  | ok own => exact there own rfl

/-- A report that is shown leaves the disk as the report does. -/
theorem report_respects {holds : FileSystem → Prop} {action : Reporting Unit}
    (kept : Keeps (fun desk => holds desk.files) action) (muted : Bool) :
    Run.Respects holds (report muted action) := by
  refine keeps_get_bind fun session held => ?_
  -- A report works on a desk, and its disk is taken over even if the report fails.
  have left := kept ⟨session.files, []⟩ held
  simp only [perform] at left
  simp only
  cases outcome : action.run.run ⟨session.files, []⟩ with
  | mk result desk =>
    rw [outcome] at left
    simp only [perform_bind, perform_set, perform_orThrow]
    exact left

/-- A run is concluded as its report is. -/
theorem conclude_respects {holds : FileSystem → Prop} {formatter : Formatter}
    (kept : Report.KeepsDisk holds formatter) (muted : Bool) (outcome : RunOutcome) :
    Run.Respects holds (conclude arguments muted formatter outcome) := by
  cases outcome with
  | printedConfig => exact keeps_pure _
  | completed run => exact keeps_bind (report_respects (kept _ _) muted) fun _ => keeps_pure _

/-- The paths that an invocation writes to, its files and its reports, do not lead to the log. -/
structure SparesLog (surroundings : Surroundings) (arguments : Arguments) (files : FileSystem)
    (directory : String) (settings : Settings) : Prop where
  ours : Registry.IsBuiltIn settings.format
    (reportOptions arguments settings surroundings.colours)
  linted : ∀ specs, resolve files directory arguments.paths settings.ignore = .ok specs →
    ∀ path, .path path ∈ specs.specs → ∀ spot, (storeIn directory).IsLogPlace files spot →
      files.target? (Path.join directory path) ≠ some spot
  reports : ∀ path ∈ Registry.outputFiles settings.format
      (reportOptions arguments settings surroundings.colours),
    (storeIn directory).Secluded files path
  charted : Registry.outputFiles settings.format
      (reportOptions arguments settings surroundings.colours) ≠ [] →
    files.IsCharted (storeIn directory).logPath

/-- The report of a run leaves the log as the run left it. -/
theorem conclude_lengthens_log {mid : FileSystem} {may : Todo.Change → Prop}
    (spares : SparesLog surroundings arguments files directory settings)
    (tended : (storeIn directory).Tended may files session.files) {formatter : Formatter}
    (found : findFormatter surroundings arguments settings mid = .ok formatter) (muted : Bool)
    (outcome : RunOutcome) :
    (storeIn directory).Lengthened may files
      (perform (conclude arguments muted formatter outcome) session).2.files := by
  have grown := tended.written.extends
  -- Only reports make directories, so the way to the log need be known for them alone.
  have start : (storeIn directory).Spared may (Registry.outputFiles settings.format
      (reportOptions arguments settings surroundings.colours)) files session.files :=
    ⟨grown, fun some => grown.isCharted (spares.charted some), tended.log⟩
  have kept : Report.KeepsDisk ((storeIn directory).Spared may
      (Registry.outputFiles settings.format
        (reportOptions arguments settings surroundings.colours)) files) formatter := by
    unfold findFormatter at found
    split at found
    · obtain rfl := Except.ok.inj found
      exact fun _ _ => keeps_pure _
    · exact Registry.resolve_keeps spares.ours found (TodoStore.survives_spared spares.reports)
  exact (conclude_respects kept muted outcome session start).log

/-- Linting adds to the log what the command line asks for, wherever it ends. -/
theorem lint_lengthens_log (here : settings.workingDir = directory)
    (spares : SparesLog surroundings arguments session.files directory settings) (muted : Bool) :
    (storeIn directory).Lengthened (Run.MayLog (runOptions arguments) settings.overriding)
      session.files
      (perform (lint surroundings arguments settings (storeIn directory) muted)
        session).2.files := by
  rw [lint_eq, perform_bind_of_ok _ (perform_get session)]
  -- Until the run begins nothing is changed, so to fail before it leaves the log as it is.
  have same : (storeIn directory).Lengthened (Run.MayLog (runOptions arguments)
      settings.overriding) session.files session.files := TodoStore.lengthened_of_eq rfl
  refine holds_of_orThrow_bind same fun decay _ => ?_
  refine holds_of_orThrow_bind same fun specs found => ?_
  refine holds_of_orThrow_bind same fun rules _ => ?_
  refine holds_of_orThrow_bind same fun formatter made => ?_
  have tended : (storeIn directory).Tended
      (Run.MayLog (runOptions arguments) settings.overriding) session.files
      (perform (Plan.run ⟨decay, specs, rules, formatter⟩ surroundings arguments settings
        (storeIn directory)) session).2.files := by
    rw [here] at found
    rw [Plan.run, here]
    exact Run.run_tends_log (spares.linted specs found)
  rw [perform_bind]
  cases ran : perform (Plan.run ⟨decay, specs, rules, formatter⟩ surroundings arguments settings
      (storeIn directory)) session with
  | mk answer left =>
    rw [ran] at tended
    cases answer with
    | error error => exact tended.log
    | ok outcome => exact conclude_lengthens_log spares tended made muted outcome

/--
Unless it is asked to compact the log, an invocation changes the log by adding entries at its end,
whether it completes or fails: it leaves the log as it is if it is to update, fix and clean up
nothing, it makes todos only to update them, and it drops none while rules are overridden.
-/
theorem execute_lengthens_log (plain : arguments.has .compactTodo = false)
    (here : ∀ own, workingDir files surroundings.currentDir arguments.workingDirectory = .ok own →
      own = directory)
    (spares : ∀ settings, Settings.effective files directory arguments = .ok settings →
      SparesLog surroundings arguments files directory settings) (input : Content) :
    ∃ more : List Todo.Change,
      let left := (perform (execute surroundings arguments) (.fresh files input)).2.files
      ((storeIn directory).logBytes? left).getD [] =
          ((storeIn directory).logBytes? files).getD [] ++ TodoStore.entryBytes more ∧
        (arguments.has .updateTodo = false ∧ arguments.has .fix = false ∧
            arguments.has .cleanTodo = false →
          (storeIn directory).logBytes? left = (storeIn directory).logBytes? files) ∧
        (∀ todo, .add todo ∈ more → arguments.has .updateTodo = true) ∧
        (arguments.config.isSome = true ∨ arguments.rules ≠ [] → ∀ todo, .remove todo ∉ more) := by
  have lengthened : (storeIn directory).Lengthened (Run.MayLog (runOptions arguments)
      (arguments.config.isSome || !arguments.rules.isEmpty)) files
      (perform (execute surroundings arguments) (.fresh files input)).2.files := by
    have same : (storeIn directory).Lengthened (Run.MayLog (runOptions arguments)
        (arguments.config.isSome || !arguments.rules.isEmpty)) files
        (Session.fresh files input).files := TodoStore.lengthened_of_eq rfl
    rw [execute, perform_bind_of_ok _ (perform_get _)]
    refine holds_of_orThrow_bind same fun own found => ?_
    obtain rfl := here own found
    refine holds_of_orThrow_bind same fun _ _ => ?_
    refine holds_of_orThrow_bind same fun settings inForce => ?_
    refine holds_of_orThrow_bind same fun _ _ => ?_
    obtain ⟨works, overriding⟩ := eq_of_effective inForce
    rw [if_neg (by simp [plain]), ← overriding]
    exact lint_lengthens_log works (spares settings inForce) _
  obtain ⟨more, may, bytes, idle⟩ := lengthened
  refine ⟨more, bytes, ?_, fun todo member => may _ member, ?_⟩
  · -- Every entry needs one of the three to be asked for.
    rintro ⟨noUpdate, noFix, noCleanup⟩
    refine idle (List.eq_nil_iff_forall_not_mem.mpr fun change member => ?_)
    have asked := may change member
    cases change <;> simp [Run.MayLog, runOptions, noUpdate, noFix, noCleanup] at asked
  · intro overrides todo member
    have plain := (may _ member).1
    simp only [Bool.or_eq_false_iff, Bool.not_eq_false', List.isEmpty_iff] at plain
    rcases overrides with config | rules
    · simp [plain.1] at config
    · exact rules plain.2

/-- The text of a log that holds one todo, which no rule of the sample project needs. -/
def sampleLog : String :=
  .ofList (Todo.renderLog [.add (TodoStore.sampleTodo 1)])

/-- The sample project with its log. -/
def sampleLogged : FileSystem :=
  sampleDisk "" [(["p", ".lint-todo"], .file (.text sampleLog) false)]

/-- A command line that has the report of a run put into a file. -/
def sampleReport (file : String) (switches : List Switch) (rules : List String) : Arguments :=
  { Arguments.blank with
    paths := ["a.hbs"], switches, rules, format := some "json", outputFile := some file }

/-- An update under a rule that is given another severity, with a report beside the log. -/
def sampleOverride : Arguments :=
  sampleReport "report.json" [.updateTodo] ["r:error"]

/-- The sample project spares its log when a report beside it is asked for. -/
theorem sparesLog_sample {settings : Settings}
    (inForce : Settings.effective sampleLogged "/p" sampleOverride = .ok settings) :
    SparesLog sampleSurroundings sampleOverride sampleLogged "/p" settings := by
  -- The settings are unknown as a whole, so what counts of them is computed.
  have facts : (Settings.effective sampleLogged "/p" sampleOverride).toOption.map
      (fun settings => (settings.format, settings.outputFile, settings.ignore)) =
        some ("json", some "/p/report.json", IgnoreSpec.defaults) := by
    decide +kernel
  rw [inForce] at facts
  simp only [Except.toOption, Option.map_some, Option.some.injEq, Prod.mk.injEq] at facts
  obtain ⟨format, file, ignore⟩ := facts
  have place : (storeIn "/p").IsLogPlace sampleLogged ["p", ".lint-todo"] :=
    (by decide +kernel : sampleLogged.target? "/p/.lint-todo" = some ["p", ".lint-todo"])
  have files : Registry.outputFiles settings.format
      (reportOptions sampleOverride settings sampleSurroundings.colours) =
        ["/p/report.json"] := by
    rw [format, Registry.outputFiles, if_neg (by decide), reportOptions, file]
    rfl
  refine ⟨.inl (by rw [format]; decide), ?_, ?_, ?_⟩
  · have linted : (resolve sampleLogged "/p" ["a.hbs"] .defaults).toOption.map FileSet.specs =
        some [.path "a.hbs"] := by
      decide +kernel
    intro specs found path member spot log leads
    have named : resolve sampleLogged "/p" ["a.hbs"] .defaults = .ok specs := ignore ▸ found
    rw [named, Except.toOption, Option.map_some, Option.some.injEq] at linted
    obtain rfl : path = "a.hbs" := by simpa [linted] using member
    have template : sampleLogged.target? (Path.join "/p" "a.hbs") = some ["p", "a.hbs"] := by
      decide +kernel
    obtain rfl : ["p", "a.hbs"] = spot := Option.some.inj (template.symm.trans leads)
    exact absurd (Option.some.inj (place.symm.trans log)) (by decide)
  · intro path member
    obtain rfl : path = "/p/report.json" := by simpa [files] using member
    exact TodoStore.secluded_of_target
      (by decide +kernel : sampleLogged.target? "/p/report.json" = some ["p", "report.json"])
      place (by decide)
  · intro _
    have leads : sampleLogged.locate (storeIn "/p").logPath true =
        .ok (.present ["p", ".lint-todo"]) := by
      decide +kernel
    rw [IsCharted, leads]
    simp

/-- Under an override the log gets longer by a todo, and none of its todos is dropped. -/
theorem execute_lengthens_log_sample :
    let left := (sampleRun sampleOverride sampleLogged).2.files
    (left.readText "/p/.lint-todo").toOption.map String.utf8ByteSize ≠
        (sampleLogged.readText "/p/.lint-todo").toOption.map String.utf8ByteSize ∧
      ∃ more : List Todo.Change,
        ((storeIn "/p").logBytes? left).getD [] =
            ((storeIn "/p").logBytes? sampleLogged).getD [] ++ TodoStore.entryBytes more ∧
          ∀ todo, .remove todo ∉ more := by
  have grows : ((sampleRun sampleOverride sampleLogged).2.files.readText
      "/p/.lint-todo").toOption.map String.utf8ByteSize ≠
        (sampleLogged.readText "/p/.lint-todo").toOption.map String.utf8ByteSize := by
    decide +kernel
  have here : ∀ own, workingDir sampleLogged "/p" none = .ok own → own = "/p" := by
    have found : workingDir sampleLogged "/p" none = .ok "/p" := by decide +kernel
    exact fun own same => Except.ok.inj (same.symm.trans found)
  -- From here on only the outcome of the invocation counts, not how it is computed.
  have lengthened := execute_lengthens_log (by decide) here (fun _ => sparesLog_sample) .empty
  rw [← sampleRun] at lengthened
  generalize sampleRun sampleOverride sampleLogged = result at grows lengthened ⊢
  obtain ⟨more, bytes, _, _, keeps⟩ := lengthened
  exact ⟨grows, more, bytes, keeps (.inr (by decide))⟩

/--
The way to the log has to be there: a log that is a link through a missing directory comes to be
read once a report makes that directory, though no todo is to be updated, fixed or cleaned up.
-/
theorem log_uncovered :
    let linked := sampleDisk "" [(["p", "real.txt"], .file (.text sampleLog) false),
      (["p", ".lint-todo"], .link "d/../real.txt")]
    let plain := sampleReport "d/out.json" [] []
    let left := (sampleRun plain linked).2.files
    (plain.has .compactTodo = false ∧ plain.has .updateTodo = false ∧ plain.has .fix = false ∧
        plain.has .cleanTodo = false) ∧
      (left.target? "/p/.lint-todo" = some ["p", "real.txt"] ∧
        left.target? "/p/a.hbs" = some ["p", "a.hbs"] ∧
        left.target? "/p/d/out.json" = some ["p", "d", "out.json"]) ∧
      ((storeIn "/p").logBytes? linked = none ∧
        ((storeIn "/p").logBytes? left).isSome = true) := by
  decide +kernel

end Invocation

end TemplateLint
