import TemplateLint.Proofs.Invocation

/-!
A project without a log of todos takes its errors over as todos: one invocation makes the log, and
until a todo is due both the same invocation and one without an update pass and change nothing.
-/

namespace TemplateLint

open Effect

namespace Invocation

variable {surroundings : Surroundings} {arguments : Arguments} {files : FileSystem}
  {directory : String} {settings : Settings} {plan : Plan} {status added removed : Nat}
  {session left : Session (Option (List Todo))}

/-- The store of todos in a directory. -/
abbrev storeIn (directory : String) : TodoStore :=
  ⟨directory, engineName⟩

/-- An invocation runs over files to lint them, and makes and drops so many todos. -/
def Counts (surroundings : Surroundings) (arguments : Arguments)
    (session : Session (Option (List Todo))) (added removed : Nat) : Prop :=
  ∃ directory settings plan findings left,
    Prepared surroundings arguments session.files directory settings ∧
    Planned surroundings arguments settings (storeIn directory) session.files plan ∧
    perform (plan.run surroundings arguments settings (storeIn directory)) session =
      (.ok (.completed ⟨findings, added, removed⟩), left)

/-- An invocation compacts a log that is not there, and leaves the disk as it is. -/
theorem execute_of_compacts
    (prepared : Prepared surroundings arguments session.files directory settings)
    (compacts : arguments.has .compactTodo = true)
    (unlogged : (storeIn directory).Unlogged session.files) (unread : session.memory = none) :
    ∃ left, perform (execute surroundings arguments) session = (.ok 0, left) ∧
      left.files = session.files := by
  have coherent : (storeIn directory).Coherent session.todos [] :=
    ⟨.absent unlogged.follow?_eq_none, by simp [Session.todos, unread]⟩
  obtain ⟨dropped, memory, done, same⟩ := TodoStore.perform_compact coherent
  obtain rfl : memory = session.todos := by
    rcases same with ⟨_, same⟩ | ⟨file, _⟩
    · exact same
    · -- There is no file where there is no log.
      have nothing : session.todos.files.follow? (storeIn directory).logPath = none :=
        unlogged.follow?_eq_none
      simp [FileSystem.isFile, nothing] at file
  have compacted : perform (Session.withTodos (storeIn directory).compact) session =
      (.ok dropped, session) := Session.perform_withTodos_ok.mpr ⟨_, done, rfl⟩
  -- A note about the dropped entries is shown or muted, and the disk is not touched again.
  have whole : ∃ left, perform (compact (storeIn directory)
      (arguments.mutesNotes settings.format)) session = (.ok 0, left) ∧
        left.files = session.files := by
    rw [compact, perform_bind_of_ok _ compacted]
    cases arguments.mutesNotes settings.format with
    | true => exact ⟨session, rfl, rfl⟩
    | false => exact ⟨_, rfl, rfl⟩
  obtain ⟨left, ended, disk⟩ := whole
  refine ⟨left, perform_execute_ok.mpr ⟨directory, settings, prepared, ?_⟩, disk⟩
  rw [proceed, if_pos compacts, ended]

/-- An invocation that shows settings leaves the disk as it is. -/
theorem execute_of_showsSettings
    (prepared : Prepared surroundings arguments session.files directory settings)
    (lints : arguments.has .compactTodo = false)
    (planned : Planned surroundings arguments settings (storeIn directory) session.files plan)
    (shows : arguments.has .printConfig = true) (noLimit : arguments.maxWarnings = none)
    (one : Run.ShowsSettings directory session.files plan.specs.specs) :
    ∃ left, perform (execute surroundings arguments) session = (.ok 0, left) ∧
      left.files = session.files := by
  have here := workingDir_of_effective prepared.inForce
  -- Without a report its maker does nothing at all.
  have silent : Report.OnlyShows plan.formatter := by
    have formatter := planned.formatter
    rw [findFormatter, if_pos shows] at formatter
    obtain same := Except.ok.inj formatter
    exact fun _ _ desk => ⟨desk.shown, by rw [← same]; rfl⟩
  have showing : (runOptions arguments).printConfig = true := shows
  obtain ⟨outcome, mid, done, disk, outcomes⟩ := Run.run_of_showsSettings showing one plan.rules
    (storeIn directory) surroundings.today plan.decay settings.overriding
  have ran : perform (plan.run surroundings arguments settings (storeIn directory)) session =
      (.ok outcome, mid) := by
    rw [Plan.run, here, done]
  -- Of no files an empty report would be made, of one its settings are shown.
  have concluded : ∃ left, perform (conclude arguments (arguments.mutesNotes settings.format)
      plan.formatter outcome) mid = (.ok 0, left) ∧ left.files = mid.files := by
    rcases outcomes with rfl | rfl
    · exact ⟨mid, rfl, rfl⟩
    · exact perform_conclude silent noLimit (by simp) _ mid
  obtain ⟨left, ended, same⟩ := concluded
  refine ⟨left, perform_execute_ok.mpr ⟨directory, settings, prepared, ?_⟩, same.trans disk⟩
  rw [proceed, if_neg (by simp [lints])]
  exact perform_lint_ok.mpr ⟨plan, outcome, mid, planned, ran, ended⟩

/-- The formatter of a report that is shown only shows lines. -/
theorem Planned.onlyShows {store : TodoStore}
    (planned : Planned surroundings arguments settings store files plan)
    (reports : arguments.has .printConfig = false)
    (shown : Registry.IsShown settings.format
      (reportOptions arguments settings surroundings.colours)) :
    Report.OnlyShows plan.formatter := by
  have formatter := planned.formatter
  rw [findFormatter, if_neg (by simp [reports])] at formatter
  exact (Registry.resolve_of_isShown shown formatter).1

/-- A run that reports is one over all files in order. -/
theorem Plan.run_of_reports (reports : arguments.has .printConfig = false) {store : TodoStore} :
    plan.run surroundings arguments settings store = (do
      let results ← Run.lintFiles (plan.rules.engine store surroundings.today)
        settings.workingDir (runOptions arguments) plan.decay settings.overriding plan.specs.specs
      pure (.completed results)) := by
  have lintsFiles : (runOptions arguments).printConfig = false := reports
  rw [Plan.run, Run.run, if_neg (by simp [lintsFiles])]

/-- An invocation over files whose errors are adopted passes, and leaves the disk as it is. -/
theorem execute_of_adopted
    (prepared : Prepared surroundings arguments session.files directory settings)
    (lints : arguments.has .compactTodo = false)
    (planned : Planned surroundings arguments settings (storeIn directory) session.files plan)
    (reports : arguments.has .printConfig = false) (noFix : arguments.has .fix = false)
    (noLimit : arguments.maxWarnings = none)
    (shown : Registry.IsShown settings.format
      (reportOptions arguments settings surroundings.colours))
    {changes : List Todo.Change}
    (adopted : Run.Adopted plan.rules surroundings.today directory files (Todo.live changes)
      plan.specs.specs)
    (away : ∀ spec ∈ plan.specs.specs, ∃ path, spec = .path path ∧
      (storeIn directory).LeadsAway files (Path.join directory path))
    (grown : (storeIn directory).Grown files session.files)
    (coherent : (storeIn directory).Coherent session.todos changes) :
    ∃ left, perform (execute surroundings arguments) session = (.ok 0, left) ∧
      left.files = session.files ∧ Counts surroundings arguments session 0 0 := by
  have here := workingDir_of_effective prepared.inForce
  have fixesNone : (runOptions arguments).fix = false := noFix
  -- The run over adopted files makes and drops nothing, and finds no error that counts.
  obtain ⟨⟨findings, added, removed⟩, mid, done, ⟨rfl, rfl⟩, noErrors, disk, _⟩ :=
    Run.lintFiles_of_adopted fixesNone (RuleSet.distinct_of_ofConfig planned.rules) adopted away
      (fun _ member => member) grown coherent plan.decay settings.overriding
  have ran : perform (plan.run surroundings arguments settings (storeIn directory)) session =
      (.ok (.completed ⟨findings, 0, 0⟩), mid) := by
    rw [Plan.run_of_reports reports, here, perform_bind_of_ok _ done, perform_pure]
  obtain ⟨left, ended, same⟩ := perform_conclude (planned.onlyShows reports shown) noLimit
    noErrors (arguments.mutesNotes settings.format) mid
  -- The report only shows lines, so the disk stays what the run has left.
  refine ⟨left, perform_execute_ok.mpr ⟨directory, settings, prepared, ?_⟩, same.trans disk,
    directory, settings, plan, findings, mid, prepared, planned, ran⟩
  rw [proceed, if_neg (by simp [lints])]
  exact perform_lint_ok.mpr ⟨plan, _, mid, planned, ran, ended⟩

/-- A command line updates the todos of files that it names, and asks for nothing else of them. -/
structure Updates (arguments : Arguments) : Prop where
  updates : arguments.has .updateTodo = true
  noFix : arguments.has .fix = false
  noConfig : arguments.config = none
  noRules : arguments.rules = []
  noLimit : arguments.maxWarnings = none
  named : asksForStdin arguments.paths = false

/--
A project has no log of todos, reports on the screen, and gives new todos at least a day; nothing
but the log's own name leads to the log's place.
-/
structure Suits (surroundings : Surroundings) (arguments : Arguments) (files : FileSystem)
    (directory : String) (settings : Settings) : Prop where
  shown : Registry.IsShown settings.format
    (reportOptions arguments settings surroundings.colours)
  lasting : ∀ decay, (storeIn directory).decay files settings.todo arguments.days = .ok decay →
    decay.error ≠ some 0
  unlogged : (storeIn directory).Unlogged files
  away : ∀ pattern ∈ arguments.paths,
    (storeIn directory).LeadsAway files (Path.join directory pattern)

/-- The files of a plan are found by paths that lead away from the log. -/
theorem Planned.away
    (planned : Planned surroundings arguments settings (storeIn directory) files plan)
    (here : settings.workingDir = directory) (named : asksForStdin arguments.paths = false)
    (unlogged : (storeIn directory).Unlogged files) :
    ∀ spec ∈ plan.specs.specs, ∃ path, spec = .path path ∧
      (storeIn directory).LeadsAway files (Path.join directory path) := by
  intro spec member
  obtain ⟨path, rfl⟩ := path_of_mem_resolve named planned.specs spec member
  refine ⟨path, rfl, ?_⟩
  intro spot free
  -- A file that is named leads away from each place where the log could be made.
  obtain ⟨own, same, away⟩ :=
    away_of_mem_resolve (unlogged.alone spot free) named planned.specs _ member
  obtain rfl := FileSpec.path.inj same
  rwa [here] at away

/-- An invocation that updates todos adopts all errors in its files, and passes. -/
theorem adopting_execute (updates : Updates arguments)
    (prepared : Prepared surroundings arguments session.files directory settings)
    (suits : Suits surroundings arguments session.files directory settings)
    (short : ∀ path text, session.files.readText path = .ok text → text.length < UInt64.size)
    (unread : session.memory = none)
    (planned : Planned surroundings arguments settings (storeIn directory) session.files plan)
    (reports : arguments.has .printConfig = false) {outcome : RunOutcome}
    {mid : Session (Option (List Todo))}
    (ran : perform (plan.run surroundings arguments settings (storeIn directory)) session =
      (.ok outcome, mid))
    (concluded : perform (conclude arguments (arguments.mutesNotes settings.format) plan.formatter
      outcome) mid = (.ok status, left)) :
    status = 0 ∧ (storeIn directory).Grown session.files left.files ∧
      ∃ changes, (storeIn directory).Coherent ⟨left.files, none⟩ changes ∧
        Run.Adopted plan.rules surroundings.today directory session.files (Todo.live changes)
          plan.specs.specs := by
  have here := workingDir_of_effective prepared.inForce
  have fixesNone : (runOptions arguments).fix = false := updates.noFix
  have updating : (runOptions arguments).updateTodo = true := updates.updates
  have plainly := overriding_of_effective updates.noConfig updates.noRules prepared.inForce
  rw [Plan.run_of_reports reports, here, plainly] at ran
  obtain ⟨results, last, done, wrapped⟩ := perform_bind_ok.mp ran
  obtain ⟨answer, rfl⟩ := Prod.mk.inj wrapped
  obtain rfl := Except.ok.inj answer
  -- Before the first file nothing is adopted, and the log is not there.
  have start : Run.Adopting plan.rules (storeIn directory) surroundings.today directory
      session.files session [] := by
    refine ⟨.inl rfl, [], ⟨.absent suits.unlogged.follow?_eq_none, ?_⟩, ?_, by simp⟩
    · simp [Session.todos, unread]
    · intro todo member
      simp [Todo.live, Todo.applyAll] at member
  obtain ⟨⟨grown, changes, coherent, adopted⟩, noErrors⟩ :=
    Run.adopting_lintFiles fixesNone updating (RuleSet.distinct_of_ofConfig planned.rules)
      suits.unlogged short (suits.lasting plan.decay planned.decay)
      (planned.away here updates.named suits.unlogged) start done
  -- The report is all that is left, and it only shows lines.
  obtain ⟨shown, ended, disk⟩ := perform_conclude
    (planned.onlyShows reports suits.shown) updates.noLimit noErrors
    (arguments.mutesNotes settings.format) last
  rw [concluded] at ended
  obtain ⟨exits, rfl⟩ := Prod.mk.inj ended
  refine ⟨Except.ok.inj exits, disk ▸ grown, changes, ?_, adopted.putOff, ?_⟩
  · rw [disk]
    exact TodoStore.coherent_fresh coherent
  · intro path member
    exact adopted.settled path (by simpa using member)

/-- An invocation passes on a disk, whatever its input, and leaves the disk as it is. -/
def Passes (surroundings : Surroundings) (arguments : Arguments) (files : FileSystem) : Prop :=
  ∀ input, ∃ left, perform (execute surroundings arguments) (.fresh files input) = (.ok 0, left) ∧
    left.files = files

/-- The days of a project are in order without those of the command line, if that gives any. -/
def OwnDaysStand (surroundings : Surroundings) (arguments : Arguments) (files : FileSystem) :
    Prop :=
  arguments.days = .never ∨ ∀ directory settings,
    Prepared surroundings arguments files directory settings →
      ∃ own, (storeIn directory).decay files settings.todo .never = .ok own

/-- An invocation that completes once on a disk as it would be left passes on it. -/
theorem passes_of_execute {input : Content}
    (done : perform (execute surroundings arguments) (.fresh files input) = (.ok status, left))
    (passes : Passes surroundings arguments files) : status = 0 ∧ left.files = files := by
  obtain ⟨other, passed, same⟩ := passes input
  rw [done] at passed
  obtain ⟨exits, rfl⟩ := Prod.mk.inj passed
  exact ⟨Except.ok.inj exits, same⟩

/-- An invocation that compacts passes where there is no log, with an update and without. -/
theorem passes_of_compacts (prepared : Prepared surroundings arguments files directory settings)
    (compacts : arguments.has .compactTodo = true) (unlogged : (storeIn directory).Unlogged files) :
    Passes surroundings arguments files ∧ Passes surroundings arguments.withoutUpdate files := by
  have still : arguments.withoutUpdate.has .compactTodo = true := by
    rw [Arguments.has_withoutUpdate (by decide), compacts]
  constructor
  · intro _
    exact execute_of_compacts prepared compacts unlogged rfl
  · intro _
    exact execute_of_compacts prepared.withoutUpdate still unlogged rfl

/-- What is planned is planned without an update too, with the days of the project. -/
theorem Planned.withOwnDays (prepared : Prepared surroundings arguments files directory settings)
    (planned : Planned surroundings arguments settings (storeIn directory) files plan)
    (stand : OwnDaysStand surroundings arguments files) :
    ∃ own, Planned surroundings arguments.withoutUpdate settings (storeIn directory) files
      { plan with decay := own } := by
  rcases stand with never | stand
  · -- The command line gives no days, so the days of the plan are the project's own.
    exact ⟨plan.decay, planned.withoutUpdate (never ▸ planned.decay)⟩
  · obtain ⟨own, days⟩ := stand directory settings prepared
    exact ⟨own, planned.withoutUpdate days⟩

/-- An invocation that shows settings passes, with an update and without. -/
theorem passes_of_showsSettings
    (prepared : Prepared surroundings arguments files directory settings)
    (lints : arguments.has .compactTodo = false)
    (planned : Planned surroundings arguments settings (storeIn directory) files plan)
    (shows : arguments.has .printConfig = true) (noLimit : arguments.maxWarnings = none)
    (one : Run.ShowsSettings directory files plan.specs.specs) :
    Passes surroundings arguments files ∧ (OwnDaysStand surroundings arguments files →
      Passes surroundings arguments.withoutUpdate files) := by
  -- Both runs ask for the settings of one file, before anything is linted.
  have lintsStill : arguments.withoutUpdate.has .compactTodo = false := by
    rw [Arguments.has_withoutUpdate (by decide), lints]
  have showsStill : arguments.withoutUpdate.has .printConfig = true := by
    rw [Arguments.has_withoutUpdate (by decide), shows]
  constructor
  · intro _
    exact execute_of_showsSettings prepared lints planned shows noLimit one
  · intro stand _
    obtain ⟨own, planned⟩ := Planned.withOwnDays prepared planned stand
    exact execute_of_showsSettings prepared.withoutUpdate lintsStill planned showsStill noLimit one

/-- Once errors are adopted an invocation passes and counts nothing, with an update and without. -/
theorem passes_of_adopted (updates : Updates arguments)
    (prepared : Prepared surroundings arguments files directory settings)
    (suits : Suits surroundings arguments files directory settings)
    (lints : arguments.has .compactTodo = false)
    (planned : Planned surroundings arguments settings (storeIn directory) files plan)
    (reports : arguments.has .printConfig = false) {others : FileSystem}
    (grown : (storeIn directory).Grown files others) {changes : List Todo.Change}
    (coherent : (storeIn directory).Coherent ⟨others, none⟩ changes)
    (adopted : Run.Adopted plan.rules surroundings.today directory files (Todo.live changes)
      plan.specs.specs) :
    Passes surroundings arguments others ∧
      (∀ input, Counts surroundings arguments (.fresh others input) 0 0) ∧
      (OwnDaysStand surroundings arguments files →
        Passes surroundings arguments.withoutUpdate others) := by
  have here := workingDir_of_effective prepared.inForce
  have some := workingDir_ne_nil prepared.here
  have away := planned.away here updates.named suits.unlogged
  -- Each later run finds its plan again, since the log is the only thing that is new.
  have again : ∀ input, ∃ after,
      perform (execute surroundings arguments) (.fresh others input) = (.ok 0, after) ∧
        after.files = others ∧ Counts surroundings arguments (.fresh others input) 0 0 := by
    intro input
    exact execute_of_adopted (prepared.grown grown) lints
      (planned.grown here some suits.away suits.shown grown) reports updates.noFix
      updates.noLimit suits.shown adopted away grown coherent
  refine ⟨?_, ?_, ?_⟩
  · intro input
    obtain ⟨after, passed, same, _⟩ := again input
    exact ⟨after, passed, same⟩
  · intro input
    obtain ⟨_, _, _, counts⟩ := again input
    exact counts
  · -- Without the update the same files are linted by the same rules.
    intro stand input
    obtain ⟨own, planned⟩ := Planned.withOwnDays prepared planned stand
    have still : ∀ {switch}, switch ≠ .updateTodo →
        arguments.withoutUpdate.has switch = arguments.has switch :=
      fun other => Arguments.has_withoutUpdate other arguments
    have shown := suits.shown
    rw [← reportOptions_withoutUpdate] at shown
    have plain : ∃ after, perform (execute surroundings arguments.withoutUpdate)
        (.fresh others input) = (.ok 0, after) ∧ after.files = others ∧
          Counts surroundings arguments.withoutUpdate (.fresh others input) 0 0 :=
      execute_of_adopted (prepared.withoutUpdate.grown grown) (by rw [still (by decide), lints])
        (planned.grown here some suits.away shown grown) (by rw [still (by decide), reports])
        (by rw [still (by decide), updates.noFix]) updates.noLimit shown adopted away grown
        coherent
    obtain ⟨after, passed, same, _⟩ := plain
    exact ⟨after, passed, same⟩

/--
An update of todos that completes passes and adopts all errors: repeated it passes, changes nothing
and makes or drops no todo, and without the update it passes and changes nothing.
-/
theorem update_adopts (updates : Updates arguments)
    (suits : ∀ directory settings, Prepared surroundings arguments files directory settings →
      Suits surroundings arguments files directory settings)
    (short : ∀ path text, files.readText path = .ok text → text.length < UInt64.size)
    {input : Content}
    (done : perform (execute surroundings arguments) (.fresh files input) = (.ok status, left)) :
    status = 0 ∧ Passes surroundings arguments left.files ∧
      (arguments.has .compactTodo = false → arguments.has .printConfig = false →
        ∀ input, Counts surroundings arguments (.fresh left.files input) 0 0) ∧
      (OwnDaysStand surroundings arguments files →
        Passes surroundings arguments.withoutUpdate left.files) := by
  obtain ⟨directory, settings, prepared, proceeded⟩ := perform_execute_ok.mp done
  have suits := suits directory settings prepared
  cases compacts : arguments.has .compactTodo with
  | true =>
    -- A log that is missing is compacted whether or not todos are to be updated.
    have both := passes_of_compacts prepared compacts suits.unlogged
    obtain ⟨exits, same⟩ := passes_of_execute done both.1
    rw [same]
    exact ⟨exits, both.1, by simp, fun _ => both.2⟩
  | false =>
    rw [proceed, if_neg (by simp [compacts])] at proceeded
    obtain ⟨plan, outcome, mid, planned, ran, concluded⟩ := perform_lint_ok.mp proceeded
    cases shows : arguments.has .printConfig with
    | true =>
      have named := path_of_mem_resolve updates.named planned.specs
      rw [Plan.run, workingDir_of_effective prepared.inForce] at ran
      have one := Run.showsSettings_of_run shows named ran
      have both := passes_of_showsSettings prepared compacts planned shows updates.noLimit one
      obtain ⟨exits, same⟩ := passes_of_execute done both.1
      rw [same]
      exact ⟨exits, both.1, by simp, both.2⟩
    | false =>
      -- Only a run that reports writes the log, which is what the later runs find.
      obtain ⟨exits, grown, changes, coherent, adopted⟩ := adopting_execute updates prepared suits
        short rfl planned shows ran concluded
      obtain ⟨passes, counts, plain⟩ := passes_of_adopted updates prepared suits compacts planned
        shows grown coherent adopted
      exact ⟨exits, passes, fun _ _ => counts, plain⟩

/-- A project with one rule, one template that breaks it, and what else is given. -/
def sampleDisk (settings : String) (more : List (Location × Entry)) : FileSystem :=
  ⟨(["p"], .directory) ::
    (["p", "tmplint.toml"], .file (.text ("[rules.r]\npattern=\"^.\"\n" ++ settings)) false) ::
    (["p", "a.hbs"], .file (.text "x") false) :: more⟩

/-- A process in the project's directory on some day. -/
def sampleSurroundings : Surroundings :=
  ⟨"/p", (TodoStore.sampleTodo 1).createdDate, false⟩

/-- A command line that updates the todos of files. -/
def sampleUpdate (paths : List String) (days : Decay) : Arguments :=
  { Arguments.blank with paths, switches := [.updateTodo], days }

/-- An invocation on the sample project, from its first step. -/
def sampleRun (arguments : Arguments) (files : FileSystem) :
    Except LintError Nat × Session (Option (List Todo)) :=
  perform (execute sampleSurroundings arguments) (.fresh files .empty)

/-- A command line that names the template in two spellings. -/
def sampleTwice : Arguments :=
  sampleUpdate ["a.hbs", "./a.hbs"] .never

/-- The sample project has no log, and suits a command line that names its template. -/
theorem suits_sample {directory : String} {settings : Settings}
    (prepared : Prepared sampleSurroundings sampleTwice (sampleDisk "" []) directory settings) :
    Suits sampleSurroundings sampleTwice (sampleDisk "" []) directory settings := by
  have here : workingDir (sampleDisk "" []) "/p" none = .ok "/p" := by decide +kernel
  obtain rfl : "/p" = directory := Except.ok.inj (here.symm.trans prepared.here)
  -- The settings are unknown as a whole, so what counts of them is computed.
  have facts : (Settings.effective (sampleDisk "" []) "/p" sampleTwice).toOption.map
      (fun settings => (settings.format, settings.outputFile, settings.delegates, settings.todo)) =
      some ("pretty", none, [], none) := by
    decide +kernel
  rw [prepared.inForce] at facts
  simp only [Except.toOption, Option.map_some, Option.some.injEq, Prod.mk.injEq] at facts
  obtain ⟨format, noFile, _, noDays⟩ := facts
  have unlinked : (sampleDisk "" []).Unlinked := by
    intro location target stands
    rcases FileSystem.mem_of_stands stands with same | member
    · simp at same
    · simp [sampleDisk] at member
  refine ⟨⟨noFile, .inl (by rw [format]; decide)⟩, ?_, ?_, ?_⟩
  · intro decay days
    rw [noDays] at days
    have never : (storeIn "/p").decay (sampleDisk "" []) none .never = .ok .never := by
      decide +kernel
    obtain rfl := Except.ok.inj (never.symm.trans days)
    decide
  · exact TodoStore.unlogged_of_unlinked unlinked (by decide +kernel)
  · -- Both paths lead to the template.
    have found : ∀ pattern ∈ sampleTwice.paths,
        (sampleDisk "" []).isFile (Path.join "/p" pattern) = true := by decide +kernel
    intro pattern member spot _ vacant
    have file := found pattern member
    simp [FileSystem.isFile, FileSystem.follow?, FileSystem.find, vacant] at file

/-- The error of a template that is named in two spellings is adopted once, and for good. -/
theorem update_adopts_sample :
    (sampleRun sampleTwice (sampleDisk "" [])).1 = .ok 0 ∧
      Passes sampleSurroundings sampleTwice (sampleRun sampleTwice (sampleDisk "" [])).2.files ∧
      (∀ input, Counts sampleSurroundings sampleTwice
        (.fresh (sampleRun sampleTwice (sampleDisk "" [])).2.files input) 0 0) ∧
      Passes sampleSurroundings sampleTwice.withoutUpdate
        (sampleRun sampleTwice (sampleDisk "" [])).2.files := by
  have passes : (sampleRun sampleTwice (sampleDisk "" [])).1 = .ok 0 := by decide +kernel
  -- All texts of the disk are listed, so their lengths are compared one by one.
  have short : ∀ path text, (sampleDisk "" []).readText path = .ok text →
      text.length < UInt64.size := by
    intro path text read
    obtain ⟨location, _, stands⟩ := FileSystem.readText_eq_ok.mp read
    rcases stands with ⟨executable, stands⟩ | ⟨_, rfl⟩
    · rcases FileSystem.mem_of_stands stands with same | member
      · simp at same
      · simp only [sampleDisk, List.mem_cons, List.not_mem_nil, Prod.mk.injEq, Entry.file.injEq,
          Content.text.injEq, reduceCtorEq, and_false, false_or, or_false] at member
        rcases member with ⟨_, rfl, _⟩ | ⟨_, rfl, _⟩
        · decide +kernel
        · decide +kernel
    · decide
  -- From here on only the outcome of the first run counts, not how it is computed.
  generalize outcome : sampleRun sampleTwice (sampleDisk "" []) = result at passes ⊢
  obtain ⟨answer, left⟩ := result
  obtain rfl : answer = .ok 0 := passes
  obtain ⟨_, again, counts, plain⟩ := update_adopts ⟨by decide, by decide, rfl, rfl, rfl, by decide⟩
    (fun _ _ => suits_sample) short outcome
  exact ⟨rfl, again, counts (by decide) (by decide), plain (.inl rfl)⟩

/-- A log with the todo of a template in a directory that is named as logs are. -/
def shadowedLog : String :=
  "\x7b\"op\":\"add\",\"engine\":\"tmplint\",\"rule\":\"r\",\"filePath\":\"../.lint-todo/a.hbs\"," ++
    "\"line\":1,\"column\":0,\"source\":\"x\",\"createdDate\":\"2020-07-29\"\x7d\n"

/--
Each condition counts: the log may be read as settings through a link, it may be linted through a
path argument, and a project's own days may be out of order.
-/
theorem update_unsettled :
    (let linked := sampleDisk "[todo]\nwarn=5\n" [(["p", ".lint-todorc.json"], .link ".lint-todo")]
      let update := sampleUpdate ["a.hbs"] .never
      let first := sampleRun update linked
      linked.names "/p/.lint-todo" = false ∧ first.1 = .ok 0 ∧
        (sampleRun update.withoutUpdate first.2.files).1 = .error (.badTodoConfig .declaredTwice)) ∧
    (let shadowed := sampleDisk "" [([".lint-todo"], .directory),
        ([".lint-todo", "a.hbs"], .file (.text "x") false)]
      let update := sampleUpdate [".//.lint-todo"] .never
      let first := sampleRun update shadowed
      shadowed.names "/p/.lint-todo" = false ∧ first.1 = .ok 0 ∧
        (sampleRun update.withoutUpdate first.2.files).1 = .ok 1) ∧
    (let dated := sampleDisk "[todo]\nwarn=5\nerror=3\n" []
      let update := sampleUpdate ["a.hbs"] ⟨none, some 10⟩
      let first := sampleRun update dated
      dated.names "/p/.lint-todo" = false ∧ first.1 = .ok 0 ∧
        (sampleRun update.withoutUpdate first.2.files).1 =
          .error (.badTodoConfig (.unordered 5 3))) := by
  refine ⟨?_, ?_, ?_⟩
  · decide +kernel
  · -- The second run looks at what the first one leaves again and again, so that is computed first.
    intro shadowed update first
    have ran : first.1 = .ok 0 ∧ first.2.files.entries =
        shadowed.entries ++ [(["p", ".lint-todo"], .file (.text shadowedLog) false)] := by
      decide +kernel
    have left : first.2.files = ⟨shadowed.entries ++ _⟩ := congrArg FileSystem.mk ran.2
    refine ⟨by decide +kernel, ran.1, ?_⟩
    rw [left]
    decide +kernel
  · decide +kernel

end Invocation

end TemplateLint
