import TemplateLint.Proofs.Effect
import TemplateLint.Proofs.Rules.Engine
import TemplateLint.Proofs.Todo.Adoption
import TemplateLint.Rules.Engine
import TemplateLint.Run

/-! What a run does to one file after another when it fixes nothing. -/

namespace TemplateLint

open Effect

namespace Session

/-- The session with which a process begins on a disk. -/
def fresh (files : FileSystem) (input : Content) : Session (Option (List Todo)) :=
  ⟨files, input, [], none⟩

/-- The disk and the remembered todos of a session. -/
def todos (session : Session (Option (List Todo))) : TodoMemory :=
  ⟨session.files, session.memory⟩

/-- The session with the disk and the remembered todos that a step of the store leaves. -/
def withMemory (session : Session (Option (List Todo))) (memory : TodoMemory) :
    Session (Option (List Todo)) :=
  { session with files := memory.files, memory := memory.live }

/-- A step of the store changes the disk and the remembered todos of the session alone. -/
theorem perform_withTodos {α : Type} (action : TodoAction α)
    (session : Session (Option (List Todo))) :
    perform (withTodos action) session =
      ((perform action session.todos).1, session.withMemory (perform action session.todos).2) := by
  simp only [withTodos, perform_bind, perform_get]
  show _ = (_, _)
  -- Disk and memory are handed to the step, and what it leaves of them is taken back.
  cases outcome : perform action session.todos with
  | mk answer memory =>
    have ran : action.run.run ⟨session.files, session.memory⟩ = (answer, memory) := outcome
    simp only [ran]
    cases answer <;> rfl

/-- A step of the store succeeds in a session exactly when it succeeds by itself. -/
theorem perform_withTodos_ok {α : Type} {action : TodoAction α}
    {session left : Session (Option (List Todo))} {value : α} :
    perform (withTodos action) session = (.ok value, left) ↔
      ∃ memory, perform action session.todos = (.ok value, memory) ∧
        left = session.withMemory memory := by
  -- Only the memory of todos changes, with what the action has made of it.
  rw [perform_withTodos]
  obtain ⟨answer, memory⟩ := perform action session.todos
  constructor
  · intro same
    obtain ⟨rfl, rfl⟩ := Prod.mk.inj same
    exact ⟨memory, rfl, rfl⟩
  · rintro ⟨other, same, rfl⟩
    obtain ⟨rfl, rfl⟩ := Prod.mk.inj same
    rfl

end Session

namespace Run

variable {set : RuleSet} {store : TodoStore} {today : Date} {workingDir : String}
  {options : RunOptions} {decay : Decay} {overriding : Bool}

/-- A file is loaded exactly when its text is read, and loading changes nothing. -/
theorem perform_load_path {μ : Type} {stdinFilename : Option String} {path : String}
    {session left : Session μ} {template : Template} :
    perform (load workingDir stdinFilename (.path path)) session = (.ok template, left) ↔
      session.files.readText (Path.join workingDir path) = .ok template.source ∧
        template.filePath = path ∧ left = session := by
  simp only [load, perform_bind, perform_get]
  -- Either error ends in a failure, so an answer needs a text.
  cases session.files.readText (Path.join workingDir path) with
  | error cause => simp
  | ok source =>
    obtain ⟨own, name⟩ := template
    simp [and_assoc, eq_comm]

/-- The todos of a file updated, if that is asked for. -/
def updateTodos (set : RuleSet) (store : TodoStore) (today : Date) (options : RunOptions)
    (decay : Decay) (overriding : Bool) (template : Template) : TodoAction TodoCounts :=
  if options.updateTodo then
    store.update template.filePath (set.verify template) decay overriding today
  else pure ⟨0, 0⟩

/-- A file is loaded, its todos are updated if asked, and its findings are held against them. -/
theorem lintFile_path (noFix : options.fix = false) (path : String) :
    lintFile (set.engine store today) workingDir options decay overriding (.path path) =
      (do
        let template ← load workingDir options.stdinFilename (.path path)
        let counts ← Session.withTodos
          (updateTodos set store today options decay overriding template)
        let reported ← Session.withTodos (store.process template.filePath (set.verify template)
          options.cleanTodo overriding today)
        pure ⟨reported, counts.added, counts.removed⟩) := by
  unfold lintFile
  refine bind_congr ?_
  intro template
  -- Without fixes a template is verified as it was loaded.
  simp only [noFix, updateTodos]
  cases options.updateTodo with
  | true => rfl
  | false => rfl

/-- A file is linted exactly when it is read, its todos are updated and its findings reported. -/
theorem perform_lintFile_ok (noFix : options.fix = false) {path : String}
    {session left : Session (Option (List Todo))} {results : RunResults} :
    perform (lintFile (set.engine store today) workingDir options decay overriding (.path path))
        session = (.ok results, left) ↔
      ∃ source counts updated reported processed,
        session.files.readText (Path.join workingDir path) = .ok source ∧
        perform (updateTodos set store today options decay overriding ⟨source, path⟩)
          session.todos = (.ok counts, updated) ∧
        perform (store.process path (set.verify ⟨source, path⟩) options.cleanTodo overriding today)
          updated = (.ok reported, processed) ∧
        results = ⟨reported, counts.added, counts.removed⟩ ∧
        left = session.withMemory processed := by
  -- Three steps are chained, so the answer of each is named in turn.
  rw [lintFile_path noFix, perform_bind_ok]
  constructor
  · rintro ⟨⟨source, name⟩, loaded, load, rest⟩
    obtain ⟨read, rfl, rfl⟩ := perform_load_path.mp load
    obtain ⟨counts, first, update, rest⟩ := perform_bind_ok.mp rest
    obtain ⟨updated, updating, rfl⟩ := Session.perform_withTodos_ok.mp update
    obtain ⟨reported, second, process, rest⟩ := perform_bind_ok.mp rest
    obtain ⟨processed, processing, rfl⟩ := Session.perform_withTodos_ok.mp process
    obtain ⟨same, rfl⟩ := Prod.mk.inj rest
    exact ⟨source, counts, updated, reported, processed, read, updating, processing,
      (Except.ok.inj same).symm, rfl⟩
  · rintro ⟨source, counts, updated, reported, processed, read, updating, processing, rfl, rfl⟩
    refine ⟨⟨source, path⟩, session, perform_load_path.mpr ⟨read, rfl, rfl⟩, ?_⟩
    refine perform_bind_ok.mpr ⟨counts, session.withMemory updated,
      Session.perform_withTodos_ok.mpr ⟨updated, updating, rfl⟩, ?_⟩
    refine perform_bind_ok.mpr ⟨reported, session.withMemory processed,
      Session.perform_withTodos_ok.mpr ⟨processed, processing, rfl⟩, ?_⟩
    rfl

/--
The todos of a project cover the errors of some of its files: each file is read and settled, and
no todo counts as an error.
-/
structure Adopted (set : RuleSet) (today : Date) (workingDir : String) (files : FileSystem)
    (live : List Todo) (specs : List FileSpec) : Prop where
  putOff : TodoStore.PutOff today live
  settled : ∀ path, .path path ∈ specs →
    ∃ source, files.readText (Path.join workingDir path) = .ok source ∧
      TodoStore.Settled live path (set.verify ⟨source, path⟩)

/-- A file of adopted todos is linted without a todo made or dropped, and without an error. -/
theorem lintFile_of_adopted (noFix : options.fix = false)
    (distinct : (set.rules.map Rule.id).Nodup) {files : FileSystem} {changes : List Todo.Change}
    {specs : List FileSpec}
    (adopted : Adopted set today workingDir files (Todo.live changes) specs) {path : String}
    (member : .path path ∈ specs)
    (away : store.LeadsAway files (Path.join workingDir path))
    {session : Session (Option (List Todo))} (grown : store.Grown files session.files)
    (coherent : store.Coherent session.todos changes) (decay : Decay) (overriding : Bool) :
    ∃ results left,
      perform (lintFile (set.engine store today) workingDir options decay overriding (.path path))
        session = (.ok results, left) ∧
      (results.added = 0 ∧ results.removed = 0) ∧
      (∀ finding ∈ results.findings, finding.severity ≠ .error) ∧
      left.files = session.files ∧ left.console = session.console ∧
      store.Coherent left.todos changes := by
  obtain ⟨source, read, settled⟩ := adopted.settled path member
  have uniform := RuleSet.uniform_verify distinct ⟨source, path⟩
  -- Asked or not, an update finds nothing to add or drop in a settled file.
  have updating : ∃ updated, perform
      (updateTodos set store today options decay overriding ⟨source, path⟩) session.todos =
        (.ok ⟨0, 0⟩, updated) ∧ updated.files = session.files ∧
          store.Coherent updated changes := by
    unfold updateTodos
    split
    · exact ⟨_, TodoStore.perform_update_of_settled coherent settled decay overriding today, rfl,
        TodoStore.coherent_loaded coherent⟩
    · exact ⟨_, rfl, rfl, coherent⟩
  obtain ⟨updated, update, same, stillCoherent⟩ := updating
  obtain ⟨reported, process, byTodos⟩ := TodoStore.perform_process_of_settled stillCoherent settled
    uniform options.cleanTodo overriding today
  -- The disk is read through the log that has grown, the file itself being elsewhere.
  refine ⟨⟨reported, 0, 0⟩, session.withMemory (updated.loaded (Todo.live changes)),
    (perform_lintFile_ok noFix).mpr ⟨source, ⟨0, 0⟩, updated, reported, _,
      (grown.readText_iff away).mpr read, update, process, rfl, rfl⟩,
    ⟨rfl, rfl⟩, TodoStore.noErrors_of_reported byTodos adopted.putOff, same, rfl,
    (TodoStore.coherent_loaded stillCoherent :
      store.Coherent (updated.loaded (Todo.live changes)) changes)⟩

/-- Files of adopted todos are linted without a todo made or dropped, and without an error. -/
theorem lintFiles_of_adopted (noFix : options.fix = false)
    (distinct : (set.rules.map Rule.id).Nodup) {files : FileSystem} {changes : List Todo.Change}
    {specs : List FileSpec}
    (adopted : Adopted set today workingDir files (Todo.live changes) specs)
    (away : ∀ spec ∈ specs, ∃ path, spec = .path path ∧
      store.LeadsAway files (Path.join workingDir path))
    {some : List FileSpec} (within : ∀ spec ∈ some, spec ∈ specs)
    {session : Session (Option (List Todo))} (grown : store.Grown files session.files)
    (coherent : store.Coherent session.todos changes) (decay : Decay) (overriding : Bool) :
    ∃ results left,
      perform (lintFiles (set.engine store today) workingDir options decay overriding some)
        session = (.ok results, left) ∧
      (results.added = 0 ∧ results.removed = 0) ∧
      (∀ finding ∈ results.findings, finding.severity ≠ .error) ∧
      left.files = session.files ∧ left.console = session.console := by
  induction some generalizing session with
  | nil => exact ⟨⟨[], 0, 0⟩, session, rfl, ⟨rfl, rfl⟩, by simp, rfl, rfl⟩
  | cons spec later ih =>
    have here := within spec List.mem_cons_self
    obtain ⟨path, rfl, awayHere⟩ := away spec here
    obtain ⟨first, mid, done, noCounts, noErrors, disk, shown, kept⟩ :=
      lintFile_of_adopted noFix distinct adopted here awayHere grown coherent decay overriding
    obtain ⟨rest, left, others, noOtherCounts, noOtherErrors, diskAfter, shownAfter⟩ :=
      ih (fun other member => within other (List.mem_cons_of_mem _ member)) (disk ▸ grown) kept
    -- The files are linted one after another, and each leaves the disk to the next as it was.
    refine ⟨⟨first.findings ++ rest.findings, first.added + rest.added,
      first.removed + rest.removed⟩, left, ?_, ?_, ?_, diskAfter.trans disk,
      shownAfter.trans shown⟩
    · rw [lintFiles, perform_bind_of_ok _ done, perform_bind_of_ok _ others]
      rfl
    · simp only
      omega
    · intro finding member
      rcases List.mem_append.mp member with own | other
      · exact noErrors finding own
      · exact noOtherErrors finding other

/-- What holds of a run that adopts the errors of files one after another. -/
structure Adopting (set : RuleSet) (store : TodoStore) (today : Date) (workingDir : String)
    (files : FileSystem) (session : Session (Option (List Todo))) (specs : List FileSpec) :
    Prop where
  grown : store.Grown files session.files
  adopted : ∃ changes, store.Coherent session.todos changes ∧
    Adopted set today workingDir files (Todo.live changes) specs

/-- A file whose todos are updated is adopted, and it is reported without an error. -/
theorem adopting_lintFile (noFix : options.fix = false) (updates : options.updateTodo = true)
    (distinct : (set.rules.map Rule.id).Nodup) {files : FileSystem}
    (unlogged : store.Unlogged files)
    (short : ∀ path text, files.readText path = .ok text → text.length < UInt64.size)
    (days : decay.error ≠ some 0) {specs : List FileSpec} {path : String}
    (away : store.LeadsAway files (Path.join workingDir path))
    {session left : Session (Option (List Todo))} {results : RunResults}
    (adopting : Adopting set store today workingDir files session specs)
    (done : perform (lintFile (set.engine store today) workingDir options decay false (.path path))
      session = (.ok results, left)) :
    Adopting set store today workingDir files left (.path path :: specs) ∧
      ∀ finding ∈ results.findings, finding.severity ≠ .error := by
  obtain ⟨grown, changes, coherent, adopted⟩ := adopting
  obtain ⟨source, counts, updated, reported, processed, readNow, update, process, rfl, rfl⟩ :=
    (perform_lintFile_ok noFix).mp done
  have read := (grown.readText_iff away).mp readNow
  have separate : TodoStore.Separate path (set.verify ⟨source, path⟩) :=
    RuleSet.separate_verify distinct ⟨source, path⟩ (short _ source read)
  have uniform := RuleSet.uniform_verify distinct ⟨source, path⟩
  rw [updateTodos, if_pos updates] at update
  obtain ⟨recorded, kept, live, settled⟩ :=
    TodoStore.settled_of_perform_update coherent separate update
  have putOff : TodoStore.PutOff today (Todo.live recorded) := by
    rw [live]
    exact TodoStore.putOff_update separate (Todo.distinct_live changes) adopted.putOff days
  have grownNow := TodoStore.grown_update unlogged coherent grown update
  have stored : store.Coherent (updated.loaded (Todo.live recorded)) recorded :=
    TodoStore.coherent_loaded kept
  obtain ⟨byTodos, answer, reports⟩ := TodoStore.perform_process_of_settled kept settled uniform
    options.cleanTodo false today
  rw [process] at answer
  obtain ⟨same, rfl⟩ := Prod.mk.inj answer
  obtain rfl := Except.ok.inj same
  refine ⟨⟨grownNow, recorded, stored, putOff, ?_⟩,
    TodoStore.noErrors_of_reported reports putOff⟩
  · -- Other spellings of the file hold its text, and other files keep their todos.
    intro other member
    rcases List.mem_cons.mp member with same | before
    · obtain rfl : other = path := by simpa using same
      exact ⟨source, read, settled⟩
    · obtain ⟨text, readOther, settledBefore⟩ := adopted.settled other before
      refine ⟨text, readOther, ?_⟩
      by_cases key : storageKey path = storageKey other
      · obtain rfl := FileSystem.readText_agrees (moves_join_of_storageKey key workingDir) read
          readOther
        exact TodoStore.settled_of_sameFile key settled
      · intro kin
        rw [live, TodoStore.todosIn_update_other separate (Todo.distinct_live changes) decay today
          key]
        exact settledBefore kin

/-- Files whose todos are updated are adopted, and they are reported without an error. -/
theorem adopting_lintFiles (noFix : options.fix = false) (updates : options.updateTodo = true)
    (distinct : (set.rules.map Rule.id).Nodup) {files : FileSystem}
    (unlogged : store.Unlogged files)
    (short : ∀ path text, files.readText path = .ok text → text.length < UInt64.size)
    (days : decay.error ≠ some 0) {specs later : List FileSpec}
    (away : ∀ spec ∈ later, ∃ path, spec = .path path ∧
      store.LeadsAway files (Path.join workingDir path))
    {session left : Session (Option (List Todo))} {results : RunResults}
    (adopting : Adopting set store today workingDir files session specs)
    (done : perform (lintFiles (set.engine store today) workingDir options decay false later)
      session = (.ok results, left)) :
    Adopting set store today workingDir files left (later.reverse ++ specs) ∧
      ∀ finding ∈ results.findings, finding.severity ≠ .error := by
  -- The induction is on the files to come; those that are done pile up in reverse.
  induction later generalizing specs session results with
  | nil =>
    obtain ⟨same, rfl⟩ := Prod.mk.inj done
    obtain rfl := Except.ok.inj same
    exact ⟨adopting, by simp⟩
  | cons spec later ih =>
    obtain ⟨path, rfl, awayHere⟩ := away spec List.mem_cons_self
    obtain ⟨first, mid, here, others⟩ := perform_bind_ok.mp done
    obtain ⟨rest, last, there, both⟩ := perform_bind_ok.mp others
    obtain ⟨same, rfl⟩ := Prod.mk.inj both
    obtain rfl := Except.ok.inj same
    obtain ⟨adoptingHere, noErrors⟩ :=
      adopting_lintFile noFix updates distinct unlogged short days awayHere adopting here
    obtain ⟨adoptingAll, noOtherErrors⟩ :=
      ih (fun other member => away other (List.mem_cons_of_mem _ member)) adoptingHere there
    refine ⟨by simpa using adoptingAll, ?_⟩
    intro finding member
    rcases List.mem_append.mp member with own | other
    · exact noErrors finding own
    · exact noOtherErrors finding other

/-- The files to lint are at most one, of which the text can be read. -/
def ShowsSettings (workingDir : String) (files : FileSystem) (specs : List FileSpec) : Prop :=
  specs = [] ∨ ∃ path source, specs = [.path path] ∧
    files.readText (Path.join workingDir path) = .ok source

/-- Settings are shown of one file whose text can be read, or of none. -/
theorem showsSettings_of_run (shows : options.printConfig = true) {specs : FileSet}
    (named : ∀ spec ∈ specs.specs, ∃ path, spec = .path path)
    {session left : Session (Option (List Todo))} {outcome : RunOutcome}
    (done : perform (run (set.engine store today) workingDir options decay overriding specs)
      session = (.ok outcome, left)) :
    ShowsSettings workingDir session.files specs.specs := by
  simp only [run, shows, if_true] at done
  -- Of several files no settings are shown, which is a failure.
  split at done
  · rename_i nothing
    exact .inl nothing
  · rename_i spec single
    obtain ⟨path, rfl⟩ := named spec (by simp [single])
    obtain ⟨_, _, printed, _⟩ := perform_bind_ok.mp done
    obtain ⟨template, _, loaded, _⟩ := perform_bind_ok.mp printed
    exact .inr ⟨path, template.source, single, (perform_load_path.mp loaded).1⟩
  · simp at done

/-- To show settings changes nothing on the disk, and nothing is found on the way. -/
theorem run_of_showsSettings (shows : options.printConfig = true) {specs : FileSet}
    {session : Session (Option (List Todo))}
    (one : ShowsSettings workingDir session.files specs.specs) (set : RuleSet)
    (store : TodoStore) (today : Date) (decay : Decay) (overriding : Bool) :
    ∃ outcome left,
      perform (run (set.engine store today) workingDir options decay overriding specs) session =
        (.ok outcome, left) ∧ left.files = session.files ∧
      (outcome = .printedConfig ∨ outcome = .completed ⟨[], 0, 0⟩) := by
  simp only [run, shows, if_true]
  rcases one with nothing | ⟨path, source, single, read⟩
  · exact ⟨.completed ⟨[], 0, 0⟩, session, by rw [nothing]; rfl, rfl, .inr rfl⟩
  · -- The one file is loaded for its settings and for nothing else.
    have loaded : perform (load workingDir options.stdinFilename (.path path)) session =
        (.ok ⟨source, path⟩, session) := perform_load_path.mpr ⟨read, rfl, rfl⟩
    refine ⟨.printedConfig, { session with console := session.console ++
      [⟨.log, (set.settings ⟨source, path⟩).renderIndented⟩] }, ?_, rfl, .inl rfl⟩
    rw [single]
    simp only [printConfig, perform_bind, loaded]
    rfl

end Run

end TemplateLint
