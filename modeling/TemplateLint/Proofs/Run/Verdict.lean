import TemplateLint.Proofs.Run
import TemplateLint.Proofs.Run.Trace
import TemplateLint.Proofs.Todo.Append
import TemplateLint.Proofs.Todo.Keyed

/-!
What a run makes of one file: it depends on the text of the file and on its live todos alone, and
nothing but the file and the log is written to.
-/

namespace TemplateLint

namespace RuleSet

/-- Every finding in a text is found under the path of the text. -/
theorem filePath_of_mem_findings {set : RuleSet} {source path : String} {finding : Finding}
    (member : finding ∈ set.findings source path) : finding.filePath = path := by
  obtain ⟨_, _, _, _, _, _, _, found⟩ := exists_of_mem_findingsFrom member
  exact (Rule.of_mem_lineFindings found).2.2.1

end RuleSet

namespace Run

open Effect FileSystem TodoStore

/-- What a run makes of one file: its text afterwards, what is reported of it, and its todos. -/
structure Verdict where
  output : String
  findings : List Finding
  counts : TodoCounts
  changes : List Todo.Change

section Verdict

variable (set : RuleSet) (store : TodoStore) (today : Date) (options : RunOptions) (decay : Decay)
  (overriding : Bool)

/-- The text of a file after the run. -/
def outputOf (source : String) : String :=
  if options.fix then set.repair source else source

/-- The entries with which the todos of a file are updated, if that is asked for. -/
def updatesOf (path : String) (found : List Finding) (live : List Todo) :
    List Todo.Change × List Todo.Change :=
  if options.updateTodo then
    store.updates (todosIn live path) (found.filter (·.severity = .error)) decay overriding today
  else ([], [])

/-- The entries that the todos of a file lead to, given its findings. -/
def settling (path : String) (found : List Finding) (live : List Todo) : List Todo.Change :=
  let parts := updatesOf store today options decay overriding path found live
  parts.1 ++ parts.2 ++ cleanupChanges (Todo.applyAll live (parts.1 ++ parts.2)) path found
    (options.fix || options.cleanTodo) overriding

/-- What is made of a file that holds a text, given the live todos of all files. -/
def verdict (path source : String) (live : List Todo) : Verdict :=
  let output := outputOf set options source
  let found := set.findings output path
  let parts := updatesOf store today options decay overriding path found live
  -- What is reported is held against the todos that the update leaves.
  { output
    findings := reported (Todo.applyAll live (parts.1 ++ parts.2)) path found
      (options.fix || options.cleanTodo) overriding today
    counts := ⟨parts.1.length, parts.2.length⟩
    changes := settling store today options decay overriding path found live }

variable {set store today options decay overriding}

/-- All entries with which todos are updated are about the file. -/
theorem isOf_of_mem_updatesOf {path : String} {found : List Finding}
    (named : ∀ finding ∈ found, finding.filePath = path) {live : List Todo} :
    ∀ change ∈ (updatesOf store today options decay overriding path found live).1 ++
      (updatesOf store today options decay overriding path found live).2, change.IsOf path := by
  intro change member
  unfold updatesOf at member
  split at member
  · exact isOf_of_mem_updateChanges named member
  · simp at member

/-- All entries that a file leads to are about the file. -/
theorem isOf_of_mem_verdict {path source : String} {live : List Todo} {change : Todo.Change}
    (member : change ∈
      (verdict set store today options decay overriding path source live).changes) :
    change.IsOf path := by
  rcases List.mem_append.mp member with updating | cleaning
  · exact isOf_of_mem_updatesOf (fun _ => RuleSet.filePath_of_mem_findings) change updating
  · exact isOf_of_mem_cleanupChanges cleaning

/-- All that is reported of a file is reported under its path. -/
theorem filePath_of_mem_verdict {path source : String} {live : List Todo} {finding : Finding}
    (member : finding ∈
      (verdict set store today options decay overriding path source live).findings) :
    finding.filePath = path :=
  filePath_of_mem_reported (fun _ => RuleSet.filePath_of_mem_findings) member

/-- Of the live todos only those of the file matter to it. -/
theorem verdict_congr {path : String} {live others : List Todo}
    (same : todosIn live path = todosIn others path) (source : String) :
    verdict set store today options decay overriding path source live =
      verdict set store today options decay overriding path source others := by
  have named : ∀ finding ∈ set.findings (outputOf set options source) path,
      finding.filePath = path := fun _ => RuleSet.filePath_of_mem_findings
  have parts : updatesOf store today options decay overriding path
      (set.findings (outputOf set options source) path) live =
        updatesOf store today options decay overriding path
          (set.findings (outputOf set options source) path) others := by
    simp only [updatesOf, same]
  -- The updates are about the file, so its todos are the same after them as well.
  have kept {changes : List Todo.Change} (own : ∀ change ∈ changes, change.IsOf path) :
      todosIn (Todo.applyAll live changes) path = todosIn (Todo.applyAll others changes) path := by
    rw [todosIn_applyAll_own own, todosIn_applyAll_own own, same]
  simp only [verdict, settling, parts, reported, cleanupChanges,
    kept (isOf_of_mem_updatesOf named)]

end Verdict

section Perform

variable {set : RuleSet} {store : TodoStore} {today : Date} {workingDir : String}
  {options : RunOptions} {decay : Decay} {overriding : Bool}
  {session : Session (Option (List Todo))}

/-- A text that the disk takes is written, and nothing else is done. -/
theorem perform_writeBack {template : Template} {output : String} {made : FileSystem}
    (done : session.files.write (Path.join workingDir template.filePath) output = .ok made) :
    perform (writeBack workingDir template output) session =
      (.ok ⟨⟩, { session with files := made }) := by
  simp only [writeBack, perform_bind, perform_get, done]
  rfl

/-- A file that is fixed holds the fixed text, and one that is not is not touched. -/
theorem findings_of_file (set : RuleSet) (store : TodoStore) (today : Date)
    (options : RunOptions) {path source : String} {spot : Location} {executable : Bool}
    (leads : session.files.target? (Path.join workingDir path) = some spot)
    (stands : session.files.entry? spot = some (.file (.text source) executable)) :
    ∃ made, perform (findings (set.engine store today) workingDir options.fix false ⟨source, path⟩)
        session =
        (.ok (set.findings (outputOf set options source) path), { session with files := made }) ∧
      Overwritten (· = spot) session.files made ∧
      made.entry? spot = some (.file (.text (outputOf set options source)) executable) ∧
      (outputOf set options source = source → made = session.files) := by
  cases fix : options.fix with
  | false =>
    refine ⟨session.files, ?_, .refl _ _, ?_, fun _ => rfl⟩
    · simp [findings, fix, outputOf, RuleSet.engine, RuleSet.verify]
    · simp [outputOf, fix, stands]
  | true =>
    simp only [findings, outputOf, fix, if_true]
    by_cases same : set.repair source = source
    · -- A text that needs no fix is not written.
      refine ⟨session.files, ?_, .refl _ _, by rw [same, stands], fun _ => rfl⟩
      simp [RuleSet.engine, RuleSet.fix, same]
    · -- A file stands at the end of the path, so the fixed text is taken.
      have takes : session.files.Takes (Path.join workingDir path) := by
        refine ⟨spot, leads, ?_⟩
        intro entry other
        rw [stands] at other
        obtain rfl := Option.some.inj other
        exact .inl rfl
      obtain ⟨made, done⟩ := change_of_takes takes fun _ => .text (set.repair source)
      obtain ⟨place, found, changed⟩ := changed_of_change done
      obtain rfl : spot = place := by
        rw [leads] at found
        exact Option.some.inj found
      refine ⟨made, ?_, changed.overwritten, changed.entry stands, fun kept => absurd kept same⟩
      have fixed : perform ((set.engine store today).fix ⟨source, path⟩) session =
          (.ok (set.fix ⟨source, path⟩), session) := rfl
      have differs : ((set.fix ⟨source, path⟩).isFixed && !false) = true := by
        simp [RuleSet.fix, same]
      have written : perform (writeBack workingDir ⟨source, path⟩ (set.fix ⟨source, path⟩).output)
          session = (.ok ⟨⟩, { session with files := made }) :=
        perform_writeBack done
      rw [perform_bind_of_ok _ fixed, if_pos differs, perform_bind_of_ok _ written]
      rfl

/-- The engine of rules updates todos in its store. -/
theorem engine_updateTodos (set : RuleSet) (store : TodoStore) (today : Date)
    (template : Template) (found : List Finding) (decay : Decay) (overriding : Bool) :
    (set.engine store today).updateTodos template found decay overriding =
      Session.withTodos (store.update template.filePath found decay overriding today) :=
  rfl

/-- The engine of rules holds findings against the todos of its store. -/
theorem engine_processTodos (set : RuleSet) (store : TodoStore) (today : Date)
    (template : Template) (found : List Finding) (decay : Decay) (cleanup overriding : Bool) :
    (set.engine store today).processTodos template found decay cleanup overriding =
      Session.withTodos (store.process template.filePath found cleanup overriding today) :=
  rfl

/-- The todos of a file are updated if its entries can be written or no update is asked for. -/
theorem updates_of_ready {path source : String} {found : List Finding}
    {changes : List Todo.Change} (coherent : store.Coherent session.todos changes)
    {parts : List Todo.Change × List Todo.Change}
    (made : parts = updatesOf store today options decay overriding path found (Todo.live changes))
    (ready : store.Ready session.files (parts.1 ++ parts.2)) :
    ∃ left,
      perform
          (if options.updateTodo then
            (set.engine store today).updateTodos ⟨source, path⟩ found decay overriding
          else pure ⟨0, 0⟩) session =
        (.ok ⟨parts.1.length, parts.2.length⟩, session.withMemory left) ∧
      store.Appended session.todos changes (parts.1 ++ parts.2) left := by
  -- Unless it is asked for nothing is recorded, and the memory stays as it is.
  by_cases asked : options.updateTodo = true
  · rw [updatesOf, if_pos asked] at made
    subst made
    obtain ⟨left, done, appended⟩ := update_of_ready coherent ready
    refine ⟨left, ?_, appended⟩
    rw [if_pos asked, engine_updateTodos, Session.perform_withTodos, done]
  · rw [updatesOf, if_neg asked] at made
    subst made
    refine ⟨session.todos, ?_, by simpa using coherent, .refl _ _, fun _ => rfl⟩
    rw [if_neg asked]
    rfl

/-- The todos of a file are not updated if its entries cannot be written. -/
theorem updates_of_not_ready {path source : String} {found : List Finding}
    {changes : List Todo.Change} (coherent : store.Coherent session.todos changes)
    {parts : List Todo.Change × List Todo.Change}
    (made : parts = updatesOf store today options decay overriding path found (Todo.live changes))
    (refused : ¬store.Ready session.files (parts.1 ++ parts.2)) :
    ∃ error left,
      perform
          (if options.updateTodo then
            (set.engine store today).updateTodos ⟨source, path⟩ found decay overriding
          else pure ⟨0, 0⟩) session = (.error error, left) := by
  by_cases asked : options.updateTodo = true
  · rw [updatesOf, if_pos asked] at made
    subst made
    obtain ⟨error, left, failed⟩ := update_of_not_ready coherent refused
    refine ⟨error, session.withMemory left, ?_⟩
    rw [if_pos asked, engine_updateTodos, Session.perform_withTodos, failed]
  · rw [updatesOf, if_neg asked] at made
    subst made
    -- Without an update there are no entries, and none are always taken.
    exact absurd (fun some => absurd rfl some) refused

/-- The todos of a file are updated and held against its findings. -/
def settle (set : RuleSet) (store : TodoStore) (today : Date) (options : RunOptions)
    (decay : Decay) (overriding : Bool) (template : Template) (found : List Finding) :
    Lint (Option (List Todo)) RunResults := do
  let counts ←
    (if options.updateTodo then
      (set.engine store today).updateTodos template found decay overriding
    else pure ⟨0, 0⟩)
  let reported ← (set.engine store today).processTodos template found decay
    (options.fix || options.cleanTodo) overriding
  pure ⟨reported, counts.added, counts.removed⟩

/-- The todos of a file are settled if the entries for it can be written. -/
theorem settle_of_ready (set : RuleSet) (source : String) {path : String} {found : List Finding}
    {changes : List Todo.Change} (coherent : store.Coherent session.todos changes)
    {parts : List Todo.Change × List Todo.Change}
    (made : parts = updatesOf store today options decay overriding path found (Todo.live changes))
    (ready : store.Ready session.files
      (settling store today options decay overriding path found (Todo.live changes))) :
    ∃ left,
      perform (settle set store today options decay overriding ⟨source, path⟩ found) session =
        (.ok ⟨reported (Todo.applyAll (Todo.live changes) (parts.1 ++ parts.2)) path found
          (options.fix || options.cleanTodo) overriding today, parts.1.length, parts.2.length⟩,
          session.withMemory left) ∧
      store.Appended session.todos changes
        (settling store today options decay overriding path found (Todo.live changes)) left := by
  simp only [settling, ← made] at ready ⊢
  rw [← Todo.live_append] at ready ⊢
  -- The entries of the update are written first, and those of the cleanup after them.
  obtain ⟨readyFirst, readyLater⟩ := ready_append.mp ready
  obtain ⟨updated, update, first⟩ := updates_of_ready coherent made readyFirst
  obtain ⟨left, process, second⟩ := process_of_ready first.coherent
    ((ready_of_overwritten first.disk _).mpr readyLater)
  refine ⟨left, ?_, first.trans second⟩
  have processed : perform (Session.withTodos (store.process path found
      (options.fix || options.cleanTodo) overriding today)) (session.withMemory updated) =
        (.ok (reported (Todo.live (changes ++ (parts.1 ++ parts.2))) path found
          (options.fix || options.cleanTodo) overriding today), session.withMemory left) :=
    Session.perform_withTodos_ok.mpr ⟨left, process, rfl⟩
  rw [settle, perform_bind_of_ok _ update, engine_processTodos, perform_bind_of_ok _ processed]
  rfl

/-- The todos of a file are not settled if the entries for it cannot be written. -/
theorem settle_of_not_ready {path source : String} {found : List Finding}
    {changes : List Todo.Change} (coherent : store.Coherent session.todos changes)
    (refused : ¬store.Ready session.files
      (settling store today options decay overriding path found (Todo.live changes))) :
    ∃ error left,
      perform (settle set store today options decay overriding ⟨source, path⟩ found) session =
        (.error error, left) := by
  generalize made : updatesOf store today options decay overriding path found
    (Todo.live changes) = parts
  simp only [settling, made] at refused
  rw [← Todo.live_append] at refused
  by_cases readyFirst : store.Ready session.files (parts.1 ++ parts.2)
  · -- The update still succeeds, and what follows it fails.
    obtain ⟨updated, update, first⟩ := updates_of_ready coherent made.symm readyFirst
    have shut : ¬store.Ready updated.files (cleanupChanges
        (Todo.live (changes ++ (parts.1 ++ parts.2))) path found
        (options.fix || options.cleanTodo) overriding) := by
      intro readyLater
      exact refused
        (ready_append.mpr ⟨readyFirst, (ready_of_overwritten first.disk _).mp readyLater⟩)
    obtain ⟨error, left, failed⟩ := process_of_not_ready first.coherent shut today
    refine ⟨error, session.withMemory left, ?_⟩
    have same : (session.withMemory updated).todos = updated := rfl
    rw [settle, perform_bind_of_ok _ update, engine_processTodos, perform_bind,
      Session.perform_withTodos, same, failed]
    rfl
  · obtain ⟨error, left, failed⟩ := updates_of_not_ready coherent made.symm readyFirst
    exact ⟨error, left, by rw [settle, perform_bind, failed]⟩

/-- What is left when a file that holds a text is done with, and the live todos were those. -/
structure Done (store : TodoStore) (changes : List Todo.Change) (spot : Location)
    (source : String) (executable : Bool) (own : Verdict)
    (session left : Session (Option (List Todo))) : Prop where
  coherent : store.Coherent left.todos (changes ++ own.changes)
  disk : Overwritten (fun location => location = spot ∨ store.IsLogPlace session.files location)
    session.files left.files
  written : left.files.entry? spot = some (.file (.text own.output) executable)
  idle : own.output = source → own.changes = [] → left.files = session.files

/-- A file at a place of its own is linted if its entries can be written, else it is not. -/
theorem lintFile_of_file {path source : String} {spot : Location} {executable : Bool}
    {changes : List Todo.Change} (coherent : store.Coherent session.todos changes)
    (leads : session.files.target? (Path.join workingDir path) = some spot)
    (stands : session.files.entry? spot = some (.file (.text source) executable))
    (apart : ¬store.IsLogPlace session.files spot) {own : Verdict}
    (made : own = verdict set store today options decay overriding path source
      (Todo.live changes)) :
    (store.Ready session.files own.changes → ∃ left,
      perform (lintFile (set.engine store today) workingDir options decay overriding (.path path))
          session = (.ok ⟨own.findings, own.counts.added, own.counts.removed⟩, left) ∧
        Done store changes spot source executable own session left) ∧
    (¬store.Ready session.files own.changes → ∃ error left,
      perform (lintFile (set.engine store today) workingDir options decay overriding (.path path))
        session = (.error error, left)) := by
  have found : session.files.find (Path.join workingDir path) = .ok spot :=
    find_iff_target.mpr ⟨leads, by simp [stands]⟩
  have loaded : perform (load workingDir options.stdinFilename (.path path)) session =
      (.ok ⟨source, path⟩, session) :=
    perform_load_path.mpr ⟨readText_eq_ok.mpr ⟨spot, found, .inl ⟨executable, stands⟩⟩, rfl, rfl⟩
  obtain ⟨fixed, obtained, disk, written, idle⟩ :=
    findings_of_file set store today options leads stands
  -- The log is elsewhere, so a fix leaves it as it was.
  have apartLog : ∀ location, store.IsLogPlace session.files location → location ≠ spot := by
    rintro location place rfl
    exact apart place
  have kept : store.Coherent { session with files := fixed : Session _ }.todos changes :=
    ⟨records_of_overwritten coherent.records disk apartLog, coherent.cached⟩
  -- Once the file is loaded and fixed, only its todos are still to be settled.
  have rest : perform (lintFile (set.engine store today) workingDir options decay overriding
      (.path path)) session =
        perform (settle set store today options decay overriding ⟨source, path⟩
          (set.findings (outputOf set options source) path)) { session with files := fixed } := by
    have named : ¬FileSpec.path path = .stdin := by simp
    rw [lintFile_eq, perform_bind_of_ok _ loaded]
    simp only [named, decide_false, if_false]
    rw [perform_bind_of_ok _ obtained, settle]
  rw [rest, made]
  have sameReady : store.Ready fixed _ ↔ store.Ready session.files _ := ready_of_overwritten disk
    (verdict set store today options decay overriding path source (Todo.live changes)).changes
  constructor
  · intro ready
    obtain ⟨left, settled, appended⟩ := settle_of_ready set source kept rfl (sameReady.mpr ready)
    have logged : Overwritten (store.IsLogPlace fixed) fixed left.files := appended.disk
    rw [isLogPlace_of_overwritten disk] at logged
    -- The file is written in its place, and then the log in its own.
    refine ⟨_, settled, appended.coherent, ?_, ?_, ?_⟩
    · exact (disk.mono fun _ same => .inl same).trans (logged.mono fun _ place => .inr place)
    · exact (logged.elsewhere spot apart).trans written
    · intro same none
      exact (appended.idle none).trans (idle same)
  · intro refused
    exact settle_of_not_ready kept (mt sameReady.mp refused)

/-- A file of which no text can be read is not linted. -/
theorem lintFile_of_unreadable {path : String}
    (unreadable : ∀ text, session.files.readText (Path.join workingDir path) ≠ .ok text) :
    ∃ error left,
      perform (lintFile (set.engine store today) workingDir options decay overriding (.path path))
        session = (.error error, left) := by
  rw [lintFile_eq, perform_bind]
  -- A template would hold a text of the file.
  cases outcome : perform (load workingDir options.stdinFilename (.path path)) session with
  | mk answer left =>
    cases answer with
    | error error => exact ⟨error, left, rfl⟩
    | ok template => exact absurd (perform_load_path.mp outcome).1 (unreadable _)

end Perform

end Run

end TemplateLint
