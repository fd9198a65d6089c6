import TemplateLint.Proofs.Files.Overwrite
import TemplateLint.Proofs.Todo.Store

/-!
Steps of the store of todos succeed as long as the log takes texts or there is nothing to add, and
all that they change on the disk is the log.
-/

namespace TemplateLint

namespace FileSystem

/-- What a path leads to stands where a change of it would go. -/
theorem follow?_eq_bind (files : FileSystem) (path : String) :
    files.follow? path = (files.target? path).bind files.entry? := by
  simp only [follow?, find, target?]
  -- At a free name nothing is found, and nothing stands where a file would be made.
  cases place : files.locate path true with
  | error cause => rfl
  | ok found =>
    cases found with
    | present location => rfl
    | vacant location slashed =>
      cases slashed with
      | true => rfl
      | false => exact (locate_vacant place).symm

/-- A path that leads away from the spots leads to what it led to. -/
theorem Overwritten.follow? {spots : Location → Prop} {files others : FileSystem}
    (overwritten : Overwritten spots files others) {path : String}
    (away : ∀ location, files.target? path = some location → ¬spots location) :
    others.follow? path = files.follow? path := by
  simp only [follow?_eq_bind, overwritten.targets path]
  cases leads : files.target? path with
  | none => rfl
  | some location => exact overwritten.elsewhere location (away location leads)

end FileSystem

namespace TodoStore

open Todo Effect FileSystem

/-- The place of the log, whether or not it is there yet. -/
def IsLogPlace (store : TodoStore) (files : FileSystem) (location : Location) : Prop :=
  files.target? store.logPath = some location

/-- Writing to files leaves the log in its place. -/
theorem isLogPlace_of_overwritten {store : TodoStore} {spots : Location → Prop}
    {files others : FileSystem} (overwritten : Overwritten spots files others) :
    store.IsLogPlace others = store.IsLogPlace files := by
  funext location
  rw [IsLogPlace, overwritten.targets, IsLogPlace]

/-- A log that was not written to holds the entries that it held. -/
theorem records_of_overwritten {store : TodoStore} {spots : Location → Prop}
    {files others : FileSystem} {changes : List Change} (records : store.Records files changes)
    (overwritten : Overwritten spots files others)
    (away : ∀ location, store.IsLogPlace files location → ¬spots location) :
    store.Records others changes := by
  -- The log is looked up as before, and where it is nothing was written.
  have same := overwritten.follow? away
  cases records with
  | absent nothing => exact .absent (same.trans nothing)
  | closed stands ended read => exact .closed (same.trans stands) ended read

/-- What steps of the store leave behind that add entries to the log. -/
structure Appended (store : TodoStore) (memory : TodoMemory) (changes more : List Change)
    (left : TodoMemory) : Prop where
  coherent : store.Coherent left (changes ++ more)
  disk : Overwritten (store.IsLogPlace memory.files) memory.files left.files
  idle : more = [] → left.files = memory.files

/-- Steps in turn add their entries in turn. -/
theorem Appended.trans {store : TodoStore} {memory mid left : TodoMemory}
    {changes more further : List Change} (first : store.Appended memory changes more mid)
    (second : store.Appended mid (changes ++ more) further left) :
    store.Appended memory changes (more ++ further) left where
  coherent := by
    rw [← List.append_assoc]
    exact second.coherent
  disk := by
    -- Both steps mean the same place by that of the log.
    have later := second.disk
    rw [isLogPlace_of_overwritten first.disk] at later
    exact first.disk.trans later
  idle := by
    intro none
    obtain ⟨rfl, rfl⟩ := List.append_eq_nil_iff.mp none
    exact (second.idle rfl).trans (first.idle rfl)

/-- The log can be written to whenever there is something to write. -/
def Ready (store : TodoStore) (files : FileSystem) (changes : List Change) : Prop :=
  changes ≠ [] → files.Takes store.logPath

/-- All entries can be written when some can and the others can. -/
theorem ready_append {store : TodoStore} {files : FileSystem} {changes more : List Change} :
    store.Ready files (changes ++ more) ↔ store.Ready files changes ∧ store.Ready files more := by
  simp only [Ready, ne_eq, List.append_eq_nil_iff]
  by_cases takes : files.Takes store.logPath <;> simp [takes]

/-- Writing elsewhere leaves what can be written. -/
theorem ready_of_overwritten {store : TodoStore} {spots : Location → Prop}
    {files others : FileSystem} (overwritten : Overwritten spots files others)
    (changes : List Change) : store.Ready others changes ↔ store.Ready files changes := by
  rw [Ready, overwritten.takes_iff, Ready]

/-- Entries are added when the log can be written to. -/
theorem appended_of_ready {store : TodoStore} {memory : TodoMemory} {changes more : List Change}
    (coherent : store.Coherent memory changes) (ready : store.Ready memory.files more) :
    ∃ left, perform (store.append more) memory = (.ok (), left) ∧
      store.Appended memory changes more left := by
  by_cases none : more = []
  · subst none
    exact ⟨memory, rfl, by simpa using coherent, .refl _ _, fun _ => rfl⟩
  · obtain ⟨made, changed⟩ := change_of_takes (ready none)
      fun content => content.appendText (.ofList (renderLog more))
    obtain ⟨spot, place, written⟩ := changed_of_change changed
    have done := perform_append_of_ne_nil none store memory
    rw [FileSystem.append, changed] at done
    -- The entries are written, so they are read back after those that were there.
    rcases perform_append coherent more with ⟨cause, failed⟩ | ⟨left, added, kept⟩
    · rw [done] at failed
      simp at failed
    · rw [done] at added
      obtain rfl := (Prod.mk.inj added).2
      refine ⟨_, done, kept, written.overwritten.mono ?_, fun same => absurd same none⟩
      rintro location rfl
      exact place

/-- Where the log cannot be written to, all entries are refused for the same reason. -/
theorem refused_of_not_ready {store : TodoStore} {memory : TodoMemory} {more : List Change}
    (refused : ¬store.Ready memory.files more) :
    ∃ error, ∀ others, others ≠ [] →
      perform (store.append others) memory = (.error error, memory) := by
  -- Had they been taken, the log would have taken a text.
  obtain ⟨_, shut⟩ := Classical.not_imp.mp refused
  cases changed : memory.files.append store.logPath (.ofList (renderLog more)) with
  | ok made => exact absurd (takes_of_change changed) shut
  | error cause =>
    refine ⟨.unwritable store.logPath cause, ?_⟩
    intro others some
    rw [perform_append_of_ne_nil some, FileSystem.append, change_eq_error changed]

/-- Where the log cannot be written to, entries are refused. -/
theorem append_of_not_ready {store : TodoStore} {memory : TodoMemory} {more : List Change}
    (refused : ¬store.Ready memory.files more) :
    ∃ error, perform (store.append more) memory = (.error error, memory) := by
  obtain ⟨error, all⟩ := refused_of_not_ready refused
  exact ⟨error, all more (Classical.not_imp.mp refused).1⟩

/-- Of two lists of entries, as long as neither or both are empty, both are added or neither is. -/
theorem append_alike {store : TodoStore} {memory : TodoMemory} {changes more others : List Change}
    (coherent : store.Coherent memory changes) (alike : more = [] ↔ others = []) :
    (∃ left otherLeft,
      perform (store.append more) memory = (.ok (), left) ∧
      perform (store.append others) memory = (.ok (), otherLeft) ∧
      store.Appended memory changes more left ∧ store.Appended memory changes others otherLeft) ∨
      ∃ error,
        perform (store.append more) memory = (.error error, memory) ∧
        perform (store.append others) memory = (.error error, memory) := by
  by_cases ready : store.Ready memory.files more
  · have otherReady : store.Ready memory.files others := fun some => ready (mt alike.mp some)
    obtain ⟨left, done, appended⟩ := appended_of_ready coherent ready
    obtain ⟨otherLeft, otherDone, otherAppended⟩ := appended_of_ready coherent otherReady
    exact .inl ⟨left, otherLeft, done, otherDone, appended, otherAppended⟩
  · -- What is refused is not empty, and neither is the other list then.
    obtain ⟨some, _⟩ := Classical.not_imp.mp ready
    obtain ⟨error, refused⟩ := refused_of_not_ready ready
    exact .inr ⟨error, refused more some, refused others (mt alike.mpr some)⟩

/-- What the live todos are read for changes nothing on the disk. -/
theorem appended_of_loaded {store : TodoStore} {memory left : TodoMemory}
    {changes more : List Change}
    (appended : store.Appended (memory.loaded (Todo.live changes)) changes more left) :
    store.Appended memory changes more left :=
  ⟨appended.coherent, appended.disk, appended.idle⟩

/-- An update succeeds when its entries can be written, and fails otherwise. -/
theorem update_of_ready {store : TodoStore} {memory : TodoMemory} {changes : List Change}
    (coherent : store.Coherent memory changes) {path : String} {findings : List Finding}
    {decay : Decay} {overriding : Bool} {today : Date}
    (ready : store.Ready memory.files
      (store.updateChanges (Todo.live changes) path findings decay overriding today)) :
    ∃ left,
      perform (store.update path findings decay overriding today) memory =
        (.ok ⟨(store.updates (todosIn (Todo.live changes) path)
            (findings.filter (·.severity = .error)) decay overriding today).1.length,
          (store.updates (todosIn (Todo.live changes) path)
            (findings.filter (·.severity = .error)) decay overriding today).2.length⟩, left) ∧
      store.Appended memory changes
        (store.updateChanges (Todo.live changes) path findings decay overriding today) left := by
  obtain ⟨left, done, appended⟩ := appended_of_ready (coherent_loaded coherent) ready
  refine ⟨left, ?_, appended_of_loaded appended⟩
  -- Of an update only the adding of entries can fail.
  rw [perform_update coherent]
  simp only
  rw [← updateChanges, done, mapAnswer_ok]

/-- Findings are held against todos when the entries of that can be written. -/
theorem process_of_ready {store : TodoStore} {memory : TodoMemory} {changes : List Change}
    (coherent : store.Coherent memory changes) {path : String} {findings : List Finding}
    {cleanup overriding : Bool} {today : Date}
    (ready : store.Ready memory.files
      (cleanupChanges (Todo.live changes) path findings cleanup overriding)) :
    ∃ left,
      perform (store.process path findings cleanup overriding today) memory =
        (.ok (reported (Todo.live changes) path findings cleanup overriding today), left) ∧
      store.Appended memory changes
        (cleanupChanges (Todo.live changes) path findings cleanup overriding) left := by
  obtain ⟨left, done, appended⟩ := appended_of_ready (coherent_loaded coherent) ready
  refine ⟨left, ?_, appended_of_loaded appended⟩
  rw [perform_process coherent, done, mapAnswer_ok]

/-- A cleanup drops todos of a log that is there, and a log that is there can be written to. -/
theorem ready_cleanup {store : TodoStore} {memory : TodoMemory} {changes : List Change}
    (coherent : store.Coherent memory changes) (path : String) (findings : List Finding)
    (cleanup overriding : Bool) :
    store.Ready memory.files
      (cleanupChanges (Todo.live changes) path findings cleanup overriding) := by
  intro some
  cases coherent.records with
  | absent nothing =>
    -- Without a log there are no todos that could be dropped.
    exact absurd (by simp [cleanupChanges, todosIn, Todo.live, applyAll, Pairing.unmatched]) some
  | closed stands _ _ =>
    obtain ⟨_, made, changed, _⟩ := change_file stands fun content => content
    exact takes_of_change changed

/-- Findings are always held against the todos of a coherent store. -/
theorem process_of_coherent {store : TodoStore} {memory : TodoMemory} {changes : List Change}
    (coherent : store.Coherent memory changes) (path : String) (findings : List Finding)
    (cleanup overriding : Bool) (today : Date) :
    ∃ left,
      perform (store.process path findings cleanup overriding today) memory =
        (.ok (reported (Todo.live changes) path findings cleanup overriding today), left) ∧
      store.Appended memory changes
        (cleanupChanges (Todo.live changes) path findings cleanup overriding) left :=
  process_of_ready coherent (ready_cleanup coherent path findings cleanup overriding)

/-- An update fails when its entries cannot be written. -/
theorem update_of_not_ready {store : TodoStore} {memory : TodoMemory} {changes : List Change}
    (coherent : store.Coherent memory changes) {path : String} {findings : List Finding}
    {decay : Decay} {overriding : Bool} {today : Date}
    (refused : ¬store.Ready memory.files
      (store.updateChanges (Todo.live changes) path findings decay overriding today)) :
    ∃ error left,
      perform (store.update path findings decay overriding today) memory =
        (.error error, left) := by
  have shut : ¬store.Ready (memory.loaded (Todo.live changes)).files _ := refused
  obtain ⟨error, failed⟩ := append_of_not_ready shut
  refine ⟨error, memory.loaded (Todo.live changes), ?_⟩
  rw [perform_update coherent]
  simp only
  rw [← updateChanges, failed, mapAnswer_error]

/-- Findings are not held against todos when the entries of that cannot be written. -/
theorem process_of_not_ready {store : TodoStore} {memory : TodoMemory} {changes : List Change}
    (coherent : store.Coherent memory changes) {path : String} {findings : List Finding}
    {cleanup overriding : Bool}
    (refused : ¬store.Ready memory.files
      (cleanupChanges (Todo.live changes) path findings cleanup overriding)) (today : Date) :
    ∃ error left,
      perform (store.process path findings cleanup overriding today) memory =
        (.error error, left) := by
  have shut : ¬store.Ready (memory.loaded (Todo.live changes)).files _ := refused
  obtain ⟨error, failed⟩ := append_of_not_ready shut
  exact ⟨error, _, by rw [perform_process coherent, failed, mapAnswer_error]⟩

end TodoStore

end TemplateLint
