import TemplateLint.Proofs.Effect
import TemplateLint.Proofs.Files.FileSystem
import TemplateLint.Proofs.Todo.Live
import TemplateLint.Proofs.Todo.Log
import TemplateLint.Todo.Reconcile

/-!
What each operation of the store of todos answers, and what it leaves in the log and in memory,
as long as the log is absent or closed text of entries and memory holds its live todos.
-/

namespace TemplateLint

namespace TodoMemory

/-- The memory once these live todos are read. -/
def loaded (memory : TodoMemory) (live : List Todo) : TodoMemory :=
  { memory with live := some live }

/-- The memory of a store that has just been opened. -/
def fresh (memory : TodoMemory) : TodoMemory :=
  { memory with live := none }

end TodoMemory

namespace TodoStore

open Todo Effect

/-- The log is absent, or it is closed text that holds these entries. -/
inductive Records (store : TodoStore) (files : FileSystem) : List Change → Prop where
  | absent (nothing : files.follow? store.logPath = none) : Records store files []
  | closed {text : String} {executable : Bool} {changes : List Change}
      (stands : files.follow? store.logPath = some (.file (.text text) executable))
      (ended : Text.IsClosed text.toList) (read : readLog text.toList = .ok changes) :
    Records store files changes

/-- The log holds these entries, and the live todos in memory, if any, are those of the log. -/
structure Coherent (store : TodoStore) (memory : TodoMemory) (changes : List Change) : Prop where
  records : store.Records memory.files changes
  cached : ∀ live, memory.live = some live → live = Todo.live changes

/-- The entries of a log that is kept are read from it. -/
theorem readChanges_of_records {store : TodoStore} {files : FileSystem} {changes : List Change}
    (records : store.Records files changes) : store.readChanges files = .ok changes := by
  cases records with
  | absent nothing => simp [readChanges, FileSystem.isFile, nothing]
  | closed stands ended read =>
    simp only [readChanges, FileSystem.isFile_of_follow? stands, if_true,
      FileSystem.readText_of_follow? stands, read]

/-- A store that is opened anew is as coherent as the log. -/
theorem coherent_fresh {store : TodoStore} {memory : TodoMemory} {changes : List Change}
    (coherent : store.Coherent memory changes) : store.Coherent memory.fresh changes :=
  ⟨coherent.records, by simp [TodoMemory.fresh]⟩

/-- The entries of a log do not depend on the engine that a store is opened for. -/
theorem coherent_engine {store : TodoStore} {memory : TodoMemory} {changes : List Change}
    (coherent : store.Coherent memory changes) (engine : String) :
    TodoStore.Coherent { store with engine } memory changes := by
  obtain ⟨records, cached⟩ := coherent
  refine ⟨?_, cached⟩
  cases records with
  | absent nothing => exact .absent nothing
  | closed stands ended read => exact .closed stands ended read

/--
The store that left a memory behind, and any that is opened anew at its place, find the log that
was left and the same entries in it.
-/
theorem coherent_later {store later : TodoStore} {memory laterMemory : TodoMemory}
    {changes : List Change} (coherent : store.Coherent memory changes)
    (same : (later = store ∧ laterMemory = memory) ∨
      (later.directory = store.directory ∧ laterMemory = memory.fresh)) :
    later.Coherent laterMemory changes ∧ laterMemory.files = memory.files := by
  -- Opening a store anew forgets the live todos, which are those of the log all the same.
  rcases same with ⟨rfl, rfl⟩ | ⟨place, rfl⟩
  · exact ⟨coherent, rfl⟩
  · have anew := coherent_engine (coherent_fresh coherent) later.engine
    rw [← place] at anew
    exact ⟨anew, rfl⟩

/-- Reading the live todos leaves a coherent store. -/
theorem coherent_loaded {store : TodoStore} {memory : TodoMemory} {changes : List Change}
    (coherent : store.Coherent memory changes) :
    store.Coherent (memory.loaded (Todo.live changes)) changes :=
  ⟨coherent.records, by simp [TodoMemory.loaded, eq_comm]⟩

/-- Live todos that are not remembered are those of the log, and are remembered from then on. -/
theorem perform_liveTodos_of_read {store : TodoStore} {memory : TodoMemory} {changes : List Change}
    (read : store.readChanges memory.files = .ok changes) (forgotten : memory.live = none) :
    perform store.liveTodos memory =
      (.ok (Todo.live changes), memory.loaded (Todo.live changes)) := by
  simp only [liveTodos, perform_bind, perform_get, forgotten, perform_lift, read, perform_set,
    perform_pure]
  rfl

/-- The live todos of a coherent store are those of its log, wherever they are read from. -/
theorem perform_liveTodos {store : TodoStore} {memory : TodoMemory} {changes : List Change}
    (coherent : store.Coherent memory changes) :
    perform store.liveTodos memory =
      (.ok (Todo.live changes), memory.loaded (Todo.live changes)) := by
  cases cached : memory.live with
  | some live =>
    -- The remembered todos are answered, and memory stays as it is.
    obtain rfl := coherent.cached live cached
    have same : memory.loaded (Todo.live changes) = memory := by
      cases memory
      simp only [TodoMemory.loaded, ← cached]
    simp only [liveTodos, perform_bind, perform_get, cached, perform_pure, same]
  | none => exact perform_liveTodos_of_read (readChanges_of_records coherent.records) cached

/-- The live todos of a file are the ones of its log that name the file. -/
theorem perform_todosOf {store : TodoStore} {memory : TodoMemory} {changes : List Change}
    (coherent : store.Coherent memory changes) (path : String) :
    perform (store.todosOf path) memory =
      (.ok ((Todo.live changes).filter fun todo => sameFile todo.filePath path),
        memory.loaded (Todo.live changes)) := by
  simp only [todosOf, perform_bind, perform_liveTodos coherent, perform_pure]

/-- Without entries to add, nothing is touched. -/
theorem perform_append_nil (store : TodoStore) (memory : TodoMemory) :
    perform (store.append []) memory = (.ok (), memory) :=
  rfl

/-- What adding entries does to the disk and to memory, given what the disk makes of it. -/
theorem perform_append_of_ne_nil {more : List Change} (some : more ≠ []) (store : TodoStore)
    (memory : TodoMemory) :
    perform (store.append more) memory =
      match memory.files.append store.logPath (.ofList (renderLog more)) with
      | .error cause => (.error (.unwritable store.logPath cause), memory)
      | .ok files => (.ok (), { files, live := memory.live.map (applyAll · more) }) := by
  have notEmpty : more.isEmpty = false := by simpa using some
  simp only [append, notEmpty, Bool.false_eq_true, if_false, perform_bind, perform_get]
  cases memory.files.append store.logPath (.ofList (renderLog more)) <;> rfl

/-- The remembered todos follow the entries that are added to the log. -/
theorem cached_append {live : Option (List Todo)} {changes : List Change}
    (cached : ∀ todos, live = some todos → todos = Todo.live changes) (more : List Change) :
    ∀ todos, live.map (applyAll · more) = some todos → todos = Todo.live (changes ++ more) := by
  intro todos same
  -- Nothing is remembered before the first read.
  cases live with
  | none => simp at same
  | some before =>
    obtain rfl := cached before rfl
    rw [live_append]
    simpa using same.symm

/-- A log that is a file takes all entries, after those that it holds. -/
theorem append_of_isFile {store : TodoStore} {memory : TodoMemory} {changes : List Change}
    (coherent : store.Coherent memory changes)
    (file : memory.files.isFile store.logPath = true) (more : List Change) :
    ∃ left, perform (store.append more) memory = (.ok (), left) ∧
      store.Coherent left (changes ++ more) ∧ left.files.isFile store.logPath = true := by
  -- Without entries the log is not even opened.
  by_cases none : more = []
  · subst none
    exact ⟨memory, rfl, by simpa using coherent, file⟩
  · obtain ⟨records, cached⟩ := coherent
    cases records with
    | absent nothing => simp [FileSystem.isFile, nothing] at file
    | @closed text executable _ stands ended read =>
      obtain ⟨_, made, changed, _, _, follows⟩ := FileSystem.change_file stands
        fun content => content.appendText (.ofList (renderLog more))
      refine ⟨{ files := made, live := memory.live.map (applyAll · more) }, ?_, ⟨?_, ?_⟩,
        FileSystem.isFile_of_follow? follows⟩
      · rw [perform_append_of_ne_nil none, FileSystem.append, changed]
      · -- The text is still closed, and reads as the old entries and then the new ones.
        refine .closed follows ?_ ?_
        · rw [String.toList_append, String.toList_ofList]
          exact Text.isClosed_append ended (renderLog_closed more)
        · rw [String.toList_append, String.toList_ofList]
          exact readLog_append ended read more
      · exact cached_append cached more

/-- A log that is absent is made of the entries alone, if it can be made. -/
theorem append_of_absent {store : TodoStore} {memory : TodoMemory}
    (coherent : store.Coherent memory []) (nothing : memory.files.follow? store.logPath = none)
    (more : List Change) :
    (∃ cause, perform (store.append more) memory =
        (.error (.unwritable store.logPath cause), memory)) ∨
      ∃ left, perform (store.append more) memory = (.ok (), left) ∧ store.Coherent left more := by
  by_cases none : more = []
  · subst none
    exact .inr ⟨memory, rfl, coherent⟩
  · rw [perform_append_of_ne_nil none]
    -- The disk may refuse to make a file, and then nothing has changed.
    cases changed : memory.files.append store.logPath (.ofList (renderLog more)) with
    | error cause => exact .inl ⟨cause, rfl⟩
    | ok made =>
      obtain ⟨_, _, _, follows⟩ := FileSystem.change_fresh nothing changed
      have text : Content.empty.appendText (.ofList (renderLog more)) =
          .text (.ofList (renderLog more)) := by
        simp [Content.empty, Content.appendText]
      rw [text] at follows
      refine .inr ⟨_, rfl, .closed follows ?_ ?_, ?_⟩
      · rw [String.toList_ofList]
        exact renderLog_closed more
      · rw [String.toList_ofList]
        exact readLog_renderLog more
      · simpa using cached_append coherent.cached more

/-- Adding entries either fails and leaves all as it was, or keeps the store coherent. -/
theorem perform_append {store : TodoStore} {memory : TodoMemory} {changes : List Change}
    (coherent : store.Coherent memory changes) (more : List Change) :
    (∃ cause, perform (store.append more) memory =
        (.error (.unwritable store.logPath cause), memory)) ∨
      ∃ left, perform (store.append more) memory = (.ok (), left) ∧
        store.Coherent left (changes ++ more) := by
  cases coherent.records with
  | absent nothing => exact append_of_absent coherent nothing more
  | closed stands _ _ =>
    obtain ⟨left, answer, kept, _⟩ :=
      append_of_isFile coherent (FileSystem.isFile_of_follow? stands) more
    exact .inr ⟨left, answer, kept⟩

/-- Without entries a log is left as it is. -/
theorem perform_compact_nil {store : TodoStore} {memory : TodoMemory}
    (read : store.readChanges memory.files = .ok []) :
    perform store.compact memory = (.ok 0, memory) := by
  simp only [compact, perform_bind, perform_get, perform_lift, read]
  rfl

/-- A log with entries is rewritten with one for each live todo, as far as the disk takes it. -/
theorem perform_compact_of_ne_nil {store : TodoStore} {memory : TodoMemory} {changes : List Change}
    (read : store.readChanges memory.files = .ok changes) (some : changes ≠ []) :
    perform store.compact memory =
      match memory.files.write store.logPath
          (.ofList (renderLog ((Todo.live changes).map .add))) with
      | .error cause => (.error (.unwritable store.logPath cause), memory)
      | .ok files => (.ok (changes.length - (Todo.live changes).length),
          { files, live := .some (Todo.live changes) }) := by
  have notEmpty : changes.isEmpty = false := by simpa using some
  simp only [compact, perform_bind, perform_get, perform_lift, read, notEmpty, Bool.false_eq_true,
    if_false]
  cases memory.files.write store.logPath
    (.ofList (renderLog ((Todo.live changes).map .add))) <;> rfl

/-- Compacting succeeds, and the live todos of the new log are those of the old one, in order. -/
theorem perform_compact {store : TodoStore} {memory : TodoMemory} {changes : List Change}
    (coherent : store.Coherent memory changes) :
    ∃ dropped left, perform store.compact memory = (.ok dropped, left) ∧
      ((changes = [] ∧ left = memory) ∨
        (memory.files.isFile store.logPath = true ∧ left.files.isFile store.logPath = true ∧
          store.Coherent left ((Todo.live changes).map .add))) := by
  have read := readChanges_of_records coherent.records
  by_cases none : changes = []
  · subst none
    exact ⟨0, memory, perform_compact_nil read, .inl ⟨rfl, rfl⟩⟩
  · rw [perform_compact_of_ne_nil read none]
    cases coherent.records with
    | absent nothing => exact absurd rfl none
    | @closed text executable _ stands ended _ =>
      -- A log with entries is a file, and a file takes any text.
      obtain ⟨_, made, changed, _, _, follows⟩ := FileSystem.change_file stands
        fun _ => .text (.ofList (renderLog ((Todo.live changes).map .add)))
      rw [FileSystem.write, changed]
      refine ⟨_, _, rfl, .inr ⟨FileSystem.isFile_of_follow? stands,
        FileSystem.isFile_of_follow? follows, .closed follows ?_ ?_, ?_⟩⟩
      · rw [String.toList_ofList]
        exact renderLog_closed _
      · rw [String.toList_ofList]
        exact readLog_renderLog _
      · -- What is remembered now is what the rewritten log adds up to.
        intro live same
        rw [live_adds]
        simpa using same.symm

/-- The todos of a file among the live ones. -/
def todosIn (live : List Todo) (path : String) : List Todo :=
  live.filter fun todo => sameFile todo.filePath path

/-- The todos of a file are told apart as all live todos are. -/
theorem distinct_todosIn {live : List Todo} (distinct : Distinct live) (path : String) :
    Distinct (todosIn live path) :=
  distinct.sublist (List.filter_sublist.map identity)

/-- The entries that an update of a file's todos adds to the log. -/
def updateChanges (store : TodoStore) (live : List Todo) (path : String)
    (findings : List Finding) (decay : Decay) (overriding : Bool) (today : Date) : List Change :=
  let parts := store.updates (todosIn live path) (findings.filter (·.severity = .error)) decay
    overriding today
  parts.1 ++ parts.2

/-- An update reads the file's live todos, and all that it does after is to add its entries. -/
theorem perform_update {store : TodoStore} {memory : TodoMemory} {changes : List Change}
    (coherent : store.Coherent memory changes) (path : String) (findings : List Finding)
    (decay : Decay) (overriding : Bool) (today : Date) :
    perform (store.update path findings decay overriding today) memory =
      let parts := store.updates (todosIn (Todo.live changes) path)
        (findings.filter (·.severity = .error)) decay overriding today
      mapAnswer (fun _ => ⟨parts.1.length, parts.2.length⟩)
        (perform (store.append (parts.1 ++ parts.2)) (memory.loaded (Todo.live changes))) := by
  rw [update, perform_bind, perform_todosOf coherent]
  exact perform_bind_pure _ _ _

/-- The entries that holding findings against their todos adds to the log. -/
def cleanupChanges (live : List Todo) (path : String) (findings : List Finding)
    (cleanup overriding : Bool) : List Change :=
  if cleanup && !overriding then
    ((Pairing.of (todosIn live path) findings).unmatched (todosIn live path)).map .remove
  else []

/-- Findings held against their todos, with a finding for each stale todo that is not dropped. -/
def reported (live : List Todo) (path : String) (findings : List Finding)
    (cleanup overriding : Bool) (today : Date) : List Finding :=
  let existing := todosIn live path
  let pairing := Pairing.of existing findings
  let covered := findings.zipWith (cover existing today) pairing.assigned
  if overriding || cleanup then covered
  else covered ++ (pairing.unmatched existing).map (staleFinding path)

/-- Holding findings against todos reads the live todos, and all that it does after is to add. -/
theorem perform_process {store : TodoStore} {memory : TodoMemory} {changes : List Change}
    (coherent : store.Coherent memory changes) (path : String) (findings : List Finding)
    (cleanup overriding : Bool) (today : Date) :
    perform (store.process path findings cleanup overriding today) memory =
      mapAnswer (fun _ => reported (Todo.live changes) path findings cleanup overriding today)
        (perform (store.append
          (cleanupChanges (Todo.live changes) path findings cleanup overriding))
          (memory.loaded (Todo.live changes))) := by
  rw [process, perform_bind, perform_todosOf coherent]
  simp only [cleanupChanges, reported, todosIn]
  generalize (Todo.live changes).filter (fun todo => sameFile todo.filePath path) = existing
  -- A stale todo is dropped on cleanup alone; with none there is nothing to add or to report.
  cases overriding with
  | true => simp [perform_append_nil]
  | false =>
    cases none : (Pairing.of existing findings).unmatched existing with
    | nil => cases cleanup <;> simp [perform_append_nil]
    | cons stale later =>
      cases cleanup with
      | true => exact perform_bind_pure _ _ _
      | false => simp [perform_append_nil]

/-- A todo on a line of a template. -/
def sampleTodo (line : UInt64) : Todo where
  engine := "tmplint"
  rule := "no-tabs"
  filePath := "a.hbs"
  line := line
  column := 0
  source := "\t"
  createdDate := ⟨738000, by decide⟩
  warnDate := none
  errorDate := none

/-- A store of todos in a project. -/
def sample : TodoStore :=
  ⟨"/p", "tmplint"⟩

/-- A disk on which the log of the project holds entries. -/
def sampleLog (changes : List Change) : TodoMemory where
  files := ⟨[(["p"], .directory),
    (["p", ".lint-todo"], .file (.text (.ofList (renderLog changes))) false)]⟩
  live := none

/-- The log of the project holds those entries. -/
theorem coherent_sampleLog (changes : List Change) :
    sample.Coherent (sampleLog changes) changes := by
  have stands : (sampleLog changes).files.follow? sample.logPath =
      some (.file (.text (.ofList (renderLog changes))) false) := by
    rfl
  refine ⟨.closed stands ?_ ?_, by simp [sampleLog]⟩
  · rw [String.toList_ofList]
    exact renderLog_closed _
  · rw [String.toList_ofList]
    exact readLog_renderLog _

/-- A disk on which the log of the project holds one todo. -/
def sampleMemory : TodoMemory where
  files := ⟨[(["p"], .directory),
    (["p", ".lint-todo"], .file (.text (.ofList (renderLog [.add (sampleTodo 1)]))) false)]⟩
  live := none

/-- The log of the project holds its one entry. -/
theorem coherent_sample : sample.Coherent sampleMemory [.add (sampleTodo 1)] :=
  coherent_sampleLog [.add (sampleTodo 1)]

end TodoStore

end TemplateLint
