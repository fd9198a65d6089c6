import TemplateLint.Error
import TemplateLint.Json.Parser
import TemplateLint.Todo.Decay
import TemplateLint.Todo.Log

/-!
The store of todos: a log that only grows, save when it is compacted. The live todos are folded
from the log once and then kept in step with what is added.
-/

namespace TemplateLint

/-- Where a store of todos is, and the engine whose todos it makes. -/
structure TodoStore where
  directory : String
  engine : String
  deriving Repr, DecidableEq

/-- The disk, and the live todos once they have been read. -/
structure TodoMemory where
  files : FileSystem
  live : Option (List Todo)

/-- A step that works on the disk and the remembered todos, which a failure leaves as they are then. -/
abbrev TodoAction :=
  ExceptT LintError (StateM TodoMemory)

/-- The name of the log of todos. -/
def todoLogFile : String :=
  ".lint-todo"

namespace TodoStore

/-- The path of the log. -/
def logPath (store : TodoStore) : String :=
  Path.join store.directory todoLogFile

/-- The path of the settings for todos. -/
def settingsPath (store : TodoStore) : String :=
  Path.join store.directory todoSettingsFile

/-- Todos were once kept in a directory at the path of the log. -/
def isOutdated (store : TodoStore) (files : FileSystem) : Bool :=
  files.isDirectory store.logPath

/-- The entries of the log on disk; a log that is no file has none. -/
def readChanges (store : TodoStore) (files : FileSystem) : Except LintError (List Todo.Change) :=
  if files.isFile store.logPath then
    match files.readText store.logPath with
    | .error cause => .error (.unreadable store.logPath cause)
    | .ok text =>
      match Todo.readLog text.toList with
      | .error line => .error (.corruptTodo store.logPath line)
      | .ok changes => .ok changes
  else .ok []

/-- The live todos, read from the log at first and from memory ever after. -/
def liveTodos (store : TodoStore) : TodoAction (List Todo) := do
  let memory ← get
  match memory.live with
  | some live => pure live
  | none =>
    -- A log that cannot be read leaves nothing in memory, so the next step tries again.
    let changes ← store.readChanges memory.files
    set { memory with live := some (Todo.live changes) }
    pure (Todo.live changes)

/-- The live todos of a file. -/
def todosOf (store : TodoStore) (path : String) : TodoAction (List Todo) := do
  let live ← store.liveTodos
  pure (live.filter fun todo => sameFile todo.filePath path)

/-- The log with more entries at its end; nothing is touched when there are none. -/
def append (store : TodoStore) (changes : List Todo.Change) : TodoAction Unit := do
  if changes.isEmpty then pure ()
  else
    let memory ← get
    match memory.files.append store.logPath (.ofList (Todo.renderLog changes)) with
    | .error cause => throw (.unwritable store.logPath cause)
    | .ok files =>
      -- Todos that have not been read yet stay unread: the log on disk now holds these entries too.
      set ({ files, live := memory.live.map (Todo.applyAll · changes) } : TodoMemory)

/-- The log rewritten with one entry for each live todo; tells how many entries are gone. -/
def compact (store : TodoStore) : TodoAction Nat := do
  let memory ← get
  -- Always from the log: what is in memory plays no part.
  let changes ← store.readChanges memory.files
  if changes.isEmpty then pure 0
  else
    let live := Todo.live changes
    let text : String := .ofList (Todo.renderLog (live.map .add))
    match memory.files.write store.logPath text with
    | .error cause => throw (.unwritable store.logPath cause)
    | .ok files =>
      set ({ files, live := some live } : TodoMemory)
      pure (changes.length - live.length)

/-- The days until todos count again that the settings file names for the engine. -/
def readSettings (store : TodoStore) (files : FileSystem) : Except LintError (Option Decay) :=
  let path := store.settingsPath
  if files.holds path then
    match files.readText path with
    | .error cause => .error (.unreadable path cause)
    | .ok text =>
      match Json.parse? text.toList with
      | none => .error (.badConfig path .malformed)
      | some value =>
        if value.isSound Json.depthLimit then
          -- Only the section of the engine is read; what other engines keep here is theirs.
          match value.field? store.engine with
          | none => .ok none
          | some engineSection =>
            match Decay.ofSection? engineSection.settled.toNode with
            | some decay => .ok (some decay)
            | none => .error (.badConfig path .malformed)
        else .error (.badConfig path .malformed)
  else .ok none

/-- What is wrong with the settings for todos, given those of the project. -/
def settingsFault? (store : TodoStore) (files : FileSystem) (project : Option Decay) :
    Option TodoConfigFault :=
  if files.holds store.settingsPath then
    match store.readSettings files with
    | .error (.unreadable path cause) => some (.unreadable path cause)
    | .error _ => some (.malformed store.settingsPath)
    -- A settings file beside a section of the project is a fault, whatever the two say.
    | .ok _ => if project.isSome then some .declaredTwice else none
  else none

/-- The days in force: those of the settings file or of the project, each overridden if asked. -/
def decay (store : TodoStore) (files : FileSystem) (project : Option Decay) (overrides : Decay) :
    Except LintError Decay :=
  match store.readSettings files with
  | .error error => .error error
  | .ok settings =>
    let base := settings.getD (project.getD .never)
    -- The days are checked after the override, which alone may set them right or wrong.
    match (base.overlay overrides).checked with
    | .error fault => .error (.badTodoConfig fault)
    | .ok decay => .ok decay

end TodoStore

end TemplateLint
