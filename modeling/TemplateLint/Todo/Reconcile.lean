import TemplateLint.Todo.Pairing
import TemplateLint.Todo.Store

/-! Making todos of a file's errors, and holding a file's findings against its todos. -/

namespace TemplateLint

/-- How many todos were made and dropped. -/
structure TodoCounts where
  added : Nat
  removed : Nat
  deriving Repr, DecidableEq, Inhabited

/-- The rule of findings about todos that cover nothing any more. -/
def staleTodoRule : String :=
  "invalid-todo-violation-rule"

namespace Todo

/-- A new todo for a finding. -/
def ofFinding (engine : String) (decay : Decay) (today : Date) (finding : Finding) : Todo where
  engine := engine
  rule := finding.rule
  filePath := storageKey finding.filePath
  line := finding.line
  column := finding.column
  source := finding.source
  createdDate := today
  warnDate := decay.warn.bind today.addDays?
  errorDate := decay.error.bind today.addDays?

/-- The finding that reports a todo which covers nothing any more. -/
def staleFinding (path : String) (todo : Todo) : Finding where
  rule := staleTodoRule
  severity := .error
  filePath := path
  line := todo.line
  column := todo.column
  source := todo.source
  message := "Todo violation passes `" ++ todo.rule ++ "` rule. Please run `tmplint " ++ path ++
    " --clean-todo` to remove this todo from the todo list."
  isFixable := false

/-- A finding with the severity of the todo that covers it. -/
def cover (todos : List Todo) (today : Date) (finding : Finding) (position : Option Nat) :
    Finding :=
  match position.bind (todos[·]?) with
  | some todo => { finding with severity := todo.severityOn today }
  | none => finding

end Todo

namespace TodoStore

/-- The entries that make todos of errors without one and drop todos without an error. -/
def updates (store : TodoStore) (existing : List Todo) (errors : List Finding) (decay : Decay)
    (overriding : Bool) (today : Date) : List Todo.Change × List Todo.Change :=
  let pairing := Pairing.of existing errors
  let uncovered := ((errors.zip pairing.assigned).filter (·.2.isNone)).map (·.1)
  let added := uncovered.map fun finding =>
    Todo.Change.add (Todo.ofFinding store.engine decay today finding)
  -- Rules outside the override were not tried, so a todo of theirs is not known to be stale.
  let removed := if overriding then [] else (pairing.unmatched existing).map .remove
  (added, removed)

/-- Makes todos of a file's errors, and drops its todos that no error needs. -/
def update (store : TodoStore) (path : String) (findings : List Finding) (decay : Decay)
    (overriding : Bool) (today : Date) : TodoAction TodoCounts := do
  let existing ← store.todosOf path
  let errors := findings.filter (·.severity = .error)
  let (added, removed) := store.updates existing errors decay overriding today
  -- New todos come before dropped ones in the log.
  store.append (added ++ removed)
  pure ⟨added.length, removed.length⟩

/--
Holds a file's findings against its todos: covered findings take the severity of their todo, and
todos that cover nothing are dropped on cleanup and reported otherwise.
-/
def process (store : TodoStore) (path : String) (findings : List Finding) (cleanup : Bool)
    (overriding : Bool) (today : Date) : TodoAction (List Finding) := do
  let existing ← store.todosOf path
  let pairing := Pairing.of existing findings
  let covered := findings.zipWith (Todo.cover existing today) pairing.assigned
  let stale := pairing.unmatched existing
  if overriding || stale.isEmpty then pure covered
  else if cleanup then
    store.append (stale.map .remove)
    pure covered
  else pure (covered ++ stale.map (Todo.staleFinding path))

end TodoStore

end TemplateLint
