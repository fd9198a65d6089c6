import TemplateLint.Todo.Decay

/-! What a command line asks for. -/

namespace TemplateLint

/-- An option that is off until it is given. -/
inductive Switch where
  | fix
  | quiet
  | verbose
  | updateTodo
  | includeTodo
  | cleanTodo
  | compactTodo
  | noIgnorePattern
  | noInlineConfig
  | printConfig
  deriving Repr, DecidableEq, Inhabited

/-- An option that is followed by a value. -/
inductive Setting where
  | configPath
  | config
  | rule
  | filename
  | format
  | outputFile
  | daysToWarn
  | daysToError
  | ignorePattern
  | maxWarnings
  | workingDirectory
  deriving Repr, DecidableEq, Inhabited

/-- What a command line asks for. -/
structure Arguments where
  paths : List String
  switches : List Switch
  configPath : Option String
  config : Option String
  rules : List String
  filename : Option String
  format : Option String
  outputFile : Option String
  days : Decay
  ignorePatterns : List String
  maxWarnings : Option Nat
  workingDirectory : Option String
  deriving Repr, DecidableEq, Inhabited

/-- A bare command at a terminal has nothing to read and asks for its usage. -/
def wantsUsage (argumentCount : Nat) (atTerminal : Bool) : Bool :=
  argumentCount ≤ 1 && atTerminal

namespace Arguments

/-- Nothing asked for. -/
def blank : Arguments where
  paths := []
  switches := []
  configPath := none
  config := none
  rules := []
  filename := none
  format := none
  outputFile := none
  days := .never
  ignorePatterns := []
  maxWarnings := none
  workingDirectory := none

/-- A switch is on. -/
def has (arguments : Arguments) (switch : Switch) : Bool :=
  arguments.switches.contains switch

/-- Quiet runs, and reports for machines, do without notes about the run. -/
def mutesNotes (arguments : Arguments) (format : String) : Bool :=
  arguments.has .quiet || format == "json"

end Arguments

end TemplateLint
