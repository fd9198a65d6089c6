import TemplateLint.Files.FileSystem

/-! The faults that end an invocation, and their wording. -/

namespace TemplateLint

/-- Why a glob pattern is refused. -/
inductive GlobFault where
  | wildcards
  | recursion
  | range
  deriving Repr, DecidableEq, Inhabited

/-- How a program ends. -/
inductive Ending where
  | exited (code : Nat)
  | killed (signal : Nat)
  deriving Repr, DecidableEq, Inhabited

/-- Why a rule cannot be used. -/
inductive RuleFault where
  | unknownSeverity (word : String)
  | noPattern
  | badPattern
  deriving Repr, DecidableEq, Inhabited

/-- Why a configuration file cannot be used. -/
inductive ConfigFault where
  | notFound
  | unreadable (cause : FileError)
  | malformed
  deriving Repr, DecidableEq, Inhabited

/-- Why the settings for todos cannot be used. -/
inductive TodoConfigFault where
  | declaredTwice
  | unordered (warn error : Nat)
  | unreadable (path : String) (cause : FileError)
  | malformed (path : String)
  deriving Repr, DecidableEq, Inhabited

/-- Why no formatter answers to a name. -/
inductive LoadFault where
  | noDelegates
  | selfDelegation
  | noProgram (tried : List String)
  deriving Repr, DecidableEq, Inhabited

/-- Why a formatter's program gives no report. -/
inductive RunFault where
  | notStarted (cause : FileError)
  | ended (ending : Ending) (complaint : String)
  deriving Repr, DecidableEq, Inhabited

/-- A fault that ends an invocation. -/
inductive LintError where
  | noFilesMatched (pattern : String)
  | badGlob (fault : GlobFault)
  | unreadable (path : String) (cause : FileError)
  | unwritable (path : String) (cause : FileError)
  | unreadableInput (cause : FileError)
  | notSingleFile (count : Nat)
  | badInlineConfig
  | badOverride (value : String)
  | badRule (rule : String) (fault : RuleFault)
  | badConfig (path : String) (fault : ConfigFault)
  | badTodoConfig (fault : TodoConfigFault)
  | oldTodoStorage (path : String)
  | corruptTodo (path : String) (line : Nat)
  | formatterNotLoaded (name : String) (fault : LoadFault)
  | formatterFailed (name : String) (fault : RunFault)
  | usage (complaint : String)
  deriving Repr, DecidableEq, Inhabited

/-- Stands where a document's reader would say what it stumbled over. -/
def unspecified : String :=
  "<detail>"

namespace GlobFault

/-- The wording of a refused glob pattern. -/
def message : GlobFault → String
  | .wildcards => "wildcards are either regular `*` or recursive `**`"
  | .recursion => "recursive wildcards must form a single path component"
  | .range => "invalid range pattern"

end GlobFault

namespace Ending

/-- A program that ended well. -/
def isSuccess : Ending → Bool
  | .exited code => code == 0
  | .killed _ => false

/-- The names of the signals that end a program, by number. -/
def signalNames : List (Nat × String) :=
  [(1, "SIGHUP"), (2, "SIGINT"), (3, "SIGQUIT"), (4, "SIGILL"), (5, "SIGTRAP"), (6, "SIGABRT"),
    (7, "SIGBUS"), (8, "SIGFPE"), (9, "SIGKILL"), (10, "SIGUSR1"), (11, "SIGSEGV"),
    (12, "SIGUSR2"), (13, "SIGPIPE"), (14, "SIGALRM"), (15, "SIGTERM"), (16, "SIGSTKFLT"),
    (24, "SIGXCPU"), (25, "SIGXFSZ"), (26, "SIGVTALRM"), (27, "SIGPROF"), (29, "SIGIO"),
    (30, "SIGPWR"), (31, "SIGSYS")]

/-- The wording of an ending. -/
def text : Ending → String
  | .exited code => "exit status: " ++ toString code
  | .killed signal =>
    "signal: " ++ toString signal ++
      match signalNames.lookup signal with
      | some name => " (" ++ name ++ ")"
      | none => ""

end Ending

namespace RuleFault

/-- The wording of an unusable rule. -/
def message : RuleFault → String
  | .unknownSeverity word =>
    "unknown severity `" ++ word ++ "` (expected error|warn|off)"
  | .noPattern => "missing `pattern`"
  | .badPattern => unspecified

end RuleFault

namespace ConfigFault

/-- The wording of an unusable configuration file. -/
def message : ConfigFault → String
  | .notFound => "file not found"
  | .unreadable cause => cause.message
  | .malformed => unspecified

end ConfigFault

/-- The name of the file that holds settings for todos. -/
def todoSettingsFile : String :=
  ".lint-todorc.json"

/-- The wording of a file that cannot be read. -/
def unreadableMessage (path : String) (cause : FileError) : String :=
  "Failed to read " ++ path ++ ": " ++ cause.message

/-- The wording of a configuration file that cannot be used. -/
def badConfigMessage (path : String) (fault : ConfigFault) : String :=
  "Failed to load config " ++ path ++ ": " ++ fault.message

namespace TodoConfigFault

/-- The wording of unusable settings for todos. -/
def message : TodoConfigFault → String
  | .declaredTwice =>
    "You have specified todo configuration in both " ++ todoSettingsFile ++
      " and the [todo] section of your project config. " ++
      "Please move the configuration into one location."
  | .unordered warn error =>
    "The provided todo configuration contains invalid values. The `warn` value (" ++
      toString warn ++ ") must be less than the `error` value (" ++ toString error ++ ")."
  | .unreadable path cause => unreadableMessage path cause
  | .malformed path => badConfigMessage path .malformed

end TodoConfigFault

namespace LoadFault

/-- The wording of a formatter that is not there. -/
def message : LoadFault → String
  | .noDelegates => "no delegates configured under [[format.formatters]]"
  | .selfDelegation => "`multi` cannot delegate to itself"
  | .noProgram tried =>
    "not a built-in formatter and no executable found at " ++ String.intercalate " or " tried

end LoadFault

namespace RunFault

/-- The wording of a formatter that gives no report. -/
def message : RunFault → String
  | .notStarted cause => cause.message
  | .ended ending complaint => ending.text ++ ": " ++ complaint

end RunFault

namespace LintError

/-- The wording of a fault. -/
def message : LintError → String
  | .noFilesMatched pattern =>
    "No files matching the pattern were found: \"" ++ pattern ++ "\""
  | .badGlob fault => fault.message
  | .unreadable path cause => unreadableMessage path cause
  | .unwritable path cause => "Failed to write " ++ path ++ ": " ++ cause.message
  | .unreadableInput cause => "Failed to read standard input: " ++ cause.message
  | .notSingleFile count =>
    "The --print-config option can only be used with a single file, but " ++ toString count ++
      " files were resolved"
  | .badInlineConfig => "Could not parse specified `--config` as JSON: " ++ unspecified
  | .badOverride value => "Invalid `--rule` value `" ++ value ++ "`, expected <rule>:<severity>"
  | .badRule rule fault => "Invalid rule `" ++ rule ++ "`: " ++ fault.message
  | .badConfig path fault => badConfigMessage path fault
  | .badTodoConfig fault => fault.message
  | .oldTodoStorage path =>
    "Found legacy todo storage directory at " ++ path ++
      ". Remove it and run `tmplint . --update-todo` to regenerate your todos."
  | .corruptTodo path line =>
    "Corrupt todo storage entry at " ++ path ++ ":" ++ toString line ++ ": " ++ unspecified
  | .formatterNotLoaded name fault => "Cannot load formatter `" ++ name ++ "`: " ++ fault.message
  | .formatterFailed name fault => "Formatter `" ++ name ++ "` failed: " ++ fault.message
  | .usage complaint => complaint

end LintError

end TemplateLint
