import TemplateLint.Arguments.Basic
import TemplateLint.Resolution
import TemplateLint.Settings.Discovery

/-!
The settings in force for a run. The command line comes before the configuration file, and the
file before the defaults; rules are merged setting by setting.
-/

namespace TemplateLint

/-- The settings in force for a run. -/
structure Settings where
  workingDir : String
  rules : Dictionary RuleConfig
  inlineConfig : Bool
  ignore : IgnoreSpec
  format : String
  outputFile : Option String
  delegates : List Delegate
  todo : Option Decay
  overriding : Bool

namespace Settings

/-- The name of the report that is made unless another is named. -/
def defaultFormat : String :=
  "pretty"

/-- Rules with others laid over them, one after another. -/
def overlayRules (rules : Dictionary RuleConfig) (upper : List (String × RuleConfig)) :
    Dictionary RuleConfig :=
  upper.foldl (fun merged entry =>
    merged.alter entry.1 fun base => (base.getD .blank).overlay entry.2) rules

/-- Rules with a severity set, for a rule that is there or one that is new. -/
def setSeverity (rules : Dictionary RuleConfig) (override : RuleOverride) : Dictionary RuleConfig :=
  rules.alter override.rule fun base => { base.getD .blank with severity := some override.severity }

/-- Rules with the severities that texts name, or the fault of the first text that names none. -/
def setSeverities (rules : Dictionary RuleConfig) :
    List String → Except LintError (Dictionary RuleConfig)
  | [] => .ok rules
  | text :: later =>
    match RuleOverride.parse text with
    | .ok override => setSeverities (setSeverity rules override) later
    | .error error => .error error

/-- The rules of a project with those of a configuration given on the command line. -/
def withInline (rules : Dictionary RuleConfig) :
    Option String → Except LintError (Dictionary RuleConfig)
  | none => .ok rules
  | some text =>
    match ProjectConfig.ofJson? text with
    | .ok config => .ok (overlayRules rules config.rules.entries)
    | .error error => .error error

/-- The files left out: by patterns of the command line or the usual ones, and by the project's. -/
def ignoreSpec (arguments : Arguments) (config : ProjectConfig) : IgnoreSpec :=
  if arguments.has .noIgnorePattern then .disabled
  else
    let named := arguments.ignorePatterns
    .patterns ((if named.isEmpty then IgnoreSpec.defaultPatterns else named) ++ config.ignore)

/-- The settings that a project's configuration and a command line amount to. -/
def merge (workingDir : String) (config : ProjectConfig) (arguments : Arguments) :
    Except LintError Settings :=
  match withInline config.rules arguments.config with
  | .error error => .error error
  | .ok merged =>
    match setSeverities merged arguments.rules with
    | .error error => .error error
    | .ok rules =>
      let format := config.format.getD .blank
      .ok {
        workingDir
        rules
        inlineConfig := !arguments.has .noInlineConfig
        ignore := ignoreSpec arguments config
        format := (arguments.format.or format.name).getD defaultFormat
        -- A path from either place is seen from the working directory.
        outputFile := (arguments.outputFile.or format.outputFile).map (Path.join workingDir)
        delegates := format.delegates
        todo := config.todo
        -- Under rules of the command line a todo without an error is not known to be stale.
        overriding := arguments.config.isSome || !arguments.rules.isEmpty }

/-- The settings in force in a directory. -/
def effective (files : FileSystem) (workingDir : String) (arguments : Arguments) :
    Except LintError Settings :=
  match ProjectConfig.discover files workingDir arguments.configPath with
  | .error error => .error error
  | .ok config => merge workingDir (config.getD .blank) arguments

end Settings

end TemplateLint
