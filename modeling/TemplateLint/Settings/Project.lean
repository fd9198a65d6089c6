import TemplateLint.Document.Dictionary
import TemplateLint.Json.Parser
import TemplateLint.Todo.Decay

/-! The settings of a project, as its configuration file and the command line give them. -/

namespace TemplateLint

/-- A rule as configured; what is not set has a default or is a fault later. -/
structure RuleConfig where
  pattern : Option String
  severity : Option String
  message : Option String
  fix : Option String
  deriving Repr, DecidableEq, Inhabited

/-- A formatter that works beside others, with a file of its own. -/
structure Delegate where
  name : String
  outputFile : Option String
  deriving Repr, DecidableEq, Inhabited

/-- How reports are made. -/
structure FormatConfig where
  name : Option String
  outputFile : Option String
  delegates : List Delegate
  deriving Repr, DecidableEq, Inhabited

/-- Everything a project configures. -/
structure ProjectConfig where
  rules : Dictionary RuleConfig
  ignore : List String
  format : Option FormatConfig
  todo : Option Decay
  deriving Inhabited

namespace RuleConfig

/-- A rule with nothing set. -/
def blank : RuleConfig :=
  ⟨none, none, none, none⟩

/-- A rule as overridden wherever something is set. -/
def overlay (base upper : RuleConfig) : RuleConfig :=
  ⟨upper.pattern.or base.pattern, upper.severity.or base.severity, upper.message.or base.message,
    upper.fix.or base.fix⟩

/-- A text in a document that may be absent. -/
def textOrNone? (node : Node) : Option (Option String) :=
  node.optional? Node.text?

/-- The rule that a document holds. -/
def ofNode? (node : Node) : Option RuleConfig :=
  match node.slots? ["pattern", "severity", "message", "fix"] with
  | some [pattern, severity, message, fix] => do
    some ⟨← pattern.defaulted? textOrNone? none, ← severity.defaulted? textOrNone? none,
      ← message.defaulted? textOrNone? none, ← fix.defaulted? textOrNone? none⟩
  | _ => none

end RuleConfig

namespace Delegate

/-- The delegate that a document holds. -/
def ofNode? (node : Node) : Option Delegate :=
  match node.slots? ["name", "output_file"] with
  | some [name, outputFile] => do
    some ⟨← name.required? Node.text?, ← outputFile.defaulted? RuleConfig.textOrNone? none⟩
  | _ => none

end Delegate

namespace FormatConfig

/-- Nothing set. -/
def blank : FormatConfig :=
  ⟨none, none, []⟩

/-- The settings for reports that a document holds. -/
def ofNode? (node : Node) : Option FormatConfig :=
  match node.slots? ["name", "output_file", "formatters"] with
  | some [name, outputFile, formatters] => do
    some ⟨← name.optional? Node.text?, ← outputFile.optional? Node.text?,
      ← formatters.defaulted? (Node.items? Delegate.ofNode?) []⟩
  | _ => none

end FormatConfig

namespace ProjectConfig

/-- Nothing configured. -/
def blank : ProjectConfig :=
  ⟨.empty, [], none, none⟩

/-- The project's settings that a document holds. -/
def ofNode? (node : Node) : Option ProjectConfig :=
  match node.slots? ["rules", "ignore", "format", "todo"] with
  | some [rules, ignore, format, todo] => do
    some {
      rules := .ofList (← rules.defaulted? (Node.entries? RuleConfig.ofNode?) [])
      ignore := ← ignore.defaulted? (Node.items? Node.text?) []
      format := ← format.optional? FormatConfig.ofNode?
      todo := ← todo.optional? Decay.ofNode? }
  | _ => none

/-- The settings that a JSON text holds. -/
def ofJson? (text : String) : Except LintError ProjectConfig :=
  match (Json.parse? text.toList).bind fun value => ofNode? value.toNode with
  | some config => .ok config
  | none => .error .badInlineConfig

end ProjectConfig

/-- A rule and the severity it is given on the command line. -/
structure RuleOverride where
  rule : String
  severity : String
  deriving Repr, DecidableEq

namespace RuleOverride

/-- The override that a text writes: a rule and a severity around the first colon, neither blank. -/
def parse (text : String) : Except LintError RuleOverride :=
  match Text.cutAt ':' text.toList with
  | some (before, after) =>
    let rule := Text.trim before
    let severity := Text.trim after
    if rule.isEmpty || severity.isEmpty then .error (.badOverride text)
    else .ok ⟨.ofList rule, .ofList severity⟩
  | none => .error (.badOverride text)

end RuleOverride

end TemplateLint
