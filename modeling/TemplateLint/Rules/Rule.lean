import TemplateLint.Finding
import TemplateLint.Regex.Basic
import TemplateLint.Settings.Project

/-! Rules that look for a regular expression in the lines of a template. -/

namespace TemplateLint

/-- A rule ready for use: what it looks for, what it says, and what it puts in its place. -/
structure Rule where
  id : String
  regex : Regex
  severity : Severity
  message : String
  fix : Option String
  deriving Repr, DecidableEq, Inhabited

namespace Rule

/-- The severity that a configured word asks for; no severity is a rule that is off. -/
def severity? (word : String) : Except RuleFault (Option Severity) :=
  if word = "error" then .ok (some .error)
  else if word = "warn" ∨ word = "warning" then .ok (some .warning)
  else if word = "off" then .ok none
  else .error (.unknownSeverity word)

/-- What a rule says when it is not told what to say. -/
def standardMessage (id : String) : String :=
  "Disallowed pattern (rule `" ++ id ++ "`)"

/-- The rule that is configured, unless it is off; a rule that is off needs no pattern. -/
def ofConfig? (id : String) (config : RuleConfig) : Except RuleFault (Option Rule) := do
  match ← severity? (config.severity.getD "error") with
  | none => pure none
  | some severity =>
    match config.pattern with
    | none => throw .noPattern
    | some pattern =>
      match Regex.ofString? pattern with
      | none => throw .badPattern
      | some regex =>
        pure (some ⟨id, regex, severity, config.message.getD (standardMessage id), config.fix⟩)

/-- The rules of a project in the order of their ids; the first that cannot be used is told. -/
def ofEntries : List (String × RuleConfig) → Except LintError (List Rule)
  | [] => .ok []
  | (id, config) :: later =>
    match ofConfig? id config with
    | .error fault => .error (.badRule id fault)
    | .ok none => ofEntries later
    | .ok (some rule) => (ofEntries later).map (rule :: ·)

/-- The finding that a match in a line makes. -/
def finding (rule : Rule) (filePath : String) (number : Nat) (line : List Char)
    (found : Regex.Match) : Finding where
  rule := rule.id
  severity := rule.severity
  filePath := filePath
  line := UInt64.ofNat number
  column := UInt64.ofNat found.start
  source := .ofList (found.text line)
  message := rule.message
  isFixable := rule.fix.isSome

/-- The findings of a rule in a line; an empty match is none. -/
def lineFindings (rule : Rule) (filePath : String) (number : Nat) (line : List Char) :
    List Finding :=
  ((rule.regex.matchesOf line).filter fun found => found.start < found.stop).map
    (rule.finding filePath number line)

/-- A text with every match of a rule replaced, if the rule has a replacement. -/
def repair (text : List Char) (rule : Rule) : List Char :=
  match rule.fix with
  | some replacement => rule.regex.replaceAll replacement.toList text
  | none => text

/-- The settings of a rule in force. -/
def toJson (rule : Rule) : Json :=
  .object [
    ("severity", .string rule.severity.text),
    ("pattern", .string rule.regex.source),
    ("message", .string rule.message),
    ("fix", .ofText? rule.fix)]

end Rule

end TemplateLint
