import TemplateLint.Json.Basic

/-! Findings in templates and the counts taken over them. -/

namespace TemplateLint

/-- How much a finding weighs; a todo is a finding that is put off. -/
inductive Severity where
  | todo
  | warning
  | error
  deriving Repr, DecidableEq, Inhabited

namespace Severity

/-- The word for a severity. -/
def text : Severity → String
  | .todo => "todo"
  | .warning => "warning"
  | .error => "error"

/-- The severity that a word names. -/
def ofText? (word : String) : Option Severity :=
  if word = "todo" then some .todo
  else if word = "warning" then some .warning
  else if word = "error" then some .error
  else none

/-- The place of a severity in their order, mildest first. -/
def rank : Severity → Nat
  | .todo => 0
  | .warning => 1
  | .error => 2

end Severity

/-- One finding: lines count from one, columns in characters from zero. -/
structure Finding where
  rule : String
  severity : Severity
  filePath : String
  line : UInt64
  column : UInt64
  source : String
  message : String
  isFixable : Bool
  deriving Repr, DecidableEq, Inhabited

namespace Finding

/-- A finding as a JSON object. -/
def toJson (finding : Finding) : Json :=
  .object [
    ("rule", .string finding.rule),
    ("severity", .string finding.severity.text),
    ("filePath", .string finding.filePath),
    ("line", .natural finding.line.toNat),
    ("column", .natural finding.column.toNat),
    ("source", .string finding.source),
    ("message", .string finding.message),
    ("isFixable", .bool finding.isFixable)]

end Finding

namespace Json

/-- The 64-bit word that a value is. -/
def word? (value : Json) : Option UInt64 :=
  match value.natural? with
  | some n => if n < UInt64.size then some (UInt64.ofNat n) else none
  | none => none

end Json

namespace Finding

/-- The finding that a JSON object holds; one that does not say is not fixable. -/
def ofJson? (value : Json) : Option Finding := do
  let text (name : String) : Option String := (value.field? name).bind Json.text?
  let isFixable ← match value.field? "isFixable" with
    | none => some false
    | some (.bool b) => some b
    | some _ => none
  some {
    rule := ← text "rule"
    severity := ← (← text "severity") |> Severity.ofText?
    filePath := ← text "filePath"
    line := ← (← value.field? "line").word?
    column := ← (← value.field? "column").word?
    source := ← text "source"
    message := ← text "message"
    isFixable }

end Finding

/-- How many findings there are of each kind. -/
structure Summary where
  errors : Nat
  warnings : Nat
  todos : Nat
  fixableErrors : Nat
  fixableWarnings : Nat
  deriving Repr, DecidableEq, Inhabited

namespace Summary

/-- The counts of no findings. -/
def zero : Summary :=
  ⟨0, 0, 0, 0, 0⟩

/-- The counts with one more finding. -/
def add (summary : Summary) (finding : Finding) : Summary :=
  let fixable := if finding.isFixable then 1 else 0
  match finding.severity with
  | .error =>
    { summary with
      errors := summary.errors + 1
      fixableErrors := summary.fixableErrors + fixable }
  | .warning =>
    { summary with
      warnings := summary.warnings + 1
      fixableWarnings := summary.fixableWarnings + fixable }
  | .todo => { summary with todos := summary.todos + 1 }

/-- The counts over findings. -/
def ofFindings (findings : List Finding) : Summary :=
  findings.foldl add zero

/-- Errors and warnings together. -/
def problems (summary : Summary) : Nat :=
  summary.errors + summary.warnings

/-- The warnings go beyond a threshold that is set and not silenced. -/
def exceeds (summary : Summary) (quiet : Bool) (maxWarnings : Option Nat) : Bool :=
  match maxWarnings with
  | some limit => !quiet && limit < summary.warnings
  | none => false

/-- The exit status: one for any error or for too many warnings. -/
def exitStatus (summary : Summary) (quiet : Bool) (maxWarnings : Option Nat) : Nat :=
  if 0 < summary.errors || summary.exceeds quiet maxWarnings then 1 else 0

/-- The counts as a JSON object. -/
def toJson (summary : Summary) : Json :=
  .object [
    ("errorCount", .natural summary.errors),
    ("warningCount", .natural summary.warnings),
    ("todoCount", .natural summary.todos),
    ("fixableErrorCount", .natural summary.fixableErrors),
    ("fixableWarningCount", .natural summary.fixableWarnings)]

end Summary

end TemplateLint
