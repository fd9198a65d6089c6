import TemplateLint.Report.Basic

/-! The report for people: findings under the name of their file, then counts. -/

namespace TemplateLint

namespace Report

/-- A noun in the plural unless there is exactly one. -/
def plural (count : Nat) (noun : String) : String :=
  if count = 1 then noun else noun ++ "s"

/-- A count with its noun. -/
def counted (count : Nat) (noun : String) : String :=
  toString count ++ " " ++ plural count noun

/-- The mark of a severity, its word filled up to seven letters, and its colour. -/
def severityTag : Severity → String × Style
  | .error => ("✖ error  ", .red)
  | .warning => ("▲ warning", .yellow)
  | .todo => ("◆ todo   ", .blue)

/-- Reports on a terminal are coloured; reports in files never are. -/
def usesColours (options : ReportOptions) : Bool :=
  options.outputFile.isNone && options.colours

/-- The line of a finding. -/
def findingLine (colours : Bool) (finding : Finding) : String :=
  let (tag, colour) := severityTag finding.severity
  let place := toString finding.line.toNat ++ ":" ++ toString finding.column.toNat
  "  " ++ Style.paint colours [.grey] place ++ "  " ++ Style.paint colours [colour, .bold] tag ++
    "  " ++ finding.message ++ "  ❲" ++ Style.paint colours [.grey] finding.rule ++ "❳"

/-- The lines of findings; a new heading stands wherever the file changes. -/
def findingLines (colours verbose : Bool) : Option String → List Finding → List String
  | _, [] => []
  | current, finding :: later =>
    let heading := Style.paint colours [.bold] finding.filePath
    let opening :=
      match current with
      | none => [heading]
      | some path => if path = finding.filePath then [] else ["", heading]
    let source := if verbose then ["      " ++ finding.source] else []
    opening ++ findingLine colours finding :: source ++
      findingLines colours verbose (some finding.filePath) later

/-- The lines that count problems, and those that could be fixed. -/
def problemLines (colours : Bool) (options : ReportOptions) (summary : Summary)
    (facts : RunFacts) : List String :=
  let warnings := if options.quiet then 0 else summary.warnings
  let fixableWarnings := if options.quiet then 0 else summary.fixableWarnings
  let problems := summary.errors + warnings
  if 0 < problems then
    let line := "✖ " ++ counted problems "problem" ++ " (" ++ counted summary.errors "error" ++
      ", " ++ counted warnings "warning" ++ ")"
    let hint :=
      if 0 < summary.fixableErrors + fixableWarnings && !facts.fix then
        ["  " ++ counted summary.fixableErrors "error" ++ " and " ++
          counted fixableWarnings "warning" ++ " potentially fixable with the `--fix` option."]
      else []
    "" :: Style.paint colours [.red, .bold] line :: hint
  else []

/-- The line that counts todos which are not shown. -/
def todoLines (colours : Bool) (options : ReportOptions) (summary : Summary) : List String :=
  if 0 < summary.todos && !options.includeTodo then
    [Style.paint colours [.blue]
      ("◆ " ++ counted summary.todos "todo" ++ " (run with --include-todo to show them)")]
  else []

/-- The line that counts todos made and dropped. -/
def changeLines (colours : Bool) (facts : RunFacts) : List String :=
  match facts.todoChanges with
  | some (added, removed) =>
    [Style.paint colours [.green]
      ("✔ " ++ counted added "todo" ++ " created, " ++ counted removed "todo" ++ " removed")]
  | none => []

/-- The line about too many warnings. -/
def thresholdLines (colours : Bool) (options : ReportOptions) (summary : Summary)
    (facts : RunFacts) : List String :=
  match facts.maxWarnings with
  | some limit =>
    if summary.exceeds options.quiet (some limit) then
      [Style.paint colours [.yellow, .bold]
        ("tmplint found too many warnings (maximum: " ++ toString limit ++ ").")]
    else []
  | none => []

/-- All lines of a report. -/
def prettyLines (options : ReportOptions) (results : Results) (facts : RunFacts) : List String :=
  let colours := usesColours options
  findingLines colours options.verbose none (options.visible results) ++
    problemLines colours options results.summary facts ++
    todoLines colours options results.summary ++
    changeLines colours facts ++
    thresholdLines colours options results.summary facts

/-- The text of a report, without line feeds at its end. -/
def prettyText (options : ReportOptions) (results : Results) (facts : RunFacts) : String :=
  let text := String.intercalate "\n" (prettyLines options results facts)
  .ofList (Text.dropEndWhile (· = '\n') text.toList)

/-- The formatter for people. -/
def pretty (options : ReportOptions) : Formatter := fun results facts =>
  deliver options (prettyText options results facts)

end Report

end TemplateLint
