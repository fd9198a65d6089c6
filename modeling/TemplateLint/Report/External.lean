import TemplateLint.Json.Printer
import TemplateLint.Report.Basic
import TemplateLint.Script.Shell

/-! Formatters that are programs: they read the results as JSON and print the report. -/

namespace TemplateLint

namespace Report

/-- How the names of formatter programs begin. -/
def programPrefix : String :=
  "tmplint-formatter-"

/-- The paths at which a formatter of a name may be. -/
def programCandidates (workingDir name : String) : List String :=
  let plain := Path.join workingDir name
  if programPrefix.toList.isPrefixOf name.toList then [plain]
  else [plain, Path.join workingDir (programPrefix ++ name)]

/-- A count that may be absent. -/
def countOrNull : Option Nat → Json
  | some count => .natural count
  | none => .null

/-- What a formatter program reads. -/
def payload (options : ReportOptions) (results : Results) (facts : RunFacts) : Json :=
  let changes :=
    match facts.todoChanges with
    | some (added, removed) =>
      Json.object [("added", .natural added), ("removed", .natural removed)]
    | none => .null
  .object [
    ("results", .array ((options.visible results).map Finding.toJson)),
    ("summary", results.summary.toJson),
    ("metadata", .object [
      ("todoInfo", changes),
      ("maxWarnings", countOrNull facts.maxWarnings),
      ("fix", .bool facts.fix)])]

/-- The formatter that a program is. -/
def external (name program : String) (options : ReportOptions) : Formatter := fun results facts => do
  let desk ← get
  match Program.run desk.files program options.workingDir
      (payload options results facts).render with
  | .error cause => throw (.formatterFailed name (.notStarted cause))
  | .ok done =>
    set { desk with files := done.files }
    if done.ending.isSuccess then
      deliver options (.ofList (Text.dropEndWhile (· = '\n') done.output.lossyText.toList))
    else
      let complaint := String.ofList (Text.trim done.errors.lossyText.toList)
      throw (.formatterFailed name (.ended done.ending complaint))

/-- The formatter program of a name, the first of its candidates that may be run. -/
def findExternal (files : FileSystem) (name : String) (options : ReportOptions) :
    Except LintError Formatter :=
  let candidates := programCandidates options.workingDir name
  match candidates.find? files.isExecutable with
  | some program => .ok (external name program options)
  | none => .error (.formatterNotLoaded name (.noProgram candidates))

end Report

end TemplateLint
