import TemplateLint.Json.Printer
import TemplateLint.Report.Basic

/-! The report for machines: one JSON object with the findings of each file. -/

namespace TemplateLint

namespace Report

/-- Groups with one more finding, beside the others of its file or in a new last group. -/
def addToGroup (finding : Finding) : List (String × List Finding) → List (String × List Finding)
  | [] => [(finding.filePath, [finding])]
  | (path, found) :: later =>
    if path = finding.filePath then (path, found ++ [finding]) :: later
    else (path, found) :: addToGroup finding later

/-- Findings by file; the files stand in the order in which they first appear. -/
def groupByFile (findings : List Finding) : List (String × List Finding) :=
  findings.foldl (fun groups finding => addToGroup finding groups) []

/-- The visible findings as a JSON object with a field for each file. -/
def jsonObject (options : ReportOptions) (results : Results) : Json :=
  .object ((groupByFile (options.visible results)).map fun (path, found) =>
    (path, .array (found.map Finding.toJson)))

/-- The formatter for machines. -/
def json (options : ReportOptions) : Formatter := fun results _ =>
  deliver options (jsonObject options results).renderIndented

end Report

end TemplateLint
