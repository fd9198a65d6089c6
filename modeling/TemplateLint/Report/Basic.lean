import TemplateLint.Console
import TemplateLint.Error
import TemplateLint.Finding
import TemplateLint.Settings.Project

/-! What a report is made from, and where it goes. -/

namespace TemplateLint

/-- All findings of a run with the counts over them. -/
structure Results where
  findings : List Finding
  summary : Summary
  deriving Repr, DecidableEq

namespace Results

/-- The results of a run's findings. -/
def ofFindings (findings : List Finding) : Results :=
  ⟨findings, .ofFindings findings⟩

end Results

/-- Facts about a run that stand beside its findings. -/
structure RunFacts where
  /-- How many todos were made and dropped, when todos were updated. -/
  todoChanges : Option (Nat × Nat)
  maxWarnings : Option Nat
  fix : Bool
  deriving Repr, DecidableEq

/-- How a report is asked for. -/
structure ReportOptions where
  outputFile : Option String
  quiet : Bool
  verbose : Bool
  includeTodo : Bool
  workingDir : String
  delegates : List Delegate
  colours : Bool
  deriving Repr, DecidableEq

/-- A line of a report, or a note about one, which quiet runs do without. -/
structure Notice where
  isNote : Bool
  line : Line
  deriving Repr, DecidableEq

/-- The disk and everything shown so far. -/
structure Desk where
  files : FileSystem
  shown : List Notice

/-- A step of reporting; what it did before a failure stays done. -/
abbrev Reporting :=
  ExceptT LintError (StateM Desk)

/-- Something that makes a report. -/
abbrev Formatter :=
  Results → RunFacts → Reporting Unit

namespace ReportOptions

/-- A finding is shown: errors always, warnings unless quiet, todos if asked for. -/
def shows (options : ReportOptions) (finding : Finding) : Bool :=
  match finding.severity with
  | .error => true
  | .warning => !options.quiet
  | .todo => options.includeTodo

/-- The findings that are shown, in order. -/
def visible (options : ReportOptions) (results : Results) : List Finding :=
  results.findings.filter options.shows

end ReportOptions

namespace Report

/-- Shows a line. -/
def print (notice : Notice) : Reporting Unit :=
  modify fun desk => { desk with shown := desk.shown ++ [notice] }

/-- Takes the disk that an operation leaves, or fails to write a path. -/
def store (path : String) (result : Except FileError FileSystem) : Reporting Unit :=
  match result with
  | .ok files => modify fun desk => { desk with files }
  | .error cause => throw (.unwritable path cause)

/-- Puts a report into its file, its directories made, or shows it unless it is empty. -/
def deliver (options : ReportOptions) (text : String) : Reporting Unit := do
  match options.outputFile with
  | some path =>
    match Path.parent? path with
    | some parent => do
      let desk ← get
      store parent (desk.files.ensureDirectory parent)
    | none => pure ()
    let desk ← get
    store path (desk.files.write path text)
    print ⟨true, ⟨.log, "Report written to " ++ path⟩⟩
  | none => if text.isEmpty then pure () else print ⟨false, ⟨.log, text⟩⟩

end Report

end TemplateLint
