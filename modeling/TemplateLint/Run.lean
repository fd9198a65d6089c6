import TemplateLint.FileSet
import TemplateLint.Json.Printer
import TemplateLint.Session

/-! The run over all files, one file at a time. -/

namespace TemplateLint

/-- What is asked of a run. -/
structure RunOptions where
  fix : Bool
  updateTodo : Bool
  cleanTodo : Bool
  printConfig : Bool
  stdinFilename : Option String
  deriving Repr, DecidableEq

/-- The findings of all files, and how many todos were made and dropped. -/
structure RunResults where
  findings : List Finding
  added : Nat
  removed : Nat
  deriving Repr, DecidableEq

/-- How a run ends: with findings, or with the settings of its one file shown. -/
inductive RunOutcome where
  | completed (results : RunResults)
  | printedConfig
  deriving Repr, DecidableEq

namespace Run

variable {μ : Type}

/-- The template that a file or standard input holds; standard input is read to its end. -/
def load (workingDir : String) (stdinFilename : Option String) : FileSpec → Lint μ Template
  | .stdin => do
    let session ← get
    -- The input is gone even when it turns out to be no text.
    set { session with input := Content.empty }
    match session.input.text? with
    | some source => pure ⟨source, stdinFilename.getD stdinName⟩
    | none => throw (.unreadableInput .notText)
  | .path path => do
    let session ← get
    let full := Path.join workingDir path
    match session.files.readText full with
    | .ok source => pure ⟨source, path⟩
    | .error cause => throw (.unreadable full cause)

/-- Puts a fixed template in the place of its file. -/
def writeBack (workingDir : String) (template : Template) (output : String) : Lint μ Unit := do
  let session ← get
  let path := Path.join workingDir template.filePath
  match session.files.write path output with
  | .ok files => set { session with files }
  | .error cause => throw (.unwritable path cause)

/-- The findings in a template, after fixing it on disk if asked. -/
def findings (engine : Engine μ) (workingDir : String) (fix isStdin : Bool)
    (template : Template) : Lint μ (List Finding) := do
  if fix then
    let outcome ← engine.fix template
    -- A fixed standard input has no file to go back to.
    if outcome.isFixed && !isStdin then writeBack workingDir template outcome.output
    pure outcome.findings
  else engine.verify template

/-- One file: its findings held against its todos, and its todos made and dropped. -/
def lintFile (engine : Engine μ) (workingDir : String) (options : RunOptions) (decay : Decay)
    (overriding : Bool) (spec : FileSpec) : Lint μ RunResults := do
  let template ← load workingDir options.stdinFilename spec
  let isStdin := spec = .stdin
  let found ← findings engine workingDir options.fix isStdin template
  -- Todos are made before findings are held against them, so that a new todo covers at once.
  let counts ←
    if options.updateTodo then engine.updateTodos template found decay overriding
    else pure ⟨0, 0⟩
  let reported ←
    if isStdin then pure found
    else engine.processTodos template found decay (options.fix || options.cleanTodo) overriding
  pure ⟨reported, counts.added, counts.removed⟩

/-- All files in order; the first failure ends the run. -/
def lintFiles (engine : Engine μ) (workingDir : String) (options : RunOptions) (decay : Decay)
    (overriding : Bool) : List FileSpec → Lint μ RunResults
  | [] => pure ⟨[], 0, 0⟩
  | spec :: later => do
    let first ← lintFile engine workingDir options decay overriding spec
    let rest ← lintFiles engine workingDir options decay overriding later
    pure ⟨first.findings ++ rest.findings, first.added + rest.added, first.removed + rest.removed⟩

/-- Shows the settings in force for a file. -/
def printConfig (engine : Engine μ) (workingDir : String) (options : RunOptions)
    (spec : FileSpec) : Lint μ Unit := do
  let template ← load workingDir options.stdinFilename spec
  let settings ← engine.settings template
  Session.print ⟨.log, settings.renderIndented⟩

/-- A whole run over a set of files. -/
def run (engine : Engine μ) (workingDir : String) (options : RunOptions) (decay : Decay)
    (overriding : Bool) (files : FileSet) : Lint μ RunOutcome := do
  if options.printConfig then
    -- With settings to show nothing is linted.
    match files.specs with
    | [] => pure (.completed ⟨[], 0, 0⟩)
    | [spec] =>
      printConfig engine workingDir options spec
      pure .printedConfig
    | _ => throw (.notSingleFile files.size)
  else
    let results ← lintFiles engine workingDir options decay overriding files.specs
    pure (.completed results)

end Run

end TemplateLint
