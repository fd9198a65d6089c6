import TemplateLint.Console
import TemplateLint.Error
import TemplateLint.Finding
import TemplateLint.Todo.Reconcile

/-! The state that a run works on, and the engine that a run drives. -/

namespace TemplateLint

/-- The disk, the input still unread, the lines shown so far, and what the engine remembers. -/
structure Session (μ : Type) where
  files : FileSystem
  input : Content
  console : List Line
  memory : μ

/-- A step of a run; a failure leaves the state as it is then. -/
abbrev Lint (μ : Type) :=
  ExceptT LintError (StateM (Session μ))

/-- A template to lint. -/
structure Template where
  source : String
  filePath : String
  deriving Repr, DecidableEq

namespace Template

/-- A path without its extension; a point that opens the file's name starts no extension. -/
def moduleOf (path : String) : String :=
  let reversed := path.toList.reverse
  let name := reversed.takeWhile (· ≠ '/')
  match name.dropWhile (· ≠ '.') with
  | '.' :: stem@(_ :: _) => .ofList (stem ++ reversed.drop name.length).reverse
  | _ => path

/-- The name of the module that a template defines. -/
def moduleId (template : Template) : String :=
  moduleOf template.filePath

end Template

/-- A template after fixing, and what is found in it then. -/
structure FixOutcome where
  isFixed : Bool
  output : String
  findings : List Finding
  deriving Repr, DecidableEq

/-- What a run asks of an engine that remembers values of a type. -/
structure Engine (μ : Type) where
  verify : Template → Lint μ (List Finding)
  fix : Template → Lint μ FixOutcome
  settings : Template → Lint μ Json
  updateTodos : Template → List Finding → Decay → Bool → Lint μ TodoCounts
  processTodos : Template → List Finding → Decay → Bool → Bool → Lint μ (List Finding)

namespace Session

/-- Shows a line. -/
def print {μ : Type} (line : Line) : Lint μ Unit :=
  modify fun session => { session with console := session.console ++ [line] }

/-- Runs a step of the todo store, whose memory is the engine's. -/
def withTodos {α : Type} (action : TodoAction α) : Lint (Option (List Todo)) α := do
  let session ← get
  let (result, memory) := action.run.run ⟨session.files, session.memory⟩
  -- The disk and the memory are kept also when the step fails.
  set { session with files := memory.files, memory := memory.live }
  match result with
  | .ok value => pure value
  | .error error => throw error

end Session

end TemplateLint
