import TemplateLint.Text.Basic

/-! Paths as written: joining, parents, extensions and relative forms, without looking at a disk. -/

namespace TemplateLint

/-- One step of a path. -/
inductive Component where
  | root
  | here
  | up
  | name (value : List Char)
  deriving Repr, DecidableEq

namespace Component

/-- The step that a piece between slashes stands for. -/
def ofPiece (piece : List Char) : Component :=
  if piece = ['.', '.'] then .up else .name piece

/-- The text of a step. -/
def text : Component → List Char
  | .root => ['/']
  | .here => ['.']
  | .up => ['.', '.']
  | .name value => value

end Component

namespace Path

/-- A path that starts at the root. -/
def isAbsolute (path : String) : Bool :=
  path.toList.head? == some '/'

/-- A path seen from a base; an absolute path keeps its own start. -/
def join (base path : String) : String :=
  if isAbsolute path || base.isEmpty then path
  else if base.toList.getLast? == some '/' then base ++ path
  else base ++ "/" ++ path

/-- The steps of a path: doubled slashes and dots add none, save a dot at the very start. -/
def components (path : List Char) : List Component :=
  let pieces := (Text.splitOn '/' path).filter (· ≠ [])
  let steps (pieces : List (List Char)) : List Component :=
    (pieces.filter (· ≠ ['.'])).map Component.ofPiece
  if path.head? = some '/' then .root :: steps pieces
  else if pieces.head? = some ['.'] then .here :: steps pieces
  else steps pieces

/-- The path built by taking steps one after another. -/
def ofComponents (steps : List Component) : String :=
  steps.foldl (fun path step => join path (.ofList step.text)) ""

/-- A reversed path without the slashes and lone dots at its end. -/
def trimEndReversed : List Char → List Char
  | [] => []
  | ['/'] => ['/']
  | '/' :: rest => trimEndReversed rest
  | '.' :: '/' :: rest => trimEndReversed ('/' :: rest)
  | path => path

/-- The path one step up, none for the root and for no path at all. -/
def parent? (path : String) : Option String :=
  match trimEndReversed path.toList.reverse with
  | [] => none
  | ['/'] => none
  | trimmed =>
    some (.ofList (trimEndReversed (trimmed.dropWhile (· ≠ '/'))).reverse)

/-- The last step of a path, when it is a name. -/
def fileName? (path : String) : Option (List Char) :=
  match (components path.toList).getLast? with
  | some (.name value) => some value
  | _ => none

/-- The text after the last point of a file name, unless the point opens the name. -/
def extension? (path : String) : Option (List Char) :=
  match fileName? path with
  | none => none
  | some name =>
    let reversed := name.reverse
    let beyond := reversed.dropWhile (· ≠ '.')
    match beyond with
    | '.' :: _ :: _ => some (reversed.takeWhile (· ≠ '.')).reverse
    | _ => none

/-- The steps that lead from a base to a path, none if the base goes up where they part. -/
def stepsBetween (shared : Bool) : List Component → List Component → Option (List Component)
  | [], [] => some []
  | path, [] => some path
  | [], _ :: base => (stepsBetween false [] base).map (.up :: ·)
  | step :: path, other :: base =>
    if shared && step = other then stepsBetween true path base
    else
      match other with
      | .here => (stepsBetween false path base).map (step :: ·)
      | .up => none
      | _ => some (.up :: base.map (fun _ => .up) ++ step :: path)

/-- A path as seen from a base. -/
def relativeTo? (base path : String) : Option String :=
  if isAbsolute path = isAbsolute base then
    (stepsBetween true (components path.toList) (components base.toList)).map ofComponents
  else if isAbsolute path then some path
  else none

end Path

end TemplateLint
