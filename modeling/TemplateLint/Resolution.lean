import TemplateLint.FileSet
import TemplateLint.Glob.Braces
import TemplateLint.Glob.Expansion
import TemplateLint.Ignore.Rules

/-! From paths and patterns on the command line to the files to lint. -/

namespace TemplateLint

/-- Which files are left out: none at all, or those that patterns and ignore files name. -/
inductive IgnoreSpec where
  | disabled
  | patterns (globs : List String)
  deriving Repr, DecidableEq

namespace IgnoreSpec

/-- The patterns of files that are left out unless others are given. -/
def defaultPatterns : List String :=
  ["**/dist/**", "**/tmp/**", "**/node_modules/**"]

/-- Files are left out by the default patterns. -/
def defaults : IgnoreSpec :=
  .patterns defaultPatterns

/-- The patterns, read in order. -/
def compile : IgnoreSpec → Except LintError (List GlobPattern)
  | .disabled => .ok []
  | .patterns globs =>
    globs.mapM fun glob =>
      match GlobPattern.parse glob with
      | .ok pattern => .ok pattern
      | .error fault => .error (.badGlob fault)

end IgnoreSpec

namespace Resolution

/-- The extensions of templates. -/
def extensions : List (List Char) :=
  ["hbs".toList, "handlebars".toList]

/-- A character that makes a path a pattern. -/
def isWildcard (c : Char) : Bool :=
  c == '*' || c == '?' || c == '[' || c == ']' || c == '{' || c == '}' || c == '!'

/-- A path is written as a pattern. -/
def hasWildcards (pattern : String) : Bool :=
  pattern.toList.any isWildcard

/-- A path names one file as it stands. -/
def isLiteral (files : FileSystem) (workingDir pattern : String) : Bool :=
  !hasWildcards pattern && files.isFile (Path.join workingDir pattern)

/-- Some pattern leaves a path out. -/
def isIgnored (ignored : List GlobPattern) (path : String) : Bool :=
  ignored.any (·.accepts path)

/-- A path has the extension of a template, in letters of either case. -/
def isTemplate (path : String) : Bool :=
  match Path.extension? path with
  | some extension => extensions.contains (extension.map Char.toLower)
  | none => false

/-- The pattern for what a path stands for; a directory stands for everything beneath it. -/
def normalize (files : FileSystem) (workingDir pattern : String) : String :=
  let characters := pattern.toList
  -- One dot and slash at the start add nothing.
  let trimmed := (Text.after? ['.', '/'] characters).getD characters
  if trimmed = [] ∨ trimmed = ['.'] then "**/*"
  else if !trimmed.any isWildcard &&
      files.isDirectory (Path.join workingDir (.ofList trimmed)) then
    .ofList (Text.dropEndWhile (· = '/') trimmed ++ "/**/*".toList)
  else .ofList trimmed

/-- The path by which a file is named in findings: from the working directory, slashes forward. -/
def identifier (workingDir path : String) : String :=
  let relative := (Path.relativeTo? workingDir path).getD path
  .ofList (relative.toList.map fun c => if c = '\\' then '/' else c)

/-- The absolute patterns that a pattern stands for. -/
def alternatives (files : FileSystem) (workingDir pattern : String) : List String :=
  -- The working directory is no pattern, whatever characters it holds.
  let base := GlobPattern.escape workingDir
  (Glob.expandBraces (normalize files workingDir pattern).toList).map fun alternative =>
    let text := String.ofList alternative
    if Path.isAbsolute text then text else base ++ "/" ++ text

/-- All paths that patterns match, or the fault of the first that is no pattern. -/
def allPaths (files : FileSystem) : List String → Except LintError (List String)
  | [] => .ok []
  | pattern :: later =>
    match Glob.paths files pattern with
    | .error fault => .error (.badGlob fault)
    | .ok found =>
      match allPaths files later with
      | .error error => .error error
      | .ok more => .ok (found ++ more)

/-- Templates by identifier and path, each identifier once, without those that patterns leave out. -/
def select (files : FileSystem) (workingDir : String) (ignored : List GlobPattern)
    (paths : List String) : List (String × String) :=
  let templates := paths.filter fun path => files.isFile path && isTemplate path
  let named := templates.map fun path => (identifier workingDir path, path)
  (named.filter fun (name, _) => !isIgnored ignored name).foldl
    (fun kept entry => if kept.any (·.1 = entry.1) then kept else kept ++ [entry]) []

/-- The identifiers of all templates that a pattern leads to. -/
def expand (files : FileSystem) (workingDir : String) (ignored : List GlobPattern)
    (repository : Option Ignore.Repository) (pattern : String) :
    Except LintError (List String) :=
  match allPaths files (alternatives files workingDir pattern) with
  | .error error => .error error
  | .ok paths =>
    let selected := select files workingDir ignored paths
    let excluded :=
      match repository with
      | some repository => repository.excluded files (selected.map Prod.snd)
      | none => []
    -- Ignore files speak of paths on the disk, so these are compared and not the identifiers.
    let kept := selected.filter fun entry => !excluded.contains entry.2
    .ok (kept.map (·.1))

/-- What one pattern adds to the files to lint. -/
def resolveOne (files : FileSystem) (workingDir : String) (ignored : List GlobPattern)
    (repository : Option Ignore.Repository) (pattern : String) :
    Except LintError (List FileSpec) :=
  -- A file named as it stands is taken whatever its extension and whatever ignore files say.
  if isLiteral files workingDir pattern then
    .ok (if isIgnored ignored pattern then [] else [.path pattern])
  else
    match expand files workingDir ignored repository pattern with
    | .error error => .error error
    | .ok [] => .error (.noFilesMatched pattern)
    | .ok found => .ok (found.map .path)

/-- What patterns add to the files to lint, or the fault of the first that fails. -/
def resolveAll (files : FileSystem) (workingDir : String) (ignored : List GlobPattern)
    (repository : Option Ignore.Repository) : List String → Except LintError (List FileSpec)
  | [] => .ok []
  | pattern :: later =>
    match resolveOne files workingDir ignored repository pattern with
    | .error error => .error error
    | .ok specs =>
      match resolveAll files workingDir ignored repository later with
      | .error error => .error error
      | .ok more => .ok (specs ++ more)

end Resolution

/-- The files to lint for paths and patterns given on the command line. -/
def resolve (files : FileSystem) (workingDir : String) (patterns : List String)
    (ignore : IgnoreSpec) : Except LintError FileSet :=
  if asksForStdin patterns then .ok .stdin
  else
    match ignore.compile with
    | .error error => .error error
    | .ok ignored =>
      -- Without ignore patterns the ignore files of the repository do not count either.
      let repository :=
        match ignore with
        | .disabled => none
        | .patterns _ => Ignore.Repository.find? files workingDir
      match Resolution.resolveAll files workingDir ignored repository patterns with
      | .error error => .error error
      | .ok specs => .ok (FileSet.empty.insertAll specs)

end TemplateLint
