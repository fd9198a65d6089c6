import TemplateLint.Files.FileSystem
import TemplateLint.Glob.Pattern

/-! The files that a glob pattern leads to, found directory by directory. -/

namespace TemplateLint

namespace Glob

/-- A path on the way, with the patterns that its last name and all below it still have to match. -/
structure Candidate where
  path : String
  pending : List GlobPattern

/-- The candidates in a directory, or one step further along a name without wildcards. -/
def candidates (files : FileSystem) : List GlobPattern → String → List Candidate
  | [], _ => []
  | pattern :: later, path =>
    let proceed (next : String) : List Candidate :=
      if later.isEmpty then [⟨next, []⟩] else candidates files later next
    match pattern.literal? with
    | some name =>
      let next := Path.join path name
      let reachable :=
        if name = "." ∨ name = ".." then files.isDirectory path
        else files.holds next || files.names next
      if reachable then proceed next else []
    | none =>
      match files.find path with
      | .error _ => []
      | .ok location =>
        if files.entry? location = some .directory then
          let special :=
            if pattern.beginsWithPoint then
              ["..", "."].flatMap fun name =>
                if pattern.accepts name then proceed (Path.join path name) else []
            else []
          special ++ (files.listing location).map fun name =>
            ⟨Path.join path name, pattern :: later⟩
        else []

/-- The last of several patterns for any run of directories, and the patterns after it. -/
def lastRecursive (pattern : GlobPattern) : List GlobPattern → GlobPattern × List GlobPattern
  | [] => (pattern, [])
  | next :: later => if next.isRecursive then lastRecursive next later else (pattern, next :: later)

/-- The paths that a candidate leads to, within a number of steps. -/
def reach (files : FileSystem) (directoriesOnly : Bool) : Nat → Candidate → List String
  | 0, _ => []
  | steps + 1, ⟨path, pending⟩ =>
    let kept (path : String) : List String :=
      if !directoriesOnly || files.isDirectory path then [path] else []
    let byName : List GlobPattern → List String
      | [] => []
      | pattern :: later =>
        match Path.fileName? path with
        | none => []
        | some name =>
          if pattern.accepts (.ofList name) then
            if later.isEmpty then kept path
            else (candidates files later path).flatMap (reach files directoriesOnly steps)
          else []
    match pending with
    | [] => kept path
    | pattern :: later =>
      if pattern.isRecursive then
        let (last, after) := lastRecursive pattern later
        if files.isDirectory path then
          -- A directory is found before what it holds.
          let here := if after.isEmpty then [path] else byName after
          here ++ (candidates files (last :: after) path).flatMap (reach files directoriesOnly steps)
        else byName after
      else byName (pattern :: later)

/-- The patterns of the names in a path, without the slash at its start. -/
def namePatterns (pattern : List Char) : Except GlobFault (List GlobPattern) :=
  let names := Text.splitOn '/' pattern
  -- A slash at the end closes the last name and opens none.
  let names := if names.getLast? = some [] then names.dropLast else names
  names.mapM fun name => GlobPattern.parse (.ofList name)

/-- The paths that an absolute pattern matches, in the order of their names. -/
def paths (files : FileSystem) (pattern : String) : Except GlobFault (List String) :=
  match GlobPattern.parse pattern with
  | .error fault => .error fault
  | .ok _ =>
    match namePatterns (pattern.toList.drop 1) with
    | .error fault => .error fault
    | .ok patterns =>
      let directoriesOnly := pattern.toList.getLast? = some '/'
      let steps := FileSystem.longestPath + patterns.length + 1
      .ok ((candidates files patterns "/").flatMap (reach files directoriesOnly steps))

end Glob

end TemplateLint
