import TemplateLint.Files.FileSystem
import TemplateLint.Settings.Project
import TemplateLint.Toml.Parser
import TemplateLint.Yaml.Document

/-! Finding the file that configures a project, and reading it. -/

namespace TemplateLint

namespace ProjectConfig

/-- The names of files that configure a project; the first that is there counts. -/
def fileNames : List String :=
  ["tmplint.toml", "tmplint.yaml", "tmplint.yml"]

/-- A file whose name ends like this holds YAML, and any other holds TOML. -/
def isYaml (path : String) : Bool :=
  match Path.extension? path with
  | some extension => extension = "yaml".toList || extension = "yml".toList
  | none => false

/-- The settings that a text in the notation of a file holds. -/
def ofText? (path : String) (text : String) : Option ProjectConfig :=
  (if isYaml path then Yaml.parse? text.toList else Toml.parse? text.toList).bind ofNode?

/-- The settings that a file holds. -/
def ofFile (files : FileSystem) (path : String) : Except ConfigFault ProjectConfig := do
  match files.readText path with
  | .error cause => throw (.unreadable cause)
  | .ok text =>
    match ofText? path text with
    | some config => pure config
    | none => throw .malformed

/-- The file that configures a project: one that is named, or one of the usual ones if it is there. -/
def locate? (files : FileSystem) (directory : String) : Option String → Option String
  | some path => some (Path.join directory path)
  | none => (fileNames.map (Path.join directory)).find? files.isFile

/-- The settings of a project. A file that is named must be there. -/
def discover (files : FileSystem) (directory : String) (named : Option String) :
    Except LintError (Option ProjectConfig) :=
  match locate? files directory named with
  | none => .ok none
  | some path =>
    -- Only a named file can be missing here: one of the usual names was found to be there.
    if !files.isFile path then .error (.badConfig path .notFound)
    else
      match ofFile files path with
      | .ok config => .ok (some config)
      | .error fault => .error (.badConfig path fault)

end ProjectConfig

end TemplateLint
