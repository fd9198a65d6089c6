import TemplateLint.Files.Path
import TemplateLint.Text.Content

/-!
A tree of files, directories and symbolic links. Every operation names its file by a path, which
is looked up from the root step by step.
-/

namespace TemplateLint

/-- Why an operation on a file is refused. -/
inductive FileError where
  | notFound
  | exists
  | notDirectory
  | isDirectory
  | notExecutable
  | nameTooLong
  | linkLoop
  | nulInPath
  | notText
  deriving Repr, DecidableEq, Inhabited

namespace FileError

/-- The wording of a refusal. -/
def message : FileError → String
  | .notFound => "No such file or directory (os error 2)"
  | .exists => "File exists (os error 17)"
  | .notDirectory => "Not a directory (os error 20)"
  | .isDirectory => "Is a directory (os error 21)"
  | .notExecutable => "Exec format error (os error 8)"
  | .nameTooLong => "File name too long (os error 36)"
  | .linkLoop => "Too many levels of symbolic links (os error 40)"
  | .nulInPath => "file name contained an unexpected NUL byte"
  | .notText => "stream did not contain valid UTF-8"

end FileError

/-- Where a file is: the names that lead to it from the root. -/
abbrev Location :=
  List String

/-- What stands at a location. -/
inductive Entry where
  | file (content : Content) (executable : Bool)
  | directory
  | link (target : String)
  | sink
  deriving Repr, DecidableEq, Inhabited

/-- All entries below the root, each at its own location. -/
structure FileSystem where
  entries : List (Location × Entry)
  deriving Repr, Inhabited

/-- What a path leads to: an entry, or a free name in an existing directory. -/
inductive Place where
  | present (location : Location)
  | vacant (location : Location) (slashed : Bool)
  deriving Repr, DecidableEq

/-- One step of a walk; the last slash of a path asks for a directory. -/
inductive Stride where
  | stay
  | up
  | down (name : String)
  deriving Repr, DecidableEq

namespace Stride

/-- The steps that a path asks for. -/
def ofPath (path : List Char) : List Stride :=
  let steps := ((Text.splitOn '/' path).filter (· ≠ [])).map fun piece =>
    if piece = ['.'] then Stride.stay
    else if piece = ['.', '.'] then Stride.up
    else Stride.down (.ofList piece)
  -- A slash at the end steps nowhere, but only from a directory.
  if path.getLast? = some '/' then steps ++ [.stay] else steps

end Stride

namespace FileSystem

/-- A disk with nothing on it. -/
def empty : FileSystem :=
  ⟨[]⟩

/-- The entry at a location; the root is a directory. -/
def entry? (files : FileSystem) (location : Location) : Option Entry :=
  if location = [] then some .directory else files.entries.lookup location

/-- The disk with an entry put at a location, in place of what stood there. -/
def put (files : FileSystem) (location : Location) (entry : Entry) : FileSystem :=
  -- The entry moves to the end, so that each location stands once.
  ⟨(files.entries.filter (·.1 ≠ location)) ++ [(location, entry)]⟩

/-- The disk without a location and all that stands below it. -/
def remove (files : FileSystem) (location : Location) : FileSystem :=
  ⟨files.entries.filter fun stored => !location.isPrefixOf stored.1⟩

/-- The longest name of a single file, in bytes. -/
def longestName : Nat :=
  255

/-- The longest path, in bytes. -/
def longestPath : Nat :=
  4095

/-- How many links one walk may follow. -/
def linkLimit : Nat :=
  40

/--
The place that steps lead to from a directory. At a link the walk goes on as told, with the steps
of its target before those still ahead.
-/
def stroll (files : FileSystem) (followLast slashed : Bool)
    (onward : Location → List Stride → Except FileError Place) :
    Location → List Stride → Except FileError Place
  | current, [] => .ok (.present current)
  | current, step :: rest =>
    -- Every step starts in a directory.
    if files.entry? current ≠ some .directory then .error .notDirectory
    else
      match step with
      | .stay => stroll files followLast slashed onward current rest
      | .up => stroll files followLast slashed onward current.dropLast rest
      | .down name =>
        let next := current ++ [name]
        if longestName < name.utf8ByteSize then .error .nameTooLong
        else
          match files.entry? next with
          -- A name may be missing at the very end only, where a file or a directory could be made.
          | none =>
            if rest = [] then .ok (.vacant next false)
            else if slashed && rest = [.stay] then .ok (.vacant next true)
            else .error .notFound
          | some (.link target) =>
            if rest = [] && !followLast then .ok (.present next)
            else
              onward (if Path.isAbsolute target then [] else current)
                (Stride.ofPath target.toList ++ rest)
          | some _ => stroll files followLast slashed onward next rest

/-- The place that steps lead to from a directory, following at most a number of links. -/
def walk (files : FileSystem) (followLast slashed : Bool) :
    Nat → Location → List Stride → Except FileError Place
  | 0 => stroll files followLast slashed fun _ _ => .error .linkLoop
  -- The count drops at a link alone; between links the walk follows its steps.
  | links + 1 => stroll files followLast slashed (walk files followLast slashed links)

/-- The place that a path leads to. -/
def locate (files : FileSystem) (path : String) (followLast : Bool) : Except FileError Place :=
  let characters := path.toList
  if characters.contains '\u0000' then .error .nulInPath
  else if characters = [] then .error .notFound
  else if longestPath < path.utf8ByteSize then .error .nameTooLong
  else walk files followLast (characters.getLast? = some '/') linkLimit [] (Stride.ofPath characters)

/-- The location of what a path leads to. -/
def find (files : FileSystem) (path : String) : Except FileError Location :=
  match files.locate path true with
  | .error error => .error error
  | .ok (.vacant _ _) => .error .notFound
  | .ok (.present location) => .ok location

/-- The entry that a path leads to, through links. -/
def follow? (files : FileSystem) (path : String) : Option Entry :=
  match files.find path with
  | .error _ => none
  | .ok location => files.entry? location

/-- A path leads to something. -/
def holds (files : FileSystem) (path : String) : Bool :=
  (files.follow? path).isSome

/-- A path names something, be it a link that leads nowhere. -/
def names (files : FileSystem) (path : String) : Bool :=
  -- A link at the end is not followed.
  match files.locate path false with
  | .ok (.present _) => true
  | _ => false

/-- A path leads to a regular file. -/
def isFile (files : FileSystem) (path : String) : Bool :=
  match files.follow? path with
  | some (.file _ _) => true
  | _ => false

/-- A path leads to a directory. -/
def isDirectory (files : FileSystem) (path : String) : Bool :=
  files.follow? path == some .directory

/-- A path leads to a regular file that may be run. -/
def isExecutable (files : FileSystem) (path : String) : Bool :=
  match files.follow? path with
  | some (.file _ executable) => executable
  | _ => false

/-- The content of the file that a path leads to. -/
def read (files : FileSystem) (path : String) : Except FileError Content :=
  match files.find path with
  | .error error => .error error
  | .ok location =>
    match files.entry? location with
    | some (.file content _) => .ok content
    | some .sink => .ok .empty
    | some .directory => .error .isDirectory
    | _ => .error .notFound

/-- The text of the file that a path leads to. -/
def readText (files : FileSystem) (path : String) : Except FileError String :=
  match files.read path with
  | .error error => .error error
  | .ok content =>
    match content.text? with
    | some text => .ok text
    | none => .error .notText

/-- The disk after a file's content is changed, or made from nothing if there is no file yet. -/
def change (files : FileSystem) (path : String) (next : Content → Content) :
    Except FileError FileSystem :=
  match files.locate path true with
  | .error error => .error error
  | .ok (.vacant location slashed) =>
    if slashed then .error .isDirectory
    else .ok (files.put location (.file (next .empty) false))
  | .ok (.present location) =>
    match files.entry? location with
    | some (.file content executable) => .ok (files.put location (.file (next content) executable))
    | some .sink => .ok files
    | some .directory => .error .isDirectory
    | _ => .error .notFound

/-- The disk after a text replaces the content of a file. -/
def write (files : FileSystem) (path text : String) : Except FileError FileSystem :=
  files.change path fun _ => .text text

/-- The disk after a text is added at the end of a file. -/
def append (files : FileSystem) (path text : String) : Except FileError FileSystem :=
  files.change path fun content => content.appendText text

/-- The disk with one more directory. -/
def makeDirectory (files : FileSystem) (path : String) : Except FileError FileSystem :=
  match files.locate path false with
  | .error error => .error error
  | .ok (.present _) => .error .exists
  | .ok (.vacant location _) => .ok (files.put location .directory)

/-- The disk with a directory at a path and at every step towards it, made from the top. -/
def makeDirectories (files : FileSystem) : Nat → String → Except FileError FileSystem
  | 0, _ => .ok files
  | steps + 1, path =>
    if path.isEmpty then .ok files
    else
      match files.makeDirectory path with
      | .ok made => .ok made
      | .error .notFound =>
        match Path.parent? path with
        | none => .error .notFound
        | some parent =>
          match makeDirectories files steps parent with
          | .error error => .error error
          | .ok made =>
            match made.makeDirectory path with
            | .ok all => .ok all
            -- It may have come to be with its parents, as where a path ends in two dots.
            | .error error => if made.isDirectory path then .ok made else .error error
      | .error error => if files.isDirectory path then .ok files else .error error

/-- The disk with a directory at a path, its parents made where they are missing. -/
def ensureDirectory (files : FileSystem) (path : String) : Except FileError FileSystem :=
  files.makeDirectories (path.length + 1) path

/-- Names in order with one more name put in its place. -/
def insertName (name : String) : List String → List String
  | [] => [name]
  | other :: later =>
    if name ≤ other then name :: other :: later else other :: insertName name later

/-- The names in a directory, in order. -/
def listing (files : FileSystem) (location : Location) : List String :=
  let below := files.entries.filterMap fun stored =>
    if stored.1.dropLast = location ∧ stored.1 ≠ [] then stored.1.getLast? else none
  below.foldr insertName []

/-- The path from the root to a location. -/
def pathOf (location : Location) : String :=
  match location with
  | [] => "/"
  | _ => location.foldl (fun path name => path ++ "/" ++ name) ""

/-- The path without links, dots or doubled slashes to what a path leads to. -/
def canonical (files : FileSystem) (path : String) : Except FileError String :=
  match files.find path with
  | .error error => .error error
  | .ok location => .ok (pathOf location)

end FileSystem

end TemplateLint
