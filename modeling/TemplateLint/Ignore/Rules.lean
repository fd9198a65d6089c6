import TemplateLint.Files.FileSystem
import TemplateLint.Ignore.Wildcard

/-! The ignore files of a repository, and the paths that they exclude. -/

namespace TemplateLint

namespace Ignore

/-- One line of an ignore file. -/
structure Rule where
  pattern : List UInt8
  negated : Bool
  directoryOnly : Bool
  /-- The pattern holds a slash and so speaks of paths from the ignore file's directory. -/
  isPath : Bool
  deriving Repr, DecidableEq

/-- The bytes between line feeds, the last piece included. -/
def byteLines : List UInt8 → List (List UInt8)
  | [] => [[]]
  | byte :: rest =>
    if byte = 10 then [] :: byteLines rest
    else
      match byteLines rest with
      | [] => [[byte]]
      | line :: later => (byte :: line) :: later

/-- A line without the spaces at its end that no backslash protects. -/
def trimSpaces : List UInt8 → List UInt8
  | [] => []
  | [92] => [92]
  | 92 :: c :: rest => 92 :: c :: trimSpaces rest
  | c :: rest =>
    if c = 32 && rest.all (· = 32) then [] else c :: trimSpaces rest

/-- The rule that a line states, if it is neither empty nor a comment. -/
def Rule.ofLine? (line : List UInt8) : Option Rule :=
  -- A carriage return at the end belongs to the line break.
  let line := if line.getLast? = some 13 then line.dropLast else line
  if line.isEmpty || line.head? = some (byteOf '#') then none
  else
    let line := trimSpaces line
    let negated := line.head? = some (byteOf '!')
    let body := if negated then line.drop 1 else line
    let directoryOnly := body.getLast? = some slash
    let pattern := if directoryOnly then body.dropLast else body
    some ⟨pattern, negated, directoryOnly, pattern.contains slash⟩

/-- The rules of an ignore file. -/
def rulesOf (content : Content) : List Rule :=
  let bytes := content.toBytes
  -- A byte order mark is no part of the first line.
  let marked := [0xef, 0xbb, 0xbf]
  let bytes := if marked.isPrefixOf bytes then bytes.drop 3 else bytes
  (byteLines bytes).filterMap Rule.ofLine?

/-- The bytes of a name. -/
def nameBytes (name : String) : List UInt8 :=
  name.toUTF8.toList

/-- The bytes of a path of names. -/
def pathBytes : List String → List UInt8
  | [] => []
  | [name] => nameBytes name
  | name :: later => nameBytes name ++ slash :: pathBytes later

/-- A byte with a meaning in patterns stands in a text. -/
def isSpecial (byte : UInt8) : Bool :=
  byte = byteOf '*' || byte = byteOf '?' || byte = byteOf '[' || byte = byteOf '\\'

/-- A rule speaks of a path that is given from the ignore file's directory. -/
def Rule.covers (rule : Rule) (isDirectory : Bool) (path : List String) : Bool :=
  if rule.directoryOnly && !isDirectory then false
  else if rule.isPath then
    let pattern := if rule.pattern.head? = some slash then rule.pattern.drop 1 else rule.pattern
    let text := pathBytes path
    -- What stands before the first wildcard is compared as it is.
    let literal := pattern.takeWhile (!isSpecial ·)
    if literal.isPrefixOf text then
      let pattern := pattern.drop literal.length
      let text := text.drop literal.length
      if pattern.isEmpty then text.isEmpty
      else matchBytes true (pattern.length + text.length + 1) true pattern text
    else false
  else
    match path.getLast? with
    | none => false
    | some name =>
      let text := nameBytes name
      matchBytes false (rule.pattern.length + text.length + 1) true rule.pattern text

/-- A repository: the directory that holds it. -/
structure Repository where
  root : Location
  deriving Repr, DecidableEq

namespace Repository

/-- A byte is a digit to the base of sixteen. -/
def isHexDigit (byte : UInt8) : Bool :=
  let c := Char.ofNat byte.toNat
  c.isDigit || ('a' ≤ c && c ≤ 'f') || ('A' ≤ c && c ≤ 'F')

/-- An entry tells where a repository stands: at a branch, which it names, or at a commit. -/
def isHead : Entry → Bool
  | .link target => (nameBytes "refs/").isPrefixOf (nameBytes target)
  | .file content _ =>
    let bytes := content.toBytes
    let reference := nameBytes "ref:"
    if reference.isPrefixOf bytes then
      -- Blanks may stand before the name of the branch.
      (nameBytes "refs/").isPrefixOf ((bytes.drop reference.length).dropWhile
        (nameBytes " \t\n\r").contains)
    else 40 ≤ (bytes.takeWhile isHexDigit).length
  | _ => false

/-- A directory holds a repository of its own. -/
def isRootAt (files : FileSystem) (location : Location) : Bool :=
  let own := location ++ [".git"]
  files.entry? own = some .directory && (files.entry? (own ++ ["HEAD"])).any isHead &&
    files.entry? (own ++ ["objects"]) = some .directory &&
    files.entry? (own ++ ["refs"]) = some .directory

/-- The nearest repository that holds a directory, given by the names up to it, nearest first. -/
def above (files : FileSystem) : List String → Option Repository
  | [] => if isRootAt files [] then some ⟨[]⟩ else none
  | name :: outer =>
    let location := (name :: outer).reverse
    if isRootAt files location then some ⟨location⟩ else above files outer

/-- The repository that a directory is in. -/
def find? (files : FileSystem) (directory : String) : Option Repository :=
  match files.find directory with
  | .error _ => none
  | .ok location => above files location.reverse

/-- The rules of the ignore file at a location. -/
def rulesAt (files : FileSystem) (location : Location) : List Rule :=
  match files.entry? location with
  | some (.file content _) => rulesOf content
  | _ => []

/-- The last rule of a list that speaks of a path. -/
def lastCovering (rules : List Rule) (isDirectory : Bool) (path : List String) : Option Rule :=
  rules.reverse.find? fun rule => rule.covers isDirectory path

/-- The rule that decides about a path: of the nearest ignore file that speaks of it. -/
def decisive (repository : Repository) (files : FileSystem) (isDirectory : Bool)
    (path : List String) : Option Rule :=
  -- Nearest ignore file first, seen from the path.
  let depths := (List.range path.length).reverse
  let nearby := depths.findSome? fun depth =>
    let rules := rulesAt files (repository.root ++ path.take depth ++ [".gitignore"])
    lastCovering rules isDirectory (path.drop depth)
  match nearby with
  | some rule => some rule
  | none =>
    let rules := rulesAt files (repository.root ++ [".git", "info", "exclude"])
    lastCovering rules isDirectory path

/-- A path is excluded by itself, or with a directory that it is in. -/
def excludes (repository : Repository) (files : FileSystem) (path : List String) : Bool :=
  let lengths := (List.range path.length).map (· + 1)
  lengths.any fun length =>
    let part := path.take length
    let isDirectory := files.entry? (repository.root ++ part) = some .directory
    match repository.decisive files isDirectory part with
    | some rule => !rule.negated
    | none => false

/-- The names that lead from the repository to a path, none for a path that is not in it. -/
def inside? (repository : Repository) (files : FileSystem) (path : String) :
    Option (List String) :=
  let steps := Stride.ofPath path.toList
  let lexical := steps.foldl (fun location step =>
    match step with
    | .stay => location
    | .up => location.dropLast
    | .down name => location ++ [name]) []
  let names? :=
    if repository.root.isPrefixOf lexical then some (lexical.drop repository.root.length)
    else
      -- A link outside may lead in: then its end stands for the repository itself.
      (List.range lexical.length).findSome? fun length =>
        match files.find (FileSystem.pathOf (lexical.take length)) with
        | .ok location => if location = repository.root then some (lexical.drop length) else none
        | .error _ => none
  match names? with
  | none => none
  | some names =>
    -- A path that goes on through a link in the repository is not a path of it.
    let throughLink := (List.range names.length).any fun length =>
      match files.entry? (repository.root ++ names.take length) with
      | some (.link _) => 0 < length
      | _ => false
    if throughLink then none else some names

/-- The excluded ones of absolute paths; a path that is not in the repository ends the search. -/
def excluded (repository : Repository) (files : FileSystem) : List String → List String
  | [] => []
  | path :: later =>
    match repository.inside? files path with
    | none => []
    | some names =>
      if repository.excludes files names then path :: excluded repository files later
      else excluded repository files later

end Repository

end Ignore

end TemplateLint
