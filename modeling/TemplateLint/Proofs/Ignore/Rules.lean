import TemplateLint.Ignore.Rules
import TemplateLint.Proofs.Files.Appearance

/-! Repositories exclude what they excluded once a file has appeared that is none of their own. -/

namespace TemplateLint

namespace Ignore

/-- The files of a repository that tell what it is and what it excludes. -/
def ownFiles : List String :=
  ["HEAD", ".gitignore", "exclude"]

namespace Repository

variable {name : String} {spot : Location} {files others : FileSystem}

/-- A file of a repository is not the one that has appeared. -/
theorem entry_own (appears : Appears name spot files others) (foreign : name ∉ ownFiles)
    {own : String} (member : own ∈ ownFiles) (location : Location) :
    others.entry? (location ++ [own]) = files.entry? (location ++ [own]) := by
  -- The spot has another name than the file.
  refine appears.entry_elsewhere ?_
  intro same
  have named := appears.named
  rw [← same, List.getLast?_concat] at named
  obtain rfl : own = name := by simpa using named
  exact foreign member

/-- A directory holds a repository of its own exactly when it did. -/
theorem isRootAt_eq (appears : Appears name spot files others) (foreign : name ∉ ownFiles)
    (location : Location) : isRootAt others location = isRootAt files location := by
  have head : "HEAD" ∈ ownFiles := by decide
  simp only [isRootAt, appears.directory_iff, entry_own appears foreign head]

/-- The nearest repository above a directory is the one that it was. -/
theorem above_eq (appears : Appears name spot files others) (foreign : name ∉ ownFiles)
    (directory : List String) : above others directory = above files directory := by
  induction directory with
  | nil => simp only [above, isRootAt_eq appears foreign]
  | cons outer inner ih => simp only [above, isRootAt_eq appears foreign, ih]

/-- A repository above a directory is at its location or nearer to the root. -/
theorem root_of_above {directory : List String} {repository : Repository}
    (found : above files directory = some repository) :
    repository.root <+: directory.reverse := by
  -- The induction goes from the directory up, one name at a time.
  induction directory with
  | nil =>
    simp only [above] at found
    split at found
    · obtain rfl : Repository.mk [] = repository := by simpa using found
      exact List.nil_prefix
    · simp at found
  | cons name outer ih =>
    simp only [above] at found
    split at found
    · obtain rfl : Repository.mk (name :: outer).reverse = repository := by simpa using found
      exact List.prefix_refl _
    · rw [List.reverse_cons]
      exact (ih found).trans (List.prefix_append _ _)

/-- The repository of a directory is the one that it was, and it is not at the spot. -/
theorem find?_eq (appears : Appears name spot files others) (foreign : name ∉ ownFiles)
    {directory : String} {location : Location} (found : files.find directory = .ok location) :
    find? others directory = find? files directory ∧
      ∀ repository, find? files directory = some repository → repository.root ≠ spot := by
  have after := appears.find_iff.mpr (.inl found)
  simp only [find?, found, after]
  refine ⟨above_eq appears foreign location.reverse, ?_⟩
  rintro repository above rfl
  -- On the way to what is reached there are directories, but the spot was free.
  have start := root_of_above above
  rw [List.reverse_reverse] at start
  have reached := FileSystem.locate_reached (FileSystem.find_eq_ok.mp found)
  by_cases same : repository.root = location
  · exact reached.stands (same ▸ appears.free)
  · have directory := reached.below _ start same
    rw [appears.free] at directory
    simp at directory

/-- The rules at a location of a repository's own file are those that they were. -/
theorem rulesAt_own (appears : Appears name spot files others) (foreign : name ∉ ownFiles)
    {own : String} (member : own ∈ ownFiles) (location : Location) :
    rulesAt others (location ++ [own]) = rulesAt files (location ++ [own]) := by
  rw [rulesAt, rulesAt, entry_own appears foreign member]

/-- The rule that decides about a path is the one that it was. -/
theorem decisive_eq (appears : Appears name spot files others) (foreign : name ∉ ownFiles)
    (repository : Repository) (isDirectory : Bool) (path : List String) :
    repository.decisive others isDirectory path = repository.decisive files isDirectory path := by
  -- The file of excludes lies deeper, but has a name of its own too.
  have exclude : rulesAt others (repository.root ++ [".git", "info", "exclude"]) =
      rulesAt files (repository.root ++ [".git", "info", "exclude"]) := by
    have member : "exclude" ∈ ownFiles := by decide
    simpa using rulesAt_own appears foreign member (repository.root ++ [".git", "info"])
  have nearby : ".gitignore" ∈ ownFiles := by decide
  simp only [decisive, exclude, rulesAt_own appears foreign nearby]

/-- A path of names is excluded exactly when it was. -/
theorem excludes_eq (appears : Appears name spot files others) (foreign : name ∉ ownFiles)
    (repository : Repository) (path : List String) :
    repository.excludes others path = repository.excludes files path := by
  simp only [excludes, appears.directory_iff, decisive_eq appears foreign]

/-- The location that the steps of a path spell. -/
def spelled (path : String) : Location :=
  (Stride.ofPath path.toList).foldl (fun location step =>
    match step with
    | .stay => location
    | .up => location.dropLast
    | .down name => location ++ [name]) []

/-- Names, if a path before them leads to a location. -/
def namesBeyond? (files : FileSystem) (root : Location) (path : String) (names : List String) :
    Option (List String) :=
  match files.find path with
  | .ok location => if location = root then some names else none
  | .error _ => none

/-- A link stands at a location, and it counts. -/
def isLinkAt (files : FileSystem) (location : Location) (counts : Bool) : Bool :=
  match files.entry? location with
  | some (.link _) => counts
  | _ => false

/-- The names that lead to a path begin at the repository, and pass through no link. -/
theorem inside?_spelled (repository : Repository) (files : FileSystem) (path : String) :
    repository.inside? files path =
      match
        (if repository.root.isPrefixOf (spelled path) then
          some ((spelled path).drop repository.root.length)
        else
          (List.range (spelled path).length).findSome? fun length =>
            namesBeyond? files repository.root (FileSystem.pathOf ((spelled path).take length))
              ((spelled path).drop length)) with
      | none => none
      | some names =>
        if (List.range names.length).any fun length =>
            isLinkAt files (repository.root ++ names.take length) (0 < length) then none
        else some names :=
  rfl

/-- A path leads to a repository exactly when it did. -/
theorem namesBeyond?_eq (appears : Appears name spot files others) {root : Location}
    (apart : root ≠ spot) (path : String) (names : List String) :
    namesBeyond? others root path names = namesBeyond? files root path names := by
  unfold namesBeyond?
  cases before : files.find path with
  | ok location => rw [appears.find_iff.mpr (.inl before)]
  | error cause =>
    cases after : others.find path with
    | error other => rfl
    | ok location =>
      -- Only the file itself can have become what the path leads to.
      rcases appears.find_iff.mp after with stood | ⟨rfl, _⟩
      · rw [before] at stood
        simp at stood
      · exact if_neg (Ne.symm apart)

/-- A link stands where it stood. -/
theorem isLinkAt_eq (appears : Appears name spot files others) (location : Location)
    (counts : Bool) : isLinkAt others location counts = isLinkAt files location counts := by
  unfold isLinkAt
  -- At the spot stands a file now, and nothing stood there before.
  by_cases same : location = spot
  · subst same
    obtain ⟨content, executable, stands⟩ := appears.entry_spot
    rw [stands, appears.free]
  · rw [appears.entry_elsewhere same]

/-- The names that lead from a repository to a path are those that they were. -/
theorem inside?_eq (appears : Appears name spot files others) {repository : Repository}
    (apart : repository.root ≠ spot) (path : String) :
    repository.inside? others path = repository.inside? files path := by
  simp only [inside?_spelled, namesBeyond?_eq appears apart, isLinkAt_eq appears]

/-- A repository excludes what it excluded. -/
theorem excluded_eq (appears : Appears name spot files others) (foreign : name ∉ ownFiles)
    {repository : Repository} (apart : repository.root ≠ spot) (paths : List String) :
    repository.excluded others paths = repository.excluded files paths := by
  induction paths with
  | nil => rfl
  | cons path later ih =>
    simp only [excluded, inside?_eq appears apart, excludes_eq appears foreign, ih]

end Repository

end Ignore

end TemplateLint
