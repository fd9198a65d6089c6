import Mathlib.Data.List.Basic
import TemplateLint.Glob.Expansion
import TemplateLint.Proofs.Files.Listing
import TemplateLint.Proofs.Glob.Pattern

/-!
Paths that patterns lead to are those they led to, once a file has appeared, as long as only paths
count that do not end in the file's name.
-/

namespace TemplateLint

namespace Glob

variable {files : FileSystem} {directoriesOnly : Bool}

/-- Patterns that each match the names in one directory. -/
def AllNames (patterns : List GlobPattern) : Prop :=
  ∀ pattern ∈ patterns, pattern.IsName

/-- The last of several patterns for any run of directories is one of them. -/
theorem mem_of_lastRecursive {pattern : GlobPattern} {later : List GlobPattern}
    {other : GlobPattern}
    (member : other ∈ (lastRecursive pattern later).1 :: (lastRecursive pattern later).2) :
    other ∈ pattern :: later := by
  -- The induction is on the patterns after the first; runs of recursive ones become one.
  induction later generalizing pattern with
  | nil => exact member
  | cons next more ih =>
    simp only [lastRecursive] at member
    split at member
    · exact List.mem_cons_of_mem _ (ih member)
    · exact member

/-- Pieces of a pattern without a slash are parsed as patterns of names. -/
theorem allNames_of_mapM {names : List (List Char)} {patterns : List GlobPattern}
    (whole : ∀ name ∈ names, '/' ∉ name)
    (read : names.mapM (fun name => GlobPattern.parse (.ofList name)) = .ok patterns) :
    AllNames patterns := by
  induction names generalizing patterns with
  | nil =>
    obtain rfl : [] = patterns := by simpa [pure, Except.pure] using read
    simp [AllNames]
  | cons name later ih =>
    rw [List.mapM_cons] at read
    -- All pieces have to be parsed, the first one and the later ones.
    cases first : GlobPattern.parse (.ofList name) with
    | error fault => simp [first, bind, Except.bind] at read
    | ok own =>
      cases rest : later.mapM fun name => GlobPattern.parse (.ofList name) with
      | error fault => simp [first, rest, bind, Except.bind] at read
      | ok others =>
        obtain rfl : own :: others = patterns := by
          simpa [first, rest, bind, Except.bind, pure, Except.pure] using read
        intro pattern member
        rcases List.mem_cons.mp member with rfl | inside
        · refine GlobPattern.isName_of_parse ?_ first
          rw [String.toList_ofList]
          exact whole name List.mem_cons_self
        · exact ih (fun name place => whole name (List.mem_cons_of_mem _ place)) rest pattern inside

/-- The patterns of the names in a path match names. -/
theorem allNames_of_namePatterns {pattern : List Char} {patterns : List GlobPattern}
    (read : namePatterns pattern = .ok patterns) : AllNames patterns := by
  refine allNames_of_mapM ?_ read
  intro name member
  -- Every piece between slashes is without one, whether or not the last of them counts.
  split at member
  · exact Text.not_mem_of_mem_splitOn (List.dropLast_subset _ member)
  · exact Text.not_mem_of_mem_splitOn member

/-- A path is kept, unless only directories are. -/
def keptPath (files : FileSystem) (directoriesOnly : Bool) (path : String) : List String :=
  if !directoriesOnly || files.isDirectory path then [path] else []

/-- The paths that a candidate leads to when the first of its patterns matches its last name. -/
def reachByName (files : FileSystem) (directoriesOnly : Bool) (steps : Nat) (path : String) :
    List GlobPattern → List String
  | [] => []
  | pattern :: later =>
    match Path.fileName? path with
    | none => []
    | some name =>
      if pattern.accepts (.ofList name) then
        if later.isEmpty then keptPath files directoriesOnly path
        else (candidates files later path).flatMap (reach files directoriesOnly steps)
      else []

/-- A candidate without patterns leads to its own path. -/
theorem reach_nil (files : FileSystem) (directoriesOnly : Bool) (steps : Nat) (path : String) :
    reach files directoriesOnly (steps + 1) ⟨path, []⟩ = keptPath files directoriesOnly path :=
  rfl

/-- A candidate leads on by its last name, or by all that is in its directory. -/
theorem reach_cons (files : FileSystem) (directoriesOnly : Bool) (steps : Nat) (path : String)
    (pattern : GlobPattern) (later : List GlobPattern) :
    reach files directoriesOnly (steps + 1) ⟨path, pattern :: later⟩ =
      if pattern.isRecursive then
        if files.isDirectory path then
          (if (lastRecursive pattern later).2.isEmpty then [path]
            else reachByName files directoriesOnly steps path (lastRecursive pattern later).2) ++
          (candidates files ((lastRecursive pattern later).1 :: (lastRecursive pattern later).2)
            path).flatMap (reach files directoriesOnly steps)
        else reachByName files directoriesOnly steps path (lastRecursive pattern later).2
      else reachByName files directoriesOnly steps path (pattern :: later) := by
  -- The definition names what it does with the rest; here that is a function of its own.
  have naming : ∀ patterns, reachByName files directoriesOnly steps path patterns =
      match patterns with
      | [] => []
      | pattern :: later =>
        match Path.fileName? path with
        | none => []
        | some name =>
          if pattern.accepts (.ofList name) then
            if later.isEmpty then keptPath files directoriesOnly path
            else (candidates files later path).flatMap (reach files directoriesOnly steps)
          else [] := by
    intro patterns
    cases patterns <;> rfl
  rw [reach]
  simp only [naming]
  rfl

/-- A name without wildcards leads to something. -/
def reachable (files : FileSystem) (path name : String) : Bool :=
  if name = "." ∨ name = ".." then files.isDirectory path
  else files.holds (Path.join path name) || files.names (Path.join path name)

/-- The candidates that a path is or leads to under the patterns still ahead. -/
def proceed (files : FileSystem) (later : List GlobPattern) (path : String) : List Candidate :=
  if later.isEmpty then [⟨path, []⟩] else candidates files later path

/-- A name without wildcards is gone along if it leads to something. -/
theorem candidates_of_literal {pattern : GlobPattern} {name : String}
    (literal : pattern.literal? = some name) (files : FileSystem) (later : List GlobPattern)
    (path : String) :
    candidates files (pattern :: later) path =
      if reachable files path name then proceed files later (Path.join path name) else [] := by
  rw [candidates]
  simp only [literal]
  rfl

/-- The candidates that the names of points lead to. -/
def pointed (files : FileSystem) (pattern : GlobPattern) (later : List GlobPattern)
    (path : String) : List Candidate :=
  if pattern.beginsWithPoint then
    ["..", "."].flatMap fun name =>
      if pattern.accepts name then proceed files later (Path.join path name) else []
  else []

/-- A pattern with wildcards is held against all that is in a directory. -/
theorem candidates_of_wildcards {pattern : GlobPattern} (wild : pattern.literal? = none)
    (files : FileSystem) (later : List GlobPattern) (path : String) :
    candidates files (pattern :: later) path =
      match files.find path with
      | .error _ => []
      | .ok location =>
        if files.entry? location = some .directory then
          pointed files pattern later path ++ (files.listing location).map fun name =>
            ⟨Path.join path name, pattern :: later⟩
        else [] := by
  rw [candidates]
  simp only [wild]
  rfl

/-- A name without wildcards leads nowhere from what is no directory. -/
theorem candidates_of_not_directory {patterns : List GlobPattern} (names : AllNames patterns)
    {path : String} (start : path.toList ≠ [])
    (noDirectory : files.isDirectory path = false) : candidates files patterns path = [] := by
  cases patterns with
  | nil => rfl
  | cons pattern later =>
    -- Whatever is found below the path would make the path a directory.
    have within : ∀ {name followLast location}, '/' ∉ name.toList →
        files.locate (Path.join path name) followLast ≠ .ok (.present location) := by
      intro name followLast location whole found
      have directory := FileSystem.isDirectory_of_join start whole found
      rw [noDirectory] at directory
      simp at directory
    cases literal : pattern.literal? with
    | some name =>
      have whole := names pattern List.mem_cons_self name literal
      rw [candidates_of_literal literal, if_neg]
      unfold reachable
      split
      · simp [noDirectory]
      · rw [Bool.or_eq_true, FileSystem.holds_iff, FileSystem.names_iff]
        rintro (⟨location, found⟩ | ⟨location, found⟩)
        · exact within whole found
        · exact within whole found
    | none =>
      -- A pattern with wildcards asks for the names that are listed, and there are none.
      rw [candidates_of_wildcards literal]
      split
      · rfl
      · rename_i location found
        refine if_neg ?_
        intro stands
        have directory : files.follow? path = some .directory :=
          FileSystem.follow?_eq_some.mpr ⟨location, FileSystem.find_eq_ok.mp found, stands⟩
        simp [FileSystem.isDirectory, directory] at noDirectory

/-- What is no directory leads to itself at most. -/
theorem reach_of_not_directory {pending : List GlobPattern} (names : AllNames pending)
    {path : String} (start : path.toList ≠ [])
    (noDirectory : files.isDirectory path = false) (steps : Nat) {found : String}
    (member : found ∈ reach files directoriesOnly steps ⟨path, pending⟩) : found = path := by
  have own : found ∈ keptPath files directoriesOnly path → found = path := by
    intro kept
    unfold keptPath at kept
    split at kept
    · exact List.mem_singleton.mp kept
    · simp at kept
  -- By its last name the path itself is found, and nothing below it.
  have byName : ∀ {steps patterns}, AllNames patterns →
      found ∈ reachByName files directoriesOnly steps path patterns → found = path := by
    intro steps patterns names inside
    cases patterns with
    | nil => simp [reachByName] at inside
    | cons pattern later =>
      -- To go down takes a directory, so only the last name of the path is left.
      have further : AllNames later := fun other place => names other (List.mem_cons_of_mem _ place)
      simp only [reachByName, candidates_of_not_directory further start noDirectory,
        List.flatMap_nil] at inside
      split at inside
      · simp at inside
      · split at inside
        · split at inside
          · exact own inside
          · simp at inside
        · simp at inside
  cases steps with
  | zero => simp [reach] at member
  | succ steps =>
    cases pending with
    | nil => exact own member
    | cons pattern later =>
      rw [reach_cons, noDirectory] at member
      simp only [Bool.false_eq_true, if_false] at member
      split at member
      · refine byName ?_ member
        intro other place
        exact names other (mem_of_lastRecursive (List.mem_cons_of_mem _ place))
      · exact byName names member

/-- A file has appeared, and paths that end in its name do not count. -/
structure Unnoticed (name : String) (keep : String → Bool) (spot : Location)
    (files others : FileSystem) : Prop where
  appears : Appears name spot files others
  named : name.toList ≠ []
  whole : '/' ∉ name.toList
  proper : Path.lastStride name = .down name
  dropped : ∀ path : String, name.toList <:+ path.toList → keep path = false

namespace Unnoticed

variable {name : String} {keep : String → Bool} {spot : Location} {others : FileSystem}

/-- A path that ends in the name is not empty. -/
theorem start (unnoticed : Unnoticed name keep spot files others) {path : String}
    (suffix : name.toList <:+ path.toList) : path.toList ≠ [] := by
  intro empty
  rw [empty, List.suffix_nil] at suffix
  exact unnoticed.named suffix

/-- No path that counts is reached from one that ends in the name and was no directory. -/
theorem reach_eq_nil (unnoticed : Unnoticed name keep spot files others) {path : String}
    (suffix : name.toList <:+ path.toList) (noDirectory : files.isDirectory path = false)
    {pending : List GlobPattern} (names : AllNames pending) (steps : Nat) :
    (reach files directoriesOnly steps ⟨path, pending⟩).filter keep = [] := by
  have start := unnoticed.start suffix
  refine List.filter_eq_nil_iff.mpr ?_
  intro found member
  -- All that is reached is the path itself, and that does not count.
  rw [reach_of_not_directory names start noDirectory steps member,
    unnoticed.dropped path suffix]
  simp

/-- A name without wildcards leads to something as before, unless it is the file's. -/
theorem reachable_cases (unnoticed : Unnoticed name keep spot files others) (path own : String) :
    reachable others path own = reachable files path own ∨
      reachable others path own = true ∧ reachable files path own = false ∧
        files.locate (Path.join path own) true = .ok (.vacant spot false) := by
  unfold reachable
  split
  · exact .inl (unnoticed.appears.isDirectory_eq path)
  · have iff := unnoticed.appears.holds_or_names (Path.join path own)
    -- What was there is there; what was not can only be the file that has appeared.
    cases before : files.holds (Path.join path own) || files.names (Path.join path own) with
    | true => exact .inl (iff.mpr (.inl before))
    | false =>
      cases after : others.holds (Path.join path own) || others.names (Path.join path own) with
      | false => exact .inl rfl
      | true => exact .inr ⟨rfl, rfl, (iff.mp after).resolve_left (by simp [before])⟩

/-- The names of points lead to the same paths that count if all that they go on to does. -/
theorem pointed_eq {steps : Nat} {later : List GlobPattern}
    (onward : ∀ {next : String}, next.toList ≠ [] →
      ((proceed others later next).flatMap (reach others directoriesOnly steps)).filter keep =
        ((proceed files later next).flatMap (reach files directoriesOnly steps)).filter keep)
    {path : String} (start : path.toList ≠ []) (pattern : GlobPattern) :
    ((pointed others pattern later path).flatMap (reach others directoriesOnly steps)).filter
        keep =
      ((pointed files pattern later path).flatMap (reach files directoriesOnly steps)).filter
        keep := by
  unfold pointed
  -- Points are tried only by patterns that open with one.
  split
  · rw [List.flatMap_assoc, List.flatMap_assoc, List.filter_flatMap, List.filter_flatMap]
    refine List.flatMap_congr ?_
    intro name _
    split
    · exact onward (Path.join_ne_nil start _)
    · rfl
  · rfl

/-- What a directory lists leads to the same paths that count if each name alone does. -/
theorem listed_eq (unnoticed : Unnoticed name keep spot files others) {steps : Nat}
    (alike : ∀ candidate, candidate.path.toList ≠ [] → AllNames candidate.pending →
      (reach others directoriesOnly steps candidate).filter keep =
        (reach files directoriesOnly steps candidate).filter keep)
    {pending : List GlobPattern} (names : AllNames pending) {path : String}
    (start : path.toList ≠ []) {location : Location} (found : files.find path = .ok location) :
    (((others.listing location).map fun name => ⟨Path.join path name, pending⟩).flatMap
        (reach others directoriesOnly steps)).filter keep =
      (((files.listing location).map fun name => ⟨Path.join path name, pending⟩).flatMap
        (reach files directoriesOnly steps)).filter keep := by
  have each : ∀ listing : List String,
      ((listing.map fun name => Candidate.mk (Path.join path name) pending).flatMap
          (reach others directoriesOnly steps)).filter keep =
        ((listing.map fun name => Candidate.mk (Path.join path name) pending).flatMap
          (reach files directoriesOnly steps)).filter keep := by
    intro listing
    rw [List.filter_flatMap, List.filter_flatMap]
    refine List.flatMap_congr ?_
    intro candidate member
    obtain ⟨own, _, rfl⟩ := List.mem_map.mp member
    exact alike _ (Path.join_ne_nil start own) names
  -- What each listed name leads to is the same, so only the listings may differ.
  rw [each]
  by_cases beside : location = spot.dropLast
  · -- The one name more that is listed led to nothing before.
    subst beside
    have noDirectory : files.isDirectory (Path.join path name) = false := by
      rw [Bool.eq_false_iff]
      intro directory
      obtain ⟨place, there, _⟩ := FileSystem.follow?_eq_some.mp (beq_iff_eq.mp directory)
      refine FileSystem.stands_of_join start unnoticed.whole unnoticed.proper found there ?_
      rw [← unnoticed.appears.spot_eq, unnoticed.appears.free]
    have nothing : (reach files directoriesOnly steps ⟨Path.join path name, pending⟩).filter
        keep = [] :=
      unnoticed.reach_eq_nil (Path.suffix_join path name) noDirectory names steps
    rw [← unnoticed.appears.listing_beside]
    generalize others.listing spot.dropLast = listing
    induction listing with
    | nil => rfl
    | cons own later ih =>
      by_cases same : own = name
      · subst same
        rw [List.filter_cons_of_neg (by simp), ← ih, List.map_cons, List.flatMap_cons,
          List.filter_append, nothing, List.nil_append]
      · rw [List.filter_cons_of_pos (by simpa using same), List.map_cons, List.map_cons,
          List.flatMap_cons, List.flatMap_cons, List.filter_append, List.filter_append, ih]
  · rw [unnoticed.appears.listing_elsewhere beside]

/-- Candidates lead to the same paths that count if each of them alone does. -/
theorem candidates_eq (unnoticed : Unnoticed name keep spot files others) {steps : Nat}
    (alike : ∀ candidate, candidate.path.toList ≠ [] → AllNames candidate.pending →
      (reach others directoriesOnly steps candidate).filter keep =
        (reach files directoriesOnly steps candidate).filter keep)
    {patterns : List GlobPattern} (names : AllNames patterns) {path : String}
    (start : path.toList ≠ []) :
    ((candidates others patterns path).flatMap (reach others directoriesOnly steps)).filter keep =
      ((candidates files patterns path).flatMap (reach files directoriesOnly steps)).filter
        keep := by
  have appears := unnoticed.appears
  induction patterns generalizing path with
  | nil => rfl
  | cons pattern later ih =>
    have further : AllNames later := fun other place => names other (List.mem_cons_of_mem _ place)
    have onward : ∀ {next : String}, next.toList ≠ [] →
        ((proceed others later next).flatMap (reach others directoriesOnly steps)).filter keep =
          ((proceed files later next).flatMap (reach files directoriesOnly steps)).filter keep := by
      intro next start
      unfold proceed
      split
      · simp only [List.flatMap_cons, List.flatMap_nil, List.append_nil]
        exact alike ⟨next, []⟩ start (by simp [AllNames])
      · exact ih further start
    cases literal : pattern.literal? with
    | some own =>
      have next := Path.join_ne_nil start own
      rw [candidates_of_literal literal, candidates_of_literal literal]
      rcases unnoticed.reachable_cases path own with same | ⟨now, before, free⟩
      · rw [same]
        split
        · exact onward next
        · rfl
      · -- The name was free before, so it is the file's, and nothing that counts lies behind it.
        have suffix := appears.alone _ free
        have noDirectory := FileSystem.isDirectory_of_vacant free
        rw [if_pos now, if_neg (by simp [before]), onward next]
        unfold proceed
        split
        · simpa using unnoticed.reach_eq_nil suffix noDirectory (by simp [AllNames]) steps
        · have start := unnoticed.start suffix
          rw [candidates_of_not_directory further start noDirectory]
    | none =>
      rw [candidates_of_wildcards literal, candidates_of_wildcards literal]
      cases before : files.find path with
      | error cause =>
        cases after : others.find path with
        | error other => rfl
        | ok location =>
          -- Only the file itself can have become what the path leads to.
          rcases appears.find_iff.mp after with stood | ⟨rfl, _⟩
          · rw [before] at stood
            simp at stood
          · obtain ⟨content, executable, stands⟩ := appears.entry_spot
            simp [stands]
      | ok location =>
        rw [appears.find_iff.mpr (.inl before)]
        simp only [appears.directory_iff]
        split
        · rw [List.flatMap_append, List.flatMap_append, List.filter_append, List.filter_append,
            pointed_eq onward start, unnoticed.listed_eq alike names start before]
        · rfl

/-- A candidate leads to the paths that count as before. -/
theorem reach_eq (unnoticed : Unnoticed name keep spot files others) (steps : Nat)
    (candidate : Candidate) (start : candidate.path.toList ≠ [])
    (names : AllNames candidate.pending) :
    (reach others directoriesOnly steps candidate).filter keep =
      (reach files directoriesOnly steps candidate).filter keep := by
  -- Directories are the same, and each step down leads to candidates with fewer steps to go.
  have appears := unnoticed.appears
  induction steps generalizing candidate with
  | zero => rfl
  | succ steps ih =>
    obtain ⟨path, pending⟩ := candidate
    have kept : keptPath others directoriesOnly path = keptPath files directoriesOnly path := by
      rw [keptPath, keptPath, appears.isDirectory_eq]
    -- The last names of a path are looked up without going down.
    have byName : ∀ {patterns}, AllNames patterns →
        (reachByName others directoriesOnly steps path patterns).filter keep =
          (reachByName files directoriesOnly steps path patterns).filter keep := by
      intro patterns names
      cases patterns with
      | nil => rfl
      | cons pattern later =>
        simp only [reachByName, kept]
        split
        · rfl
        · split
          · split
            · rfl
            · exact unnoticed.candidates_eq ih
                (fun other place => names other (List.mem_cons_of_mem _ place)) start
          · rfl
    cases pending with
    | nil => rw [reach_nil, reach_nil, kept]
    | cons pattern later =>
      have last : AllNames ((lastRecursive pattern later).1 :: (lastRecursive pattern later).2) :=
        fun other place => names other (mem_of_lastRecursive place)
      have after : AllNames (lastRecursive pattern later).2 :=
        fun other place => last other (List.mem_cons_of_mem _ place)
      rw [reach_cons, reach_cons, appears.isDirectory_eq]
      -- A directory is entered if the pattern stands for any, and otherwise it has to be named.
      split
      · split
        · rw [List.filter_append, List.filter_append, unnoticed.candidates_eq ih last start]
          congr 1
          split
          · rfl
          · exact byName after
        · exact byName after
      · exact byName names

/-- A pattern leads to the paths that count as before, or is as faulty as before. -/
theorem paths_eq (unnoticed : Unnoticed name keep spot files others) (pattern : String) :
    (paths others pattern).map (List.filter keep) =
      (paths files pattern).map (List.filter keep) := by
  unfold paths
  split
  · rfl
  · split
    · rfl
    · rename_i patterns read
      -- Patterns between slashes are patterns of names.
      have names := allNames_of_namePatterns read
      refine congrArg Except.ok ?_
      exact unnoticed.candidates_eq (fun candidate => unnoticed.reach_eq _ candidate) names
        (by decide)

end Unnoticed

end Glob

end TemplateLint
