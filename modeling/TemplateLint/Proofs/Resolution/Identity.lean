import TemplateLint.Proofs.Files.Detour
import TemplateLint.Proofs.Resolution.Exclusion
import TemplateLint.Proofs.Run

/-!
The identifiers of the files to lint name these files: what is loaded by an identifier is the file
that a pattern found, and a fix is put into it.
-/

namespace TemplateLint

namespace Glob

variable {files : FileSystem} {directoriesOnly : Bool}

/-- What is joined to a path from the root is one. -/
theorem isAbsolute_join {base : String} (absolute : Path.isAbsolute base = true) (name : String) :
    Path.isAbsolute (Path.join base name) = true := by
  have start : base.toList.head? = some '/' := by simpa [Path.isAbsolute] using absolute
  -- A name is joined behind the base, with or without a slash, or stands alone if it is a path from
  -- the root itself.
  unfold Path.join
  split
  · rename_i alone
    rcases Bool.or_eq_true_iff.mp alone with own | empty
    · exact own
    · simp [String.isEmpty_iff.mp empty] at start
  · split
    · simp [Path.isAbsolute, List.head?_append, start]
    · simp [Path.isAbsolute, List.head?_append, start]

/-- The candidates below a path from the root are paths from the root. -/
theorem isAbsolute_candidates {patterns : List GlobPattern} {path : String}
    (absolute : Path.isAbsolute path = true) :
    ∀ candidate ∈ candidates files patterns path, Path.isAbsolute candidate.path = true := by
  -- The induction is on the patterns; each of them joins names to the path, which keeps its start.
  induction patterns generalizing path with
  | nil => simp [candidates]
  | cons pattern later ih =>
    have onward {next : String} (rooted : Path.isAbsolute next = true) :
        ∀ candidate ∈ proceed files later next, Path.isAbsolute candidate.path = true := by
      unfold proceed
      split
      · simpa using rooted
      · exact ih rooted
    intro candidate member
    -- A name without wildcards is gone along, and others are looked up in the directory.
    cases literal : pattern.literal? with
    | some name =>
      rw [candidates_of_literal literal] at member
      split at member
      · exact onward (isAbsolute_join absolute name) candidate member
      · simp at member
    | none =>
      rw [candidates_of_wildcards literal] at member
      split at member
      · simp at member
      · -- Points stand for the directory and the one above, all other names are those in it.
        split at member
        · rcases List.mem_append.mp member with point | listed
          · unfold pointed at point
            split at point
            · obtain ⟨name, _, inside⟩ := List.mem_flatMap.mp point
              split at inside
              · exact onward (isAbsolute_join absolute name) candidate inside
              · simp at inside
            · simp at point
          · obtain ⟨name, _, rfl⟩ := List.mem_map.mp listed
            exact isAbsolute_join absolute name
        · simp at member

/-- What a candidate from the root leads to are paths from the root. -/
theorem isAbsolute_reach {steps : Nat} {candidate : Candidate}
    (absolute : Path.isAbsolute candidate.path = true) :
    ∀ path ∈ reach files directoriesOnly steps candidate, Path.isAbsolute path = true := by
  -- The induction is on the steps of the search; every step goes on from candidates, whose paths
  -- start at the root by the lemma before.
  induction steps generalizing candidate with
  | zero => simp [reach]
  | succ steps ih =>
    obtain ⟨path, pending⟩ := candidate
    have kept : ∀ found ∈ keptPath files directoriesOnly path, Path.isAbsolute found = true := by
      unfold keptPath
      split
      · simpa using absolute
      · simp
    have below (patterns : List GlobPattern) :
        ∀ found ∈ (candidates files patterns path).flatMap (reach files directoriesOnly steps),
          Path.isAbsolute found = true := by
      intro found member
      obtain ⟨next, inside, reached⟩ := List.mem_flatMap.mp member
      exact ih (isAbsolute_candidates absolute next inside) found reached
    have named (patterns : List GlobPattern) :
        ∀ found ∈ reachByName files directoriesOnly steps path patterns,
          Path.isAbsolute found = true := by
      cases patterns with
      | nil => simp [reachByName]
      | cons pattern later =>
        simp only [reachByName]
        split
        · simp
        · split
          · split
            · exact kept
            · exact below later
          · simp
    -- A run of directories may end here or go on below, and any other pattern leads on by its name.
    cases pending with
    | nil => exact kept
    | cons pattern later =>
      rw [reach_cons]
      split
      · split
        · intro found member
          rcases List.mem_append.mp member with here | beneath
          · split at here
            · simpa [List.mem_singleton.mp here] using absolute
            · exact named _ found here
          · exact below _ found beneath
        · exact named _
      · exact named _

/-- A pattern matches paths from the root. -/
theorem isAbsolute_of_paths {pattern : String} {found : List String}
    (matched : paths files pattern = .ok found) : ∀ path ∈ found, Path.isAbsolute path = true := by
  unfold paths at matched
  split at matched
  · simp at matched
  · split at matched
    · simp at matched
    · obtain rfl := Except.ok.inj matched
      intro path member
      obtain ⟨candidate, inside, reached⟩ := List.mem_flatMap.mp member
      -- The search sets out from the root itself.
      exact isAbsolute_reach (isAbsolute_candidates (by decide) candidate inside) path reached

end Glob

namespace Resolution

variable {files : FileSystem} {workingDir : String} {ignored : List GlobPattern}
  {repository : Option Ignore.Repository}

/-- Patterns match paths from the root. -/
theorem isAbsolute_of_allPaths {patterns found : List String}
    (matched : allPaths files patterns = .ok found) :
    ∀ path ∈ found, Path.isAbsolute path = true := by
  induction patterns generalizing found with
  | nil =>
    obtain rfl : [] = found := Except.ok.inj matched
    simp
  | cons pattern later ih =>
    -- Every pattern has to be matched for any path to be found.
    simp only [allPaths] at matched
    split at matched
    · simp at matched
    · rename_i first one
      split at matched
      · simp at matched
      · rename_i more rest
        obtain rfl := Except.ok.inj matched
        intro path member
        rcases List.mem_append.mp member with here | there
        · exact Glob.isAbsolute_of_paths one path here
        · exact ih rest path there

/-- What the globs of a pattern match are paths from the root. -/
theorem isAbsolute_of_found {pattern : String} {paths : List (List String)}
    (matched : found files workingDir pattern = .ok paths) :
    ∀ path ∈ paths.flatten, Path.isAbsolute path = true := by
  refine @isAbsolute_of_allPaths files (alternatives files workingDir pattern) _ ?_
  -- All paths of the alternatives are those of each, one after another.
  have all := matched
  unfold found at all
  rw [allPaths_eq_mapM, all]

/-- The first template of an identifier is one of the files that were matched. -/
theorem of_mem_firstTemplates {paths : List String} {entry : String × String}
    (member : entry ∈ firstTemplates files workingDir ignored paths) :
    entry.2 ∈ paths ∧ files.isFile entry.2 = true ∧ entry.1 = identifier workingDir entry.2 := by
  -- What is kept was added by the fold, so it is one of the entries that went into it.
  rw [← select_eq_firstTemplates] at member
  rcases mem_keepFirst _ _ member with none | inside
  · simp at none
  · obtain ⟨path, kept, rfl⟩ := List.mem_map.mp (List.mem_filter.mp inside).1
    obtain ⟨matched, suits⟩ := List.mem_filter.mp kept
    exact ⟨matched, (Bool.and_eq_true_iff.mp suits).1, rfl⟩

/-- What a pattern adds is its own path, or the identifier of a template that it matches. -/
theorem mem_contribution {pattern name : String}
    (member : name ∈ contribution files workingDir ignored repository pattern) :
    (isLiteral files workingDir pattern = true ∧ name = pattern) ∨
      ∃ paths path, found files workingDir pattern = .ok paths ∧
        (name, path) ∈ firstTemplates files workingDir ignored paths.flatten := by
  unfold contribution at member
  split at member
  · rename_i literal
    split at member
    · simp at member
    · exact .inl ⟨literal, by simpa using member⟩
  · split at member
    -- What is kept of the matches comes from the first template of each name.
    · rename_i paths matched
      obtain ⟨⟨own, path⟩, kept, rfl⟩ := List.mem_map.mp member
      exact .inr ⟨paths, path, matched, (List.mem_filter.mp kept).1⟩
    · simp at member

/-- A path without backslashes goes by what it is as seen from the working directory. -/
theorem identifier_of_no_backslash {path seen : String}
    (relative : Path.relativeTo? workingDir path = some seen) (plain : '\\' ∉ seen.toList) :
    identifier workingDir path = seen := by
  -- Turning backslashes changes nothing where there are none.
  have kept : seen.toList.map (fun c => if c = '\\' then '/' else c) = seen.toList := by
    refine (List.map_congr_left fun c member => ?_).trans (List.map_id _)
    have other : c ≠ '\\' := by
      rintro rfl
      exact plain member
    rw [if_neg other]
    rfl
  rw [identifier, relative, Option.getD_some, kept, String.ofList_toList]

end Resolution

open Effect Resolution

variable {files : FileSystem} {workingDir : String}

/--
From the working directory a name leads to the file at a location. Loading it never misses the file
nor reads another one, and a fix of it is put into the file.
-/
structure NamesFile (files : FileSystem) (workingDir name : String) (location : Location)
    (content : Content) (executable : Bool) : Prop where
  stands : files.entry? location = some (.file content executable)
  leads : files.find (Path.join workingDir name) = .ok location
  loads : ∀ (stdinFilename : Option String) (session : Session (Option (List Todo))),
    session.files = files → ∀ text, content.text? = some text →
      perform (Run.load workingDir stdinFilename (.path name)) session =
        (.ok ⟨text, name⟩, session)
  noOther : ∀ (stdinFilename : Option String) (session : Session (Option (List Todo))),
    session.files = files → ∀ template left,
      perform (Run.load workingDir stdinFilename (.path name)) session = (.ok template, left) →
        template.filePath = name ∧ content.text? = some template.source
  neverMissing : ∀ (stdinFilename : Option String) (session : Session (Option (List Todo))),
    session.files = files → ∀ left,
      perform (Run.load workingDir stdinFilename (.path name)) session ≠
        (.error (.unreadable (Path.join workingDir name) .notFound), left)
  fixes : ∀ (source output : String) (session : Session (Option (List Todo))),
    session.files = files →
    perform (Run.writeBack workingDir ⟨source, name⟩ output) session =
      (.ok (), { session with files := files.put location (.file (.text output) executable) })

/-- A path that leads to a file is loaded as the file's text, if its content is one. -/
theorem load_of_find {name : String} {location : Location} {content : Content}
    {executable : Bool} (stands : files.entry? location = some (.file content executable))
    (leads : files.find (Path.join workingDir name) = .ok location)
    (stdinFilename : Option String) {session : Session (Option (List Todo))}
    (same : session.files = files) :
    perform (Run.load workingDir stdinFilename (.path name)) session =
      (match content.text? with
        | some text => .ok ⟨text, name⟩
        | none => .error (.unreadable (Path.join workingDir name) .notText), session) := by
  -- The path is looked up once, and what stands where it leads is what is read.
  simp only [Run.load, perform_bind, perform_get, same, FileSystem.readText, FileSystem.read,
    leads, stands]
  cases content.text? <;> simp

/-- A name that leads to a file names it. -/
theorem NamesFile.of_find {name : String} {location : Location} {content : Content}
    {executable : Bool} (stands : files.entry? location = some (.file content executable))
    (leads : files.find (Path.join workingDir name) = .ok location) :
    NamesFile files workingDir name location content executable where
  stands
  leads
  loads stdinFilename session same text whole := by
    rw [load_of_find stands leads stdinFilename same, whole]
  noOther stdinFilename session same template left done := by
    rw [load_of_find stands leads stdinFilename same] at done
    -- Only a text is loaded, and it is that of the file.
    cases whole : content.text? with
    | none => simp [whole] at done
    | some text =>
      rw [whole] at done
      obtain rfl := Except.ok.inj (Prod.mk.inj done).1
      exact ⟨rfl, rfl⟩
  neverMissing stdinFilename session same left failed := by
    rw [load_of_find stands leads stdinFilename same] at failed
    -- A load that fails does so with another cause.
    cases whole : content.text? <;> simp [whole] at failed
  fixes source output session same := by
    -- Where a file stands, the text is put in its place and the right to run it stays.
    have located := FileSystem.find_eq_ok.mp leads
    have written : files.write (Path.join workingDir name) output =
        .ok (files.put location (.file (.text output) executable)) := by
      simp only [FileSystem.write, FileSystem.change, located, stands]
    simp only [Run.writeBack, perform_bind, perform_get, same, written]
    rfl

/-- A path that is one of a file leads to a place where a file stands. -/
theorem exists_file {path : String} (file : files.isFile path = true) :
    ∃ location content executable, files.find path = .ok location ∧
      files.entry? location = some (.file content executable) := by
  unfold FileSystem.isFile at file
  split at file
  · rename_i content executable stands
    obtain ⟨location, located, entry⟩ := FileSystem.follow?_eq_some.mp stands
    exact ⟨location, content, executable, FileSystem.find_eq_ok.mpr located, entry⟩
  · simp at file

/-- What is resolved is resolved with patterns of files to leave out that can be read. -/
theorem compile_of_resolve {patterns : List String} {ignore : IgnoreSpec} {set : FileSet}
    (names : ¬asksForStdin patterns = true)
    (resolved : resolve files workingDir patterns ignore = .ok set) :
    ∃ ignored, ignore.compile = .ok ignored := by
  unfold resolve at resolved
  rw [if_neg names] at resolved
  split at resolved
  · simp at resolved
  · rename_i ignored compiled
    exact ⟨ignored, compiled⟩

/--
Every identifier of the files to lint is a path that names a file as it stands, or comes from the
first file with this identifier among those that the globs of a pattern match. That very file it
names, unless a backslash was turned in it or the path that it makes with the working directory is
too long.
-/
theorem resolve_names_files {patterns : List String} {ignore : IgnoreSpec} {set : FileSet}
    (canonical : files.canonical workingDir = .ok workingDir)
    (directory : files.isDirectory workingDir = true) (names : ¬asksForStdin patterns = true)
    (resolved : resolve files workingDir patterns ignore = .ok set) :
    ∃ ignored, ignore.compile = .ok ignored ∧
      ∀ name ∈ set.identifiers, ∃ pattern ∈ patterns, ∃ location content executable,
        (isLiteral files workingDir pattern = true ∧ name = pattern ∧
          NamesFile files workingDir name location content executable) ∨
        ∃ paths path seen, found files workingDir pattern = .ok paths ∧ path ∈ paths.flatten ∧
          (name, path) ∈ firstTemplates files workingDir ignored paths.flatten ∧
          files.find path = .ok location ∧
          files.entry? location = some (.file content executable) ∧
          Path.relativeTo? workingDir path = some seen ∧
          ('\\' ∉ seen.toList →
            (Path.join workingDir seen).utf8ByteSize ≤ FileSystem.longestPath →
            name = seen ∧ NamesFile files workingDir name location content executable) := by
  obtain ⟨ignored, compiled⟩ := compile_of_resolve names resolved
  refine ⟨ignored, compiled, fun name member => ?_⟩
  -- An identifier is there because some pattern adds it.
  have added := ((resolve_eq_ok names compiled).mp ⟨set, resolved, rfl⟩).2
  rw [← added, List.mem_eraseDups, List.mem_flatMap] at member
  obtain ⟨pattern, given, inside⟩ := member
  refine ⟨pattern, given, ?_⟩
  rcases mem_contribution inside with ⟨literal, rfl⟩ | ⟨paths, path, matched, first⟩
  · obtain ⟨location, content, executable, leads, stands⟩ :=
      exists_file (Bool.and_eq_true_iff.mp literal).2
    exact ⟨location, content, executable, .inl ⟨literal, rfl, .of_find stands leads⟩⟩
  · obtain ⟨among, file, own⟩ := of_mem_firstTemplates first
    obtain ⟨location, content, executable, leads, stands⟩ := exists_file file
    -- The path as seen from the working directory leads back to where the path leads.
    obtain ⟨seen, relative, back⟩ := FileSystem.find_seen canonical directory
      (isAbsolute_of_found matched path among) leads (by simp [stands])
    refine ⟨location, content, executable, .inr ⟨paths, path, seen, matched, among, first, leads,
      stands, relative, fun plain short => ?_⟩⟩
    obtain rfl : name = seen := own.trans (identifier_of_no_backslash relative plain)
    exact ⟨rfl, .of_find stands (back short)⟩

/-- A project of two directories, in one of which the other is reached through a link as well. -/
def neighbouringDisk : FileSystem :=
  ⟨[(["p"], .directory), (["p", "app"], .directory), (["p", "lib"], .directory),
    (["p", "app", "near"], .link "../lib"), (["p", "lib", "a.hbs"], .file (.text "x") false)]⟩

/-- A template that is matched through a link is linted where it was matched. -/
theorem resolve_names_files_sample :
    neighbouringDisk.canonical "/p/app" = .ok "/p/app" ∧
    neighbouringDisk.isDirectory "/p/app" = true ∧ ¬asksForStdin ["near/../lib/*.hbs"] = true ∧
    ∃ set, resolve neighbouringDisk "/p/app" ["near/../lib/*.hbs"] .defaults = .ok set ∧
      set.identifiers = ["near/../lib/a.hbs"] ∧
      NamesFile neighbouringDisk "/p/app" "near/../lib/a.hbs" ["p", "lib", "a.hbs"] (.text "x")
        false := by
  have canonical : neighbouringDisk.canonical "/p/app" = .ok "/p/app" := by decide +kernel
  have directory : neighbouringDisk.isDirectory "/p/app" = true := by decide +kernel
  have names : ¬asksForStdin ["near/../lib/*.hbs"] = true := by decide
  -- What the pattern matches and what is resolved are computed; the rest follows from the theorem.
  have matched : (found neighbouringDisk "/p/app" "near/../lib/*.hbs").toOption =
      some [["/p/app/near/../lib/a.hbs"]] := by
    decide +kernel
  have answers : (resolve neighbouringDisk "/p/app" ["near/../lib/*.hbs"] .defaults).toOption.map
      FileSet.identifiers = some ["near/../lib/a.hbs"] := by
    decide +kernel
  refine ⟨canonical, directory, names, ?_⟩
  obtain ⟨set, resolved, identifiers⟩ := Effect.exists_of_toOption_map answers
  refine ⟨set, resolved, identifiers, ?_⟩
  obtain ⟨ignored, _, named⟩ := resolve_names_files canonical directory names resolved
  obtain ⟨pattern, given, location, content, executable, ways⟩ :=
    named "near/../lib/a.hbs" (by simp [identifiers])
  obtain rfl := List.mem_singleton.mp given
  rcases ways with ⟨_, same, _⟩ | ⟨paths, path, seen, globbed, among, _, leads, stands, relative,
    back⟩
  · exact absurd same (by decide)
  · -- There is one path that the pattern matches, and all else is computed from it.
    rw [globbed] at matched
    obtain rfl : paths = [["/p/app/near/../lib/a.hbs"]] := Option.some.inj matched
    obtain rfl : path = "/p/app/near/../lib/a.hbs" := by simpa using among
    have here : neighbouringDisk.find "/p/app/near/../lib/a.hbs" = .ok ["p", "lib", "a.hbs"] := by
      decide +kernel
    obtain rfl : ["p", "lib", "a.hbs"] = location := Except.ok.inj (here.symm.trans leads)
    have file : neighbouringDisk.entry? ["p", "lib", "a.hbs"] =
        some (.file (.text "x") false) := by
      decide +kernel
    obtain ⟨rfl, rfl⟩ : .text "x" = content ∧ false = executable := by
      simpa using file.symm.trans stands
    have short : (Path.relativeTo? "/p/app" "/p/app/near/../lib/a.hbs") =
        some "near/../lib/a.hbs" := by
      decide +kernel
    obtain rfl : "near/../lib/a.hbs" = seen := Option.some.inj (short.symm.trans relative)
    exact (back (by decide) (by decide +kernel)).2

/-- No path that is too long leads to a file. -/
theorem isFile_of_too_long {path : String}
    (long : FileSystem.longestPath < path.utf8ByteSize) : files.isFile path = false := by
  cases file : files.isFile path with
  | false => rfl
  | true =>
    obtain ⟨location, _, _, leads, _⟩ := exists_file file
    have short := (FileSystem.locate_eq_walk (FileSystem.find_eq_ok.mp leads)).2.2.1
    omega

/-- A project whose template has a backslash in its name. -/
def backslashDisk : FileSystem :=
  ⟨[(["p"], .directory), (["p", "a\\b.hbs"], .file (.text "x") false)]⟩

/--
A template with a backslash in its name is found, and its identifier names no file. Neither does
one, on any disk, that makes too long a path with the working directory.
-/
theorem identifier_names_nothing :
    backslashDisk.canonical "/p" = .ok "/p" ∧ backslashDisk.isDirectory "/p" = true ∧
    (resolve backslashDisk "/p" ["*.hbs"] .defaults).toOption.map FileSet.identifiers =
      some ["a/b.hbs"] ∧
    backslashDisk.isFile (Path.join "/p" "a/b.hbs") = false ∧
    ∀ (files : FileSystem) (workingDir name : String),
      FileSystem.longestPath < (Path.join workingDir name).utf8ByteSize →
        files.isFile (Path.join workingDir name) = false := by
  refine ⟨?_, ?_, ?_, ?_, fun _ _ _ => isFile_of_too_long⟩ <;> decide +kernel

end TemplateLint
