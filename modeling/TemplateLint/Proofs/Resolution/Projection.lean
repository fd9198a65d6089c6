import TemplateLint.Proofs.Glob.Plain
import TemplateLint.Proofs.Resolution.Identity

/-!
To resolve what has been resolved changes nothing: the identifiers of the files to lint are paths
that lead to these files, and no filter that let them pass the first time stops them the second
time.
-/

namespace TemplateLint

/-- A list without repetitions is left alone when repetitions are dropped. -/
theorem eraseDups_of_nodup {items : List String} (once : items.Nodup) :
    items.eraseDups = items := by
  induction items with
  | nil => rfl
  | cons first later ih =>
    obtain ⟨fresh, rest⟩ := List.nodup_cons.mp once
    -- No later item is the first again, so that none is taken out with it.
    have kept : later.filter (fun item => !item == first) = later := by
      refine List.filter_eq_self.mpr fun item member => ?_
      have other : item ≠ first := fun same => fresh (same ▸ member)
      simpa using other
    rw [List.eraseDups_cons, kept, ih rest]

namespace Resolution

section Literal

variable {files : FileSystem} {workingDir : String} {ignored : List GlobPattern}
  {repository : Option Ignore.Repository}

/-- A path of a file that is not left out adds itself. -/
theorem contribution_of_literal {path : String} (literal : isLiteral files workingDir path = true)
    (admitted : isIgnored ignored path = false) :
    contribution files workingDir ignored repository path = [path] := by
  rw [contribution, if_pos literal, if_neg (by simp [admitted])]

/-- What a pattern adds is not left out by any ignore pattern. -/
theorem isIgnored_of_mem_contribution {pattern name : String}
    (member : name ∈ contribution files workingDir ignored repository pattern) :
    isIgnored ignored name = false := by
  unfold contribution at member
  split at member
  · split at member
    · simp at member
    · rename_i admitted
      obtain rfl := List.mem_singleton.mp member
      exact Bool.eq_false_iff.mpr admitted
  · split at member
    · -- What is kept of the templates has passed the same test under the same name.
      obtain ⟨entry, kept, rfl⟩ := List.mem_map.mp member
      have first := (List.mem_filter.mp kept).1
      rw [← select_eq_firstTemplates] at first
      rcases mem_keepFirst _ _ first with none | inside
      · simp at none
      · simpa using (List.mem_filter.mp inside).2
    · simp at member

/-- The identifier of a template asks for no standard input. -/
theorem not_stdin_of_template {path : String} (template : isTemplate path = true) :
    identifier workingDir path ≠ "-" ∧ identifier workingDir path ≠ stdinName := by
  -- Neither name of standard input ends as a template does.
  have ends {name : String} {c : Char} (last : name.toList.getLast? = some c) (noSlash : c ≠ '/')
      (noPoint : c ≠ '.') (other : c.toLower ≠ 's') : identifier workingDir path ≠ name := by
    intro same
    rw [isTemplate_of_identifier (same ▸ last) noSlash noPoint other] at template
    exact Bool.false_ne_true template
  exact ⟨ends rfl (by decide) (by decide) (by decide), ends rfl (by decide) (by decide) (by decide)⟩

end Literal

/--
A path that patterns lead to stands for a name of the files to lint: of the templates that the globs
of a pattern match it is the first with this identifier.
-/
def StandsFor (files : FileSystem) (workingDir : String) (ignored : List GlobPattern)
    (patterns : List String) (name path : String) : Prop :=
  ∃ pattern ∈ patterns, isLiteral files workingDir pattern = false ∧
    ∃ paths, found files workingDir pattern = .ok paths ∧
      (name, path) ∈ firstTemplates files workingDir ignored paths.flatten

variable {files : FileSystem} {workingDir : String} {patterns : List String} {ignore : IgnoreSpec}
  {ignored : List GlobPattern} {set : FileSet}

/-- A name of the files to lint is a path that was given, or a path that patterns lead to has it. -/
theorem literal_or_standsFor (names : ¬asksForStdin patterns = true)
    (compiled : ignore.compile = .ok ignored)
    (resolved : resolve files workingDir patterns ignore = .ok set) {name : String}
    (member : name ∈ set.identifiers) :
    isIgnored ignored name = false ∧
      (name ∈ patterns ∧ isLiteral files workingDir name = true ∨
        ∃ path, StandsFor files workingDir ignored patterns name path) := by
  have added := ((resolve_eq_ok names compiled).mp ⟨set, resolved, rfl⟩).2
  rw [← added, List.mem_eraseDups, List.mem_flatMap] at member
  obtain ⟨pattern, given, inside⟩ := member
  refine ⟨isIgnored_of_mem_contribution inside, ?_⟩
  by_cases literal : isLiteral files workingDir pattern = true
  · -- Such a pattern adds nothing but itself.
    unfold contribution at inside
    rw [if_pos literal] at inside
    split at inside
    · simp at inside
    · obtain rfl := List.mem_singleton.mp inside
      exact .inl ⟨given, literal⟩
  · rcases mem_contribution inside with ⟨own, _⟩ | ⟨paths, path, matched, first⟩
    · exact absurd own literal
    · exact .inr ⟨path, pattern, given, Bool.eq_false_iff.mpr literal, paths, matched, first⟩

/-- A path that stands for a name is one of a template, from the root, and goes by this name. -/
theorem StandsFor.template {name path : String}
    (stands : StandsFor files workingDir ignored patterns name path) :
    isTemplate path = true ∧ files.isFile path = true ∧ Path.isAbsolute path = true ∧
      name = identifier workingDir path := by
  obtain ⟨pattern, _, _, paths, matched, first⟩ := stands
  obtain ⟨among, file, own⟩ := of_mem_firstTemplates first
  refine ⟨?_, file, isAbsolute_of_found matched path among, own⟩
  -- That it is a template was asked before the first of each name was kept.
  rw [← select_eq_firstTemplates] at first
  rcases mem_keepFirst _ _ first with none | inside
  · simp at none
  · obtain ⟨other, kept, same⟩ := List.mem_map.mp (List.mem_filter.mp inside).1
    obtain rfl : other = path := (Prod.mk.inj same).2
    exact (Bool.and_eq_true_iff.mp (List.mem_filter.mp kept).2).2

/-- A name without wildcards for which a path stands leads to the file of that path. -/
theorem StandsFor.isLiteral {name path : String}
    (stands : StandsFor files workingDir ignored patterns name path)
    (canonical : files.canonical workingDir = .ok workingDir)
    (directory : files.isDirectory workingDir = true) (plain : hasWildcards name = false)
    (whole : ∀ seen, Path.relativeTo? workingDir path = some seen → '\\' ∉ seen.toList)
    (short : (Path.join workingDir name).utf8ByteSize ≤ FileSystem.longestPath) :
    isLiteral files workingDir name = true := by
  obtain ⟨_, file, absolute, own⟩ := stands.template
  -- The name leads back to the file from the working directory, so it is a literal as it stands.
  obtain ⟨location, content, executable, leads, entry⟩ := exists_file file
  obtain ⟨seen, relative, back⟩ := FileSystem.find_seen canonical directory absolute leads
    (by simp [entry])
  obtain rfl : name = seen := own.trans (identifier_of_no_backslash relative (whole seen relative))
  have again : files.isFile (Path.join workingDir name) = true := by
    simp only [FileSystem.isFile, FileSystem.follow?, back short, entry]
  simp only [Resolution.isLiteral, plain, again, Bool.not_false, Bool.and_self]

/-- Files to lint that are no standard input and go by the same names are the same. -/
theorem eq_of_identifiers {set other : FileSet}
    (paths : ∀ spec ∈ set.specs, ∃ path, spec = .path path)
    (others : ∀ spec ∈ other.specs, ∃ path, spec = .path path)
    (same : set.identifiers = other.identifiers) : set = other := by
  -- A path is its own name, so that the names give back the files.
  have named {specs : List FileSpec} (all : ∀ spec ∈ specs, ∃ path, spec = .path path) :
      (specs.map FileSpec.identifier).map FileSpec.path = specs := by
    rw [List.map_map]
    refine (List.map_congr_left fun spec member => ?_).trans (List.map_id specs)
    obtain ⟨path, rfl⟩ := all spec member
    rfl
  have specs : set.specs = other.specs := by
    rw [← named paths, ← named others]
    exact congrArg (List.map FileSpec.path) same
  cases set
  cases other
  simpa using specs

/-- Paths of files, none of them left out or twice, are resolved to themselves. -/
theorem resolve_literals {paths : List String} (names : ¬asksForStdin paths = true)
    (compiled : ignore.compile = .ok ignored) (once : paths.Nodup)
    (literal : ∀ path ∈ paths, isLiteral files workingDir path = true)
    (admitted : ∀ path ∈ paths, isIgnored ignored path = false) :
    ∃ set, resolve files workingDir paths ignore = .ok set ∧ set.identifiers = paths := by
  -- Each path serves by itself and adds itself.
  refine (resolve_eq_ok names compiled).mpr ⟨fun path member => .inl (literal path member), ?_⟩
  have each : ∀ path ∈ paths, contribution files workingDir ignored
      (repositoryFor files workingDir ignore) path = [path] :=
    fun path member => contribution_of_literal (literal path member) (admitted path member)
  rw [List.flatMap_congr each, List.flatMap_singleton', eraseDups_of_nodup once]

section TooLong

open FileSystem

variable {files : FileSystem} {base : Location} {ignored : List GlobPattern}
  {repository : Option Ignore.Repository}

/-- What is kept of some paths comes from one of them that leads to a file. -/
theorem exists_of_kept_ne_nil {workingDir : String} {paths : List String}
    (nonempty : kept files workingDir ignored repository paths ≠ []) :
    ∃ path ∈ paths, files.isFile path = true := by
  obtain ⟨name, member⟩ := List.exists_mem_of_ne_nil _ nonempty
  obtain ⟨entry, inside, _⟩ := List.mem_map.mp member
  obtain ⟨among, file, _⟩ := of_mem_firstTemplates (List.mem_filter.mp inside).1
  exact ⟨entry.2, among, file⟩

/-- One template of which nothing stands in the way is kept. -/
theorem kept_of_template {workingDir path : String} (file : files.isFile path = true)
    (template : isTemplate path = true) :
    kept files workingDir [] none [path] = [identifier workingDir path] := by
  have first : firstTemplates files workingDir [] [path] =
      [(identifier workingDir path, path)] := by
    rw [firstTemplates, templates, List.filter_cons_of_pos (by simp [file, template])]
    rfl
  rw [kept, first]
  rfl

/-- No character of a text without wildcards means anything in a glob. -/
theorem isPlain_of_hasWildcards {text : String} (plain : hasWildcards text = false) :
    Glob.IsPlain text.toList ∧ ']' ∉ text.toList ∧ '{' ∉ text.toList := by
  have absent (c : Char) (wild : isWildcard c = true) : c ∉ text.toList := by
    intro member
    have tame : ∀ other ∈ text.toList, isWildcard other = false := by
      simpa [hasWildcards] using plain
    simp [tame c member] at wild
  refine ⟨fun c member => ⟨?_, ?_, ?_⟩, absent _ (by decide), absent _ (by decide)⟩
  all_goals
    rintro rfl
    exact absent _ (by decide) member

/-- The path of a location has no wildcards if its names have none. -/
theorem hasWildcards_pathOf (proper : Proper base)
    (clean : ∀ own ∈ base, hasWildcards own = false) : hasWildcards (pathOf base) = false := by
  refine List.any_eq_false.mpr fun c member => ?_
  rcases mem_pathOf proper member with rfl | ⟨own, among, inside⟩
  · decide
  · exact List.any_eq_false.mp (clean own among) c inside

/-- A name without wildcards that leads to nothing is looked for as it is written. -/
theorem alternatives_of_plain {workingDir name : String} (clean : hasWildcards workingDir = false)
    (plain : hasWildcards name = false) (start : Text.after? ['.', '/'] name.toList = none)
    (nonempty : name.toList ≠ []) (other : name.toList ≠ ['.'])
    (relative : Path.isAbsolute name = false)
    (nowhere : files.isDirectory (Path.join workingDir name) = false) :
    alternatives files workingDir name = [workingDir ++ "/" ++ name] := by
  have normal : normalize files workingDir name = name := by
    simp [normalize, start, nonempty, other, nowhere]
  obtain ⟨directory, noClosing, _⟩ := isPlain_of_hasWildcards clean
  rw [alternatives, normal, Glob.expandBraces_of_not_mem (isPlain_of_hasWildcards plain).2.2,
    GlobPattern.escape_of_plain directory noClosing]
  simp [relative]

/-- A name without wildcards and doubled slashes matches at most the path that it spells. -/
theorem eq_of_mem_found (proper : Proper base) (nested : base ≠ [])
    (clean : ∀ own ∈ base, hasWildcards own = false) {name path : String}
    (plain : hasWildcards name = false) (named : ∀ piece ∈ Text.splitOn '/' name.toList, piece ≠ [])
    (spelled : alternatives files (pathOf base) name = [pathOf base ++ "/" ++ name])
    {paths : List (List String)} (matched : found files (pathOf base) name = .ok paths)
    (among : path ∈ paths.flatten) : path = pathOf base ++ "/" ++ name := by
  obtain ⟨batch, inside, own⟩ := List.mem_flatten.mp among
  -- The name is a single alternative, so that all matches come from one pattern.
  have only : Glob.paths files (pathOf base ++ "/" ++ name) = .ok batch := by
    rw [found, spelled] at matched
    cases only : Glob.paths files (pathOf base ++ "/" ++ name) with
    | error fault => simp [List.mapM_cons, only, bind, Except.bind] at matched
    | ok several =>
      obtain rfl : [several] = paths := by
        simpa [List.mapM_cons, only, bind, Except.bind, pure, Except.pure] using matched
      rw [List.mem_singleton.mp inside]
  -- A pattern without wildcards matches nothing but itself.
  refine Glob.eq_pattern_of_mem_paths (fun c member => ?_) ?_ ?_ only own
  · refine (isPlain_of_hasWildcards ?_).1 c (List.mem_of_mem_drop member)
    simpa [hasWildcards, isWildcard] using And.intro (hasWildcards_pathOf proper clean) plain
  · have absolute : (pathOf base).toList.head? = some '/' := by
      simpa [Path.isAbsolute] using isAbsolute_pathOf base
    simp [Path.isAbsolute, absolute]
  · rw [Glob.splitOn_below proper nested name]
    intro piece member
    rcases List.mem_append.mp member with inBase | inName
    · obtain ⟨name, among, rfl⟩ := List.mem_map.mp inBase
      exact (proper name among).1.some
    · exact named piece inName

/-- A name for which the working directory makes too long a path serves no more. -/
theorem not_serves_of_too_long (proper : Proper base) (nested : base ≠ [])
    (clean : ∀ own ∈ base, hasWildcards own = false) {name : String}
    (plain : hasWildcards name = false) (start : Text.after? ['.', '/'] name.toList = none)
    (other : name.toList ≠ ['.']) (named : ∀ piece ∈ Text.splitOn '/' name.toList, piece ≠ [])
    (long : longestPath < (Path.join (pathOf base) name).utf8ByteSize) :
    ¬Serves files (pathOf base) ignored repository name := by
  have nonempty : name.toList ≠ [] := by
    intro empty
    exact named [] (by simp [empty, Text.splitOn]) rfl
  have relative : Path.isAbsolute name = false := by
    refine Bool.eq_false_iff.mpr fun absolute => ?_
    -- Before a slash at the start there would be nothing.
    have first := Text.head?_splitOn (show name.toList.head? = some '/' by
      simpa [Path.isAbsolute] using absolute)
    exact named [] (List.mem_of_head? first) rfl
  have spelled : alternatives files (pathOf base) name = [pathOf base ++ "/" ++ name] :=
    alternatives_of_plain (hasWildcards_pathOf proper clean) plain start nonempty other relative
      (by simp [isDirectory, follow?_of_too_long files long])
  -- By itself the name leads nowhere, and as a pattern to the path it spells, which is too long.
  rintro (literal | ⟨paths, matched, kept⟩)
  · simp [isLiteral, isFile_of_too_long long] at literal
  · obtain ⟨path, among, file⟩ := exists_of_kept_ne_nil kept
    obtain rfl := eq_of_mem_found proper nested clean plain named spelled matched among
    have longer := Nat.lt_of_lt_of_le long (Path.utf8ByteSize_join_le (pathOf base) relative)
    simp [isFile_of_too_long longer] at file

end TooLong

end Resolution

open Resolution

variable {files : FileSystem} {workingDir : String}

/--
Resolution is a projection: the identifiers of the files to lint, given in place of the patterns
with the same files to leave out, are resolved to the same files in the same order. They must read
as paths, so they hold no wildcards, and the paths that globs match, as seen from the working
directory, hold no backslashes, which identifiers turn round. And with the working directory they
must make paths that are not too long.
-/
theorem resolve_identifiers {patterns : List String} {ignore : IgnoreSpec}
    {ignored : List GlobPattern} {set : FileSet}
    (canonical : files.canonical workingDir = .ok workingDir)
    (directory : files.isDirectory workingDir = true) (names : ¬asksForStdin patterns = true)
    (compiled : ignore.compile = .ok ignored)
    (resolved : resolve files workingDir patterns ignore = .ok set)
    (nonempty : set.identifiers ≠ [])
    (plain : ∀ name ∈ set.identifiers, hasWildcards name = false)
    (whole : ∀ name ∈ set.identifiers, ∀ path,
      StandsFor files workingDir ignored patterns name path →
        ∀ seen, Path.relativeTo? workingDir path = some seen → '\\' ∉ seen.toList)
    (short : ∀ name ∈ set.identifiers,
      (Path.join workingDir name).utf8ByteSize ≤ FileSystem.longestPath) :
    resolve files workingDir set.identifiers ignore = .ok set := by
  have origin (name : String) (member : name ∈ set.identifiers) :=
    literal_or_standsFor names compiled resolved member
  have literal : ∀ name ∈ set.identifiers, isLiteral files workingDir name = true := by
    intro name member
    rcases (origin name member).2 with ⟨_, literal⟩ | ⟨path, stands⟩
    · exact literal
    · exact stands.isLiteral canonical directory (plain name member) (whole name member path stands)
        (short name member)
  -- A name of standard input would have been a pattern, or that of a template.
  have quiet : ¬asksForStdin set.identifiers = true := by
    rw [asksForStdin_iff] at names ⊢
    rintro (none | dash | device)
    · exact nonempty none
    · rcases (origin _ dash).2 with ⟨given, _⟩ | ⟨path, stands⟩
      · exact names (.inr (.inl given))
      · obtain ⟨template, _, _, own⟩ := stands.template
        exact (not_stdin_of_template template).1 own.symm
    · rcases (origin _ device).2 with ⟨given, _⟩ | ⟨path, stands⟩
      · exact names (.inr (.inr given))
      · obtain ⟨template, _, _, own⟩ := stands.template
        exact (not_stdin_of_template template).2 own.symm
  obtain ⟨again, done, same⟩ := @resolve_literals files workingDir _ _ _ quiet compiled
    set.distinct literal fun name member => (origin name member).1
  -- Neither set holds standard input, so they are the same as their names are.
  have paths := path_of_mem_resolve (Bool.eq_false_iff.mpr names) resolved
  have others := path_of_mem_resolve (Bool.eq_false_iff.mpr quiet) done
  rw [done, eq_of_identifiers others paths same]

/-- A template that git excludes is named, and two are found through braces: all are found again. -/
theorem resolve_identifiers_sample :
    excludingDisk.canonical "/p" = .ok "/p" ∧ excludingDisk.isDirectory "/p" = true ∧
    ¬asksForStdin ["made.hbs", "\x7bb,a\x7d*.hbs"] = true ∧
    ∃ set, resolve excludingDisk "/p" ["made.hbs", "\x7bb,a\x7d*.hbs"] .defaults = .ok set ∧
      set.identifiers = ["made.hbs", "b.hbs", "a.hbs"] ∧
      resolve excludingDisk "/p" set.identifiers .defaults = .ok set := by
  have canonical : excludingDisk.canonical "/p" = .ok "/p" := by decide +kernel
  have directory : excludingDisk.isDirectory "/p" = true := by decide +kernel
  have names : ¬asksForStdin ["made.hbs", "\x7bb,a\x7d*.hbs"] = true := by decide
  have matched : (found excludingDisk "/p" "\x7bb,a\x7d*.hbs").toOption =
      some [["/p/b.hbs"], ["/p/a.hbs"]] := by
    decide +kernel
  have answers : (resolve excludingDisk "/p" ["made.hbs", "\x7bb,a\x7d*.hbs"]
      .defaults).toOption.map FileSet.identifiers = some ["made.hbs", "b.hbs", "a.hbs"] := by
    decide +kernel
  refine ⟨canonical, directory, names, ?_⟩
  obtain ⟨set, resolved, identifiers⟩ := Effect.exists_of_toOption_map answers
  obtain ⟨ignored, compiled⟩ := compile_of_resolve names resolved
  refine ⟨set, resolved, identifiers, resolve_identifiers canonical directory names compiled resolved
    (by simp [identifiers]) (by rw [identifiers]; decide) ?_
    (by rw [identifiers]; decide +kernel)⟩
  rintro name _ path ⟨pattern, given, glob, paths, globbed, first⟩ seen relative
  -- Only the pattern in braces is no path of a file, and it matches two paths.
  rcases List.mem_pair.mp given with rfl | rfl
  · exact absurd glob (by decide +kernel)
  · rw [globbed] at matched
    obtain rfl : paths = [["/p/b.hbs"], ["/p/a.hbs"]] := Option.some.inj matched
    have both : ∀ path ∈ ["/p/b.hbs", "/p/a.hbs"], ∀ seen ∈ Path.relativeTo? "/p" path,
        '\\' ∉ seen.toList := by
      decide +kernel
    exact both path (of_mem_firstTemplates first).1 seen relative

/-- A name so long that few of them fit into a path. -/
def longName : String :=
  .ofList (List.replicate 254 'a')

/-- A directory whose path is nearly too long. -/
def deepDirectory : Location :=
  "d" :: List.replicate 16 longName

/-- The path of a template at the root as seen from the deep directory. -/
def farName : String :=
  "../../../../../../../../../../../../../../../../../x.hbs"

/-- A disk with a template at its root and a directory far below. -/
def deepDisk : FileSystem :=
  ⟨(["x.hbs"], .file (.text "x") false) ::
    (List.range 17).map fun depth => ("d" :: List.replicate depth longName, .directory)⟩

/-- The names of the deep directory can stand in a path, and its path is not too long. -/
theorem proper_deepDirectory : FileSystem.Proper deepDirectory ∧
    (∀ name ∈ deepDirectory, '\u0000' ∉ name.toList ∧ hasWildcards name = false) ∧
    (FileSystem.pathOf deepDirectory).utf8ByteSize = 4082 := by
  have letters : longName.toList = List.replicate 254 'a' := String.toList_ofList
  have size : longName.utf8ByteSize = 254 := by decide +kernel
  have other {c : Char} (different : c ≠ 'a') : c ∉ longName.toList := by
    rw [letters]
    exact fun member => different (List.eq_of_mem_replicate member)
  -- Only two names occur, so each property is that of two names.
  have names : ∀ name ∈ deepDirectory, name = "d" ∨ name = longName := fun name member =>
    (List.mem_cons.mp member).imp_right List.eq_of_mem_replicate
  refine ⟨fun name member => ?_, fun name member => ?_, ?_⟩
  · rcases names name member with rfl | rfl
    · exact ⟨⟨by decide, by decide, by decide, by decide⟩, by decide⟩
    · refine ⟨⟨?_, other (by decide), ?_, ?_⟩, by rw [size]; decide⟩ <;> rw [letters] <;> decide
  · rcases names name member with rfl | rfl
    · decide
    · refine ⟨other (by decide), ?_⟩
      rw [hasWildcards, letters, List.any_replicate]
      decide
  · rw [FileSystem.utf8ByteSize_pathOf (by decide), deepDirectory, List.map_cons, List.sum_cons,
      List.map_replicate, List.sum_replicate, size]
    decide

/-- The deep directory stands on the disk. -/
theorem open_deepDirectory : deepDisk.Open deepDirectory := by
  intro outer above
  rcases List.prefix_cons_iff.mp above with rfl | ⟨names, rfl, inner⟩
  · rfl
  · obtain ⟨shallow, same⟩ := List.prefix_replicate_iff.mp inner
    rw [FileSystem.entry?, if_neg (List.cons_ne_nil _ _)]
    cases stands : deepDisk.entries.lookup ("d" :: names) with
    | none =>
      -- The directory is one of those that are listed.
      have listed : ("d" :: names, Entry.directory) ∈ deepDisk.entries :=
        List.mem_cons_of_mem _ (List.mem_map.mpr ⟨names.length, by simpa using by omega, by
          rw [← same]⟩)
      have other := List.lookup_eq_none_iff.mp stands _ listed
      simp at other
    | some entry =>
      obtain ⟨before, after, split, _⟩ := List.lookup_eq_some_iff.mp stands
      have listed : ("d" :: names, entry) ∈ deepDisk.entries := by simp [split]
      rcases List.mem_cons.mp listed with template | directory
      · exact absurd (congrArg (·.1.head?) template) (by simp)
      · obtain ⟨depth, _, same⟩ := List.mem_map.mp directory
        exact congrArg some (congrArg Prod.snd same).symm

/-- From the deep directory the template is seen far above. -/
theorem relativeTo?_deepDirectory :
    Path.relativeTo? (FileSystem.pathOf deepDirectory) "/x.hbs" = some farName := by
  have absolute : Path.isAbsolute "/x.hbs" = Path.isAbsolute (FileSystem.pathOf deepDirectory) := by
    rw [FileSystem.isAbsolute_pathOf]
    decide
  rw [Path.relativeTo?, if_pos absolute, FileSystem.components_pathOf proper_deepDirectory.1]
  decide +kernel

/-- With the deep directory the name of the template makes too long a path. -/
theorem not_serves_farName :
    ¬Serves deepDisk (FileSystem.pathOf deepDirectory) [] none farName := by
  obtain ⟨proper, clean, size⟩ := proper_deepDirectory
  -- Joined to the directory the name is longer than a path may be.
  have long : FileSystem.longestPath <
      (Path.join (FileSystem.pathOf deepDirectory) farName).utf8ByteSize := by
    have joined := Path.add_utf8ByteSize_le_join (FileSystem.pathOf deepDirectory)
      (show Path.isAbsolute farName = false by decide)
    rw [size] at joined
    exact Nat.lt_of_lt_of_le (by decide +kernel) joined
  exact not_serves_of_too_long proper (by decide) (fun own member => (clean own member).2)
    (by decide) (by decide) (by decide) (by decide) long

/-- From the deep directory the template is found through its absolute path. -/
theorem found_deepDirectory :
    found deepDisk (FileSystem.pathOf deepDirectory) "/*.hbs" = .ok [["/x.hbs"]] := by
  have matched : (found deepDisk (FileSystem.pathOf deepDirectory) "/*.hbs").toOption =
      some [["/x.hbs"]] := by
    decide +kernel
  exact Effect.ok_of_toOption matched

/-- The template that is found is one to lint, by the name that leads up to it. -/
theorem resolve_deepDirectory :
    ∃ set, resolve deepDisk (FileSystem.pathOf deepDirectory) ["/*.hbs"] .disabled = .ok set ∧
      set.identifiers = [farName] := by
  have literal : isLiteral deepDisk (FileSystem.pathOf deepDirectory) "/*.hbs" = false := rfl
  -- The one file that is found is a template, and its name goes up to the root.
  have kept : kept deepDisk (FileSystem.pathOf deepDirectory) [] none ["/x.hbs"] = [farName] :=
    (kept_of_template (by decide +kernel) (by decide +kernel)).trans
      (congrArg ([·]) (identifier_of_no_backslash relativeTo?_deepDirectory (by decide)))
  have serves : Serves deepDisk (FileSystem.pathOf deepDirectory) [] none "/*.hbs" :=
    .inr ⟨_, found_deepDirectory, by rw [List.flatten_singleton, kept]; simp⟩
  have adds : contribution deepDisk (FileSystem.pathOf deepDirectory) [] none "/*.hbs" =
      [farName] := by
    simp only [contribution, literal, found_deepDirectory]
    exact kept
  refine (resolve_eq_ok (show ¬asksForStdin ["/*.hbs"] = true by decide) rfl).mpr
    ⟨fun pattern member => List.mem_singleton.mp member ▸ serves, ?_⟩
  rw [List.flatMap_singleton]
  exact congrArg List.eraseDups adds

/-- Under that name no file to lint is found. -/
theorem resolve_farName_ne_ok (set : FileSet) :
    resolve deepDisk (FileSystem.pathOf deepDirectory) [farName] .disabled ≠ .ok set := by
  intro resolved
  have served := ((resolve_eq_ok (show ¬asksForStdin [farName] = true by decide) rfl).mp
    ⟨set, resolved, rfl⟩).1
  exact not_serves_farName (served farName List.mem_cons_self)

/--
A directory has a path that is nearly too long. The name of a template far above it makes too long a
path with it, so the template is found, and by its name it is not found again.
-/
theorem resolve_identifiers_too_long :
    deepDisk.canonical (FileSystem.pathOf deepDirectory) =
      .ok (FileSystem.pathOf deepDirectory) ∧
    deepDisk.isDirectory (FileSystem.pathOf deepDirectory) = true ∧
    asksForStdin ["/*.hbs"] = false ∧
    (found deepDisk (FileSystem.pathOf deepDirectory) "/*.hbs").toOption = some [["/x.hbs"]] ∧
    ∃ set, resolve deepDisk (FileSystem.pathOf deepDirectory) ["/*.hbs"] .disabled = .ok set ∧
      set.identifiers = [farName] ∧ hasWildcards farName = false ∧
      ∀ other, resolve deepDisk (FileSystem.pathOf deepDirectory) set.identifiers .disabled ≠
        .ok other := by
  -- The directory is its own canonical path, so that only the length of what is joined to it stands
  -- in the way.
  obtain ⟨proper, clean, size⟩ := proper_deepDirectory
  obtain ⟨canonical, directory⟩ := FileSystem.canonical_pathOf proper open_deepDirectory
    (fun name member => (clean name member).1) (by rw [size]; decide)
  obtain ⟨set, resolved, identifiers⟩ := resolve_deepDirectory
  refine ⟨canonical, directory, by decide, by rw [found_deepDirectory]; rfl, set, resolved,
    identifiers, by decide, fun other again => ?_⟩
  rw [identifiers] at again
  exact resolve_farName_ne_ok other again

end TemplateLint
