import TemplateLint.Proofs.Effect
import TemplateLint.Proofs.Resolution

/-!
What becomes of the paths and patterns of a command line: when they are resolved, to which files, in
which order, and what is reported when they are not. What a glob matches and what git excludes are
taken as they come.
-/

namespace TemplateLint

section FirstOccurrence

variable {α β : Type}

/-- Keeping the first items of turned lists is turning the first items kept. -/
theorem eraseDupsBy_map (turn : α → β) (same : β → β → Bool) (items : List α) :
    (items.map turn).eraseDupsBy same =
      (items.eraseDupsBy fun later first => same (turn later) (turn first)).map turn := by
  -- What is left after the first item is no tail of the list, so the induction is on the length.
  induction size : items.length using Nat.strongRecOn generalizing items with
  | ind length ih =>
    cases items with
    | nil => rfl
    | cons first later =>
      have shorter : (later.filter fun item => same (turn item) (turn first) = false).length <
          length := by
        rw [← size, List.length_cons]
        exact Nat.lt_succ_of_le (List.length_filter_le _ _)
      rw [List.map_cons, List.eraseDupsBy_cons, List.eraseDupsBy_cons, List.map_cons,
        List.filter_map]
      exact congrArg (turn first :: ·) (ih _ shorter _ rfl)

/-- To add items whose keys are new is to keep the first of each key that is not there yet. -/
theorem foldl_keepFirst (key : α → String) (items kept : List α) :
    items.foldl
        (fun kept item => if kept.any (key · = key item) then kept else kept ++ [item]) kept =
      kept ++ (items.filter fun item => !kept.any (key · = key item)).eraseDupsBy
        fun later first => key later == key first := by
  -- The induction is on the items; what is kept grows by the first one if its key is new.
  induction items generalizing kept with
  | nil => simp
  | cons first later ih =>
    rw [List.foldl_cons, ih]
    cases known : kept.any (key · = key first) with
    | true => rw [if_pos rfl, List.filter_cons_of_neg (by simp [known])]
    | false =>
      rw [if_neg (by simp), List.filter_cons_of_pos (by simp [known]), List.eraseDupsBy_cons,
        List.filter_filter, List.append_assoc, List.singleton_append]
      refine congrArg (kept ++ first :: List.eraseDupsBy _ ·) (List.filter_congr fun item _ => ?_)
      -- A key is new after the first item if it was new before and is another one.
      rw [List.any_append, List.any_cons, List.any_nil, Bool.or_false, Bool.not_or, Bool.and_comm]
      by_cases same : key item = key first
      · simp [same]
      · simp [same, Ne.symm same]

end FirstOccurrence

namespace FileSet

/-- A thing to lint is put at the end unless its name is there already. -/
theorem specs_insert (files : FileSet) (spec : FileSpec) :
    (files.insert spec).specs =
      if files.specs.any (FileSpec.identifier · = spec.identifier) then files.specs
      else files.specs ++ [spec] := by
  -- A set asks for the names that it has, and the list for a file with the same name.
  have known : files.specs.any (FileSpec.identifier · = spec.identifier) = true ↔
      spec.identifier ∈ files.identifiers := by
    simp [identifiers]
  unfold insert
  split
  · rename_i present
    rw [if_pos (known.mpr present)]
  · rename_i absent
    rw [if_neg fun present => absent (known.mp present)]

/-- Of the things that are put into an empty set the first of each name is there. -/
theorem specs_insertAll (specs : List FileSpec) :
    (empty.insertAll specs).specs =
      specs.eraseDupsBy fun later first => later.identifier == first.identifier := by
  have stepwise (files : FileSet) : (files.insertAll specs).specs = specs.foldl
      (fun kept spec => if kept.any (FileSpec.identifier · = spec.identifier) then kept
        else kept ++ [spec]) files.specs := by
    induction specs generalizing files with
    | nil => rfl
    | cons spec later ih =>
      rw [List.foldl_cons, ← specs_insert, ← ih]
      rfl
  -- In an empty set every name is new.
  rw [stepwise, foldl_keepFirst]
  simp [empty]

/-- Files are told apart by their paths. -/
theorem specs_insertAll_paths (paths : List String) :
    (empty.insertAll (paths.map .path)).specs = paths.eraseDups.map .path := by
  rw [specs_insertAll, eraseDupsBy_map]
  rfl

end FileSet

namespace Resolution

section Pattern

variable (files : FileSystem) (workingDir : String) (ignored : List GlobPattern)
  (repository : Option Ignore.Repository)

/-- The templates among paths that no ignore pattern leaves out, by identifier. -/
def templates (paths : List String) : List (String × String) :=
  ((paths.filter fun path => files.isFile path && isTemplate path).map fun path =>
    (identifier workingDir path, path)).filter fun entry => !isIgnored ignored entry.1

/-- The first path of each identifier among the templates. -/
def firstTemplates (paths : List String) : List (String × String) :=
  (templates files workingDir ignored paths).eraseDupsBy fun later first => later.1 == first.1

/-- The paths among those of templates that git excludes, if there is a repository. -/
def gitExcluded (entries : List (String × String)) : List String :=
  match repository with
  | some repository => repository.excluded files (entries.map Prod.snd)
  | none => []

/-- The identifiers of templates that are kept: of those with one identifier the first counts. -/
def kept (paths : List String) : List String :=
  let entries := firstTemplates files workingDir ignored paths
  -- Git is asked about the first paths only, so it speaks for the others as well.
  (entries.filter fun entry =>
    !(gitExcluded files repository entries).contains entry.2).map Prod.fst

/-- What each glob matches that a pattern stands for, or the fault of the first that is no glob. -/
def found (pattern : String) : Except GlobFault (List (List String)) :=
  (alternatives files workingDir pattern).mapM (Glob.paths files)

/-- A pattern serves: it names a file, or some template that its globs match is kept. -/
def Serves (pattern : String) : Prop :=
  isLiteral files workingDir pattern = true ∨
    ∃ paths, found files workingDir pattern = .ok paths ∧
      kept files workingDir ignored repository paths.flatten ≠ []

/-- The identifiers that a pattern adds: its own path unless ignored, or those that are kept. -/
def contribution (pattern : String) : List String :=
  if isLiteral files workingDir pattern then
    -- A file that is named by its path serves even if it is left out.
    if isIgnored ignored pattern then [] else [pattern]
  else
    match found files workingDir pattern with
    | .ok paths => kept files workingDir ignored repository paths.flatten
    | .error _ => []

/-- What is reported of a pattern that does not serve. -/
def fault (pattern : String) : LintError :=
  match found files workingDir pattern with
  | .ok _ => .noFilesMatched pattern
  | .error fault => .badGlob fault

/-- The first templates are those that are selected. -/
theorem select_eq_firstTemplates (paths : List String) :
    select files workingDir ignored paths = firstTemplates files workingDir ignored paths := by
  refine (foldl_keepFirst Prod.fst (templates files workingDir ignored paths) []).trans ?_
  simp [firstTemplates]

/-- The paths of several patterns are those of each, unless one of them is no glob. -/
theorem allPaths_eq_mapM (patterns : List String) :
    allPaths files patterns =
      match patterns.mapM (Glob.paths files) with
      | .error fault => .error (.badGlob fault)
      | .ok found => .ok found.flatten := by
  induction patterns with
  | nil => rfl
  | cons pattern later ih =>
    rw [allPaths, ih, List.mapM_cons]
    cases Glob.paths files pattern with
    | error fault => rfl
    | ok first => cases later.mapM (Glob.paths files) <;> rfl

/-- A pattern is expanded to the templates that are kept of what its globs match. -/
theorem expand_eq_kept (pattern : String) :
    expand files workingDir ignored repository pattern =
      match found files workingDir pattern with
      | .error fault => .error (.badGlob fault)
      | .ok paths => .ok (kept files workingDir ignored repository paths.flatten) := by
  simp only [expand, allPaths_eq_mapM, found]
  cases (alternatives files workingDir pattern).mapM (Glob.paths files) with
  | error fault => rfl
  | ok paths =>
    simp only [select_eq_firstTemplates]
    rfl

variable {files workingDir ignored repository}

/-- A pattern that serves adds its contribution. -/
theorem resolveOne_of_serves {pattern : String}
    (serves : Serves files workingDir ignored repository pattern) :
    resolveOne files workingDir ignored repository pattern =
      .ok ((contribution files workingDir ignored repository pattern).map .path) := by
  unfold resolveOne contribution
  split
  · split <;> rfl
  · rename_i glob
    obtain ⟨paths, matched, some⟩ := serves.resolve_left glob
    simp only [expand_eq_kept, matched]

/-- A pattern that does not serve fails with its fault. -/
theorem resolveOne_of_fault {pattern : String}
    (useless : ¬Serves files workingDir ignored repository pattern) :
    resolveOne files workingDir ignored repository pattern =
      .error (fault files workingDir pattern) := by
  obtain ⟨glob, none⟩ := not_or.mp useless
  unfold resolveOne fault
  rw [if_neg glob, expand_eq_kept]
  cases matched : found files workingDir pattern with
  | error fault => rfl
  | ok paths =>
    -- What is kept is nothing, or the pattern would serve.
    have nothing : kept files workingDir ignored repository paths.flatten = [] := by
      by_cases empty : kept files workingDir ignored repository paths.flatten = []
      · exact empty
      · exact absurd ⟨paths, matched, empty⟩ none
    simp only [nothing]

/-- Patterns are resolved if all of them serve; else the first one that does not is reported. -/
theorem resolveAll_cases (patterns : List String) :
    ((∀ pattern ∈ patterns, Serves files workingDir ignored repository pattern) ∧
      resolveAll files workingDir ignored repository patterns = .ok ((patterns.flatMap
        (contribution files workingDir ignored repository)).map .path)) ∨
    ∃ before pattern after, patterns = before ++ pattern :: after ∧
      (∀ earlier ∈ before, Serves files workingDir ignored repository earlier) ∧
      ¬Serves files workingDir ignored repository pattern ∧
      resolveAll files workingDir ignored repository patterns =
        .error (fault files workingDir pattern) := by
  -- The induction is on the patterns; one that does not serve keeps off the later ones.
  induction patterns with
  | nil => exact .inl ⟨by simp, rfl⟩
  | cons pattern later ih =>
    by_cases serves : Serves files workingDir ignored repository pattern
    · rcases ih with ⟨all, done⟩ | ⟨before, other, after, rfl, earlier, useless, failed⟩
      · refine .inl ⟨List.forall_mem_cons.mpr ⟨serves, all⟩, ?_⟩
        simp only [resolveAll, resolveOne_of_serves serves, done, List.flatMap_cons,
          List.map_append]
      · refine .inr ⟨pattern :: before, other, after, rfl,
          List.forall_mem_cons.mpr ⟨serves, earlier⟩, useless, ?_⟩
        simp only [resolveAll, resolveOne_of_serves serves, failed]
    · refine .inr ⟨[], pattern, later, rfl, by simp, serves, ?_⟩
      simp only [resolveAll, resolveOne_of_fault serves]

end Pattern

/-- The repository whose exclusions count: none if nothing is to be left out. -/
def repositoryFor (files : FileSystem) (workingDir : String) :
    IgnoreSpec → Option Ignore.Repository
  | .disabled => none
  | .patterns _ => Ignore.Repository.find? files workingDir

/-- Standard input is asked for by no path at all or by one of its names. -/
theorem asksForStdin_iff (patterns : List String) :
    asksForStdin patterns = true ↔
      patterns = [] ∨ "-" ∈ patterns ∨ stdinName ∈ patterns := by
  simp only [asksForStdin, Bool.or_eq_true, List.isEmpty_iff, List.any_eq_true, decide_eq_true_eq]
  refine or_congr_right ?_
  constructor
  · rintro ⟨pattern, member, rfl | rfl⟩
    · exact .inl member
    · exact .inr member
  · rintro (member | member)
    · exact ⟨_, member, .inl rfl⟩
    · exact ⟨_, member, .inr rfl⟩

/-- What is no request for standard input is what the patterns add, put into an empty set. -/
theorem resolve_of_compiled {files : FileSystem} {workingDir : String} {patterns : List String}
    {ignore : IgnoreSpec} {ignored : List GlobPattern} (names : ¬asksForStdin patterns = true)
    (compiled : ignore.compile = .ok ignored) :
    resolve files workingDir patterns ignore =
      (resolveAll files workingDir ignored (repositoryFor files workingDir ignore) patterns).map
        FileSet.empty.insertAll := by
  -- The repository is looked for only if something is ignored at all.
  cases ignore with
  | disabled =>
    simp only [resolve, names, if_false, compiled, repositoryFor, Bool.false_eq_true]
    cases resolveAll files workingDir ignored none patterns <;> rfl
  | patterns globs =>
    simp only [resolve, names, if_false, compiled, repositoryFor, Bool.false_eq_true]
    cases resolveAll files workingDir ignored (Ignore.Repository.find? files workingDir)
      patterns <;> rfl

end Resolution

open Resolution

/--
How a command line's paths and patterns are resolved. Without any, or with one that names standard
input, there is nothing but standard input. Otherwise they are resolved exactly when each of them
serves: then the files are what they add one after another, each identifier once, at its first
place. If not, the first that does not serve is reported, whatever the others are.
-/
theorem resolve_law (files : FileSystem) (workingDir : String) (patterns : List String)
    (ignore : IgnoreSpec) :
    (patterns = [] ∨ "-" ∈ patterns ∨ stdinName ∈ patterns →
      ∃ set, resolve files workingDir patterns ignore = .ok set ∧ set.specs = [.stdin]) ∧
    (¬(patterns = [] ∨ "-" ∈ patterns ∨ stdinName ∈ patterns) → ∀ ignored,
      ignore.compile = .ok ignored →
      ((∃ set, resolve files workingDir patterns ignore = .ok set) ↔
        ∀ pattern ∈ patterns,
          Serves files workingDir ignored (repositoryFor files workingDir ignore) pattern) ∧
      (∀ set, resolve files workingDir patterns ignore = .ok set →
        .stdin ∉ set.specs ∧ set.identifiers.Nodup ∧
        set.specs = (patterns.flatMap (contribution files workingDir ignored
          (repositoryFor files workingDir ignore))).eraseDups.map .path) ∧
      ∀ error, resolve files workingDir patterns ignore = .error error →
        ∃ before pattern after, patterns = before ++ pattern :: after ∧
          (∀ earlier ∈ before,
            Serves files workingDir ignored (repositoryFor files workingDir ignore) earlier) ∧
          ¬Serves files workingDir ignored (repositoryFor files workingDir ignore) pattern ∧
          error = fault files workingDir pattern) := by
  rw [← asksForStdin_iff]
  constructor
  · intro asks
    exact ⟨.stdin, by simp only [resolve, asks, if_true], rfl⟩
  · -- The patterns are served one by one, up to the first that does not serve.
    intro names ignored compiled
    rw [resolve_of_compiled names compiled]
    rcases resolveAll_cases patterns with
      ⟨all, done⟩ | ⟨before, pattern, after, same, earlier, useless, failed⟩
    · rw [done, Except.map]
      refine ⟨⟨fun _ => all, fun _ => ⟨_, rfl⟩⟩, ?_, by simp⟩
      rintro set answered
      obtain rfl := Except.ok.inj answered
      have specs := FileSet.specs_insertAll_paths (patterns.flatMap
        (contribution files workingDir ignored (repositoryFor files workingDir ignore)))
      exact ⟨by simp [specs], FileSet.distinct _, specs⟩
    · rw [failed, Except.map]
      refine ⟨⟨by simp, fun all => absurd (all pattern ?_) useless⟩, by simp, ?_⟩
      · simp [same]
      · rintro error answered
        exact ⟨before, pattern, after, same, earlier, useless, (Except.error.inj answered).symm⟩

/-- A repository in which two templates differ by the lean of a slash, and git excludes one. -/
def slashedDisk : FileSystem :=
  ⟨[(["p"], .directory), (["p", ".git"], .directory),
    (["p", ".git", "HEAD"], .file (.text "ref: refs/heads/main") false),
    (["p", ".git", "objects"], .directory),
    (["p", ".git", "refs"], .directory), (["p", ".gitignore"], .file (.text "a?b.hbs\n") false),
    (["p", "a"], .directory), (["p", "a", "b.hbs"], .file (.text "y") false),
    (["p", "a\\b.hbs"], .file (.text "x") false)]⟩

/-- A template is found by its name and by a pattern, and linted once. -/
theorem resolve_law_sample :
    ¬(["a/b.hbs", "a/*.hbs"] = [] ∨ "-" ∈ ["a/b.hbs", "a/*.hbs"] ∨
      stdinName ∈ ["a/b.hbs", "a/*.hbs"]) ∧
    (∃ ignored set, IgnoreSpec.defaults.compile = .ok ignored ∧
      resolve slashedDisk "/p" ["a/b.hbs", "a/*.hbs"] .defaults = .ok set ∧
      Serves slashedDisk "/p" ignored (repositoryFor slashedDisk "/p" .defaults) "a/*.hbs" ∧
      set.specs = [.path "a/b.hbs"]) ∧
    ∃ set, resolve slashedDisk "/p" ["a/b.hbs", "-"] .defaults = .ok set ∧
      set.specs = [.stdin] := by
  have files : ¬(["a/b.hbs", "a/*.hbs"] = [] ∨ "-" ∈ ["a/b.hbs", "a/*.hbs"] ∨
      stdinName ∈ ["a/b.hbs", "a/*.hbs"]) := by
    decide
  have compiles : IgnoreSpec.defaults.compile.toOption.map List.length = some 3 := by
    decide +kernel
  have answers : (resolve slashedDisk "/p" ["a/b.hbs", "a/*.hbs"] .defaults).toOption.map
      FileSet.specs = some [.path "a/b.hbs"] := by
    decide +kernel
  refine ⟨files, ?_, (resolve_law slashedDisk "/p" ["a/b.hbs", "-"] .defaults).1 (by decide)⟩
  obtain ⟨ignored, compiled, _⟩ := Effect.exists_of_toOption_map compiles
  obtain ⟨set, resolved, specs⟩ := Effect.exists_of_toOption_map answers
  have law := (resolve_law slashedDisk "/p" ["a/b.hbs", "a/*.hbs"] .defaults).2 files ignored
    compiled
  exact ⟨ignored, set, compiled, resolved, law.1.mp ⟨set, resolved⟩ "a/*.hbs" (by simp), specs⟩

/-- What is reported when no file is found for a pattern. -/
def unmatched? : Except LintError FileSet → Option String
  | .error (.noFilesMatched pattern) => some pattern
  | _ => none

/--
Git excludes the first of two paths with one identifier and not the second, and nothing is found: a
template that passes all three filters does not make its pattern serve.
-/
theorem first_path_excluded :
    (found slashedDisk "/p" "\x7ba\\b.hbs,a/b.hbs\x7d").toOption =
      some [["/p/a\\b.hbs"], ["/p/a/b.hbs"]] ∧
    slashedDisk.isFile "/p/a/b.hbs" = true ∧ isTemplate "/p/a/b.hbs" = true ∧
    identifier "/p" "/p/a/b.hbs" = "a/b.hbs" ∧
    IgnoreSpec.defaults.compile.toOption.map (isIgnored · "a/b.hbs") = some false ∧
    (repositoryFor slashedDisk "/p" .defaults).map
      (·.excluded slashedDisk ["/p/a\\b.hbs", "/p/a/b.hbs"]) = some ["/p/a\\b.hbs"] ∧
    unmatched? (resolve slashedDisk "/p" ["\x7ba\\b.hbs,a/b.hbs\x7d"] .defaults) =
      some "\x7ba\\b.hbs,a/b.hbs\x7d" := by
  refine ⟨?_, ?_, ?_, ?_, ?_, ?_, ?_⟩ <;> decide +kernel

end TemplateLint
