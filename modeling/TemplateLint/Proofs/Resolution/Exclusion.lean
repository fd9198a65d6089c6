import Mathlib.Data.List.Sublists
import TemplateLint.Proofs.Resolution.Law

/-!
Patterns of files to leave out are a filter: they take files away from what is linted without them,
by whatever path or pattern these are named, and neither add a file nor change the order.
-/

namespace TemplateLint

/-- Among the first items of each key those of wanted keys are the first of the wanted items. -/
theorem eraseDupsBy_filter {α β : Type} [BEq β] [LawfulBEq β] (key : α → β) (wanted : β → Bool)
    (items : List α) :
    (items.filter fun item => wanted (key item)).eraseDupsBy
        (fun later first => key later == key first) =
      (items.eraseDupsBy fun later first => key later == key first).filter
        fun item => wanted (key item) := by
  -- What is left after the first item is no tail of the list, so the induction is on the length.
  induction size : items.length using Nat.strongRecOn generalizing items with
  | ind length ih =>
    cases items with
    | nil => rfl
    | cons first later =>
      have shorter : (later.filter fun item => (key item == key first) = false).length < length := by
        rw [← size, List.length_cons]
        exact Nat.lt_succ_of_le (List.length_filter_le _ _)
      have rest := ih _ shorter _ rfl
      rw [List.eraseDupsBy_cons]
      cases known : wanted (key first) with
      | true =>
        rw [List.filter_cons_of_pos (by simpa using known), List.eraseDupsBy_cons,
          List.filter_cons_of_pos (by simpa using known), ← rest, List.filter_filter,
          List.filter_filter]
        refine congrArg (first :: List.eraseDupsBy _ ·) (List.filter_congr fun item _ => ?_)
        exact Bool.and_comm _ _
      | false =>
        -- No wanted item has the key of the first one, so none is dropped on its account.
        rw [List.filter_cons_of_neg (by simp [known]), List.filter_cons_of_neg (by simp [known]),
          ← rest, List.filter_filter]
        refine congrArg (List.eraseDupsBy _ ·) (List.filter_congr fun item _ => ?_)
        by_cases same : key item = key first
        · simp [same, known]
        · simp [same]

namespace IgnoreSpec

/-- The patterns that are compiled are those that the texts write. -/
theorem mem_of_compile {globs : List String} {ignored : List GlobPattern}
    (compiled : (patterns globs).compile = .ok ignored) {pattern : GlobPattern} :
    pattern ∈ ignored ↔ ∃ glob ∈ globs, GlobPattern.parse glob = .ok pattern := by
  induction globs generalizing ignored with
  | nil =>
    obtain rfl : [] = ignored := Except.ok.inj compiled
    simp
  | cons glob later ih =>
    rw [compile, List.mapM_cons] at compiled
    -- Patterns are compiled in order, and the first that cannot be ends it.
    cases parsed : GlobPattern.parse glob with
    | error fault => simp [parsed, bind, Except.bind] at compiled
    | ok first =>
      cases rest : (patterns later).compile with
      | error error =>
        rw [compile] at rest
        simp [parsed, rest, bind, Except.bind] at compiled
      | ok others =>
        have own := ih rest
        rw [compile] at rest
        obtain rfl : first :: others = ignored := by
          simpa [parsed, rest, bind, Except.bind, pure, Except.pure] using compiled
        simp [own, parsed, eq_comm]

end IgnoreSpec

namespace Resolution

/-- More patterns leave out what fewer leave out. -/
theorem isIgnored_of_subset {globs wider : List String} {ignored widened : List GlobPattern}
    (within : globs ⊆ wider) (compiled : (IgnoreSpec.patterns globs).compile = .ok ignored)
    (compiledWider : (IgnoreSpec.patterns wider).compile = .ok widened) {name : String}
    (left : isIgnored ignored name = true) : isIgnored widened name = true := by
  obtain ⟨pattern, member, accepts⟩ := List.any_eq_true.mp left
  obtain ⟨glob, given, parsed⟩ := (IgnoreSpec.mem_of_compile compiled).mp member
  exact List.any_eq_true.mpr
    ⟨pattern, (IgnoreSpec.mem_of_compile compiledWider).mpr ⟨glob, within given, parsed⟩, accepts⟩

section Exclusion

variable {files : FileSystem} {workingDir : String} {ignored : List GlobPattern}
  {repository : Option Ignore.Repository}

/-- The paths that no pattern of a list leaves out. -/
def admits (ignored : List GlobPattern) (name : String) : Bool :=
  !isIgnored ignored name

/-- To ask for all that is not left out is to filter by the identifier. -/
theorem firstTemplates_eq_filter (paths : List String) :
    firstTemplates files workingDir ignored paths =
      (firstTemplates files workingDir [] paths).filter fun entry => admits ignored entry.1 := by
  unfold firstTemplates
  rw [← eraseDupsBy_filter Prod.fst (admits ignored)]
  refine congrArg (List.eraseDupsBy _ ·) ?_
  simp [templates, admits, isIgnored]

/-- Git says of each of some templates what it says of that one alone, in whatever company. -/
def AnswersApart (files : FileSystem) (repository : Option Ignore.Repository)
    (entries : List (String × String)) : Prop :=
  ∀ batch, batch.Sublist entries → ∀ entry ∈ batch,
    (entry.2 ∈ gitExcluded files repository batch ↔
      entry.2 ∈ gitExcluded files repository [entry])

/-- Of templates that git judges one by one, those are kept that are kept with nothing left out. -/
theorem kept_eq_filter {paths : List String}
    (apart : AnswersApart files repository (firstTemplates files workingDir [] paths)) :
    kept files workingDir ignored repository paths =
      (kept files workingDir [] repository paths).filter (admits ignored) := by
  have judged : ∀ batch : List (String × String),
      batch.Sublist (firstTemplates files workingDir [] paths) →
      (batch.filter fun entry => !(gitExcluded files repository batch).contains entry.2) =
        batch.filter fun entry => !(gitExcluded files repository [entry]).contains entry.2 := by
    intro batch within
    refine List.filter_congr fun entry member => ?_
    have verdict := apart batch within entry member
    rw [← List.contains_iff_mem, ← List.contains_iff_mem, ← Bool.eq_iff_iff] at verdict
    rw [verdict]
  have fewer : firstTemplates files workingDir ignored paths = _ := firstTemplates_eq_filter paths
  -- Git is asked about fewer templates, and answers about each of them as before.
  simp only [kept, fewer]
  rw [judged _ List.filter_sublist, judged _ (List.Sublist.refl _), List.filter_map,
    List.filter_filter, List.filter_filter]
  refine congrArg (List.map Prod.fst ·) (List.filter_congr fun entry _ => ?_)
  exact Bool.and_comm _ _

/-- Git judges the templates that a pattern leads to one by one; of a file it is not asked. -/
def JudgedApart (files : FileSystem) (workingDir : String)
    (repository : Option Ignore.Repository) (pattern : String) : Prop :=
  isLiteral files workingDir pattern = false →
    ∀ paths, found files workingDir pattern = .ok paths →
      AnswersApart files repository (firstTemplates files workingDir [] paths.flatten)

/-- A pattern that is no path leads to some templates, and all of them are left out. -/
def WhollyIgnored (files : FileSystem) (workingDir : String) (ignored : List GlobPattern)
    (repository : Option Ignore.Repository) (pattern : String) : Prop :=
  isLiteral files workingDir pattern = false ∧
    ∃ names, expand files workingDir [] repository pattern = .ok names ∧
      ∀ name ∈ names, isIgnored ignored name = true

/-- What a pattern adds is filtered, whether it is a path or leads to templates. -/
theorem contribution_eq_filter {pattern : String}
    (apart : JudgedApart files workingDir repository pattern) :
    contribution files workingDir ignored repository pattern =
      (contribution files workingDir [] repository pattern).filter (admits ignored) := by
  unfold contribution
  split
  · -- The text of the path is its identifier, so both ways ask the same.
    have named : isIgnored [] pattern = false := rfl
    rw [named, if_neg Bool.false_ne_true, List.filter_singleton, admits]
    cases isIgnored ignored pattern <;> rfl
  · rename_i glob
    cases matched : found files workingDir pattern with
    | error fault => rfl
    | ok paths => exact kept_eq_filter (apart (Bool.eq_false_iff.mpr glob) paths matched)

/-- A pattern serves with files left out if it serves without, and not all it leads to is left out. -/
theorem serves_iff {pattern : String} (apart : JudgedApart files workingDir repository pattern) :
    Serves files workingDir ignored repository pattern ↔
      Serves files workingDir [] repository pattern ∧
        ¬WhollyIgnored files workingDir ignored repository pattern := by
  unfold Serves WhollyIgnored
  rw [expand_eq_kept]
  by_cases literal : isLiteral files workingDir pattern = true
  · simp [literal]
  · have glob := Bool.eq_false_iff.mpr literal
    cases matched : found files workingDir pattern with
    | error fault => simp [literal]
    | ok paths =>
      -- Something is kept of the templates unless the filter takes all of them.
      have none : kept files workingDir ignored repository paths.flatten = [] ↔
          ∀ name ∈ kept files workingDir [] repository paths.flatten,
            isIgnored ignored name = true := by
        rw [kept_eq_filter (apart glob paths matched), List.filter_eq_nil_iff]
        simp [admits]
      have fewer : kept files workingDir [] repository paths.flatten = [] →
          kept files workingDir ignored repository paths.flatten = [] := by
        intro empty
        rw [kept_eq_filter (apart glob paths matched), empty, List.filter_nil]
      simp only [literal, Bool.false_eq_true, false_or, Except.ok.injEq, exists_eq_left', true_and,
        ← none]
      exact ⟨fun some => ⟨fun empty => some (fewer empty), some⟩, And.right⟩

/-- Where all that a pattern leads to is left out, no file is found for it. -/
theorem fault_of_whollyIgnored {pattern : String}
    (wholly : WhollyIgnored files workingDir ignored repository pattern) :
    fault files workingDir pattern = .noFilesMatched pattern := by
  obtain ⟨_, names, expanded, _⟩ := wholly
  rw [expand_eq_kept] at expanded
  unfold fault
  cases matched : found files workingDir pattern with
  | error fault => simp [matched] at expanded
  | ok paths => rfl

/-- Patterns that serve with files left out serve without, and what they add is filtered. -/
theorem added_eq_filter {patterns : List String}
    (apart : ∀ pattern ∈ patterns, JudgedApart files workingDir repository pattern) :
    (patterns.flatMap (contribution files workingDir ignored repository)).eraseDups =
      (patterns.flatMap (contribution files workingDir [] repository)).eraseDups.filter
        (admits ignored) := by
  have each : patterns.flatMap (contribution files workingDir ignored repository) =
      (patterns.flatMap (contribution files workingDir [] repository)).filter (admits ignored) := by
    rw [List.filter_flatMap]
    exact List.flatMap_congr fun pattern member => contribution_eq_filter (apart pattern member)
  rw [each]
  exact eraseDupsBy_filter id (admits ignored) _

/-- Patterns of which more leave out what fewer do add what is left of what the fewer add. -/
theorem added_eq_filter_of_imp {widened : List GlobPattern} {patterns : List String}
    (apart : ∀ pattern ∈ patterns, JudgedApart files workingDir repository pattern)
    (more : ∀ name, isIgnored ignored name = true → isIgnored widened name = true) :
    (patterns.flatMap (contribution files workingDir widened repository)).eraseDups =
      (patterns.flatMap (contribution files workingDir ignored repository)).eraseDups.filter
        (admits widened) := by
  have narrow := @added_eq_filter files workingDir ignored repository patterns apart
  rw [added_eq_filter apart, narrow, List.filter_filter]
  refine List.filter_congr fun name _ => ?_
  -- What the more of them admit, the fewer admit.
  cases left : isIgnored ignored name with
  | true => simp [admits, more name left]
  | false => simp [admits, left]

end Exclusion

variable {files : FileSystem} {workingDir : String} {patterns : List String} {ignore : IgnoreSpec}
  {ignored : List GlobPattern}

/-- What is resolved are the things that the patterns add, each once, and all patterns serve. -/
theorem resolve_eq_ok (names : ¬asksForStdin patterns = true)
    (compiled : ignore.compile = .ok ignored) {found : List String} :
    (∃ set, resolve files workingDir patterns ignore = .ok set ∧ set.identifiers = found) ↔
      (∀ pattern ∈ patterns,
        Serves files workingDir ignored (repositoryFor files workingDir ignore) pattern) ∧
      (patterns.flatMap (contribution files workingDir ignored
        (repositoryFor files workingDir ignore))).eraseDups = found := by
  rw [resolve_of_compiled names compiled]
  -- All patterns serve and their contributions are the set, or one of them does not and nothing is
  -- resolved.
  rcases @resolveAll_cases files workingDir ignored (repositoryFor files workingDir ignore)
    patterns with ⟨all, done⟩ | ⟨before, pattern, after, rfl, _, useless, failed⟩
  · have specs := FileSet.specs_insertAll_paths (patterns.flatMap
      (contribution files workingDir ignored (repositoryFor files workingDir ignore)))
    have same : ∀ paths : List String, (paths.map FileSpec.path).map FileSpec.identifier = paths := by
      intro paths
      simp [Function.comp_def, FileSpec.identifier]
    simp only [done, Except.map, Except.ok.injEq, exists_eq_left', FileSet.identifiers, specs, same]
    exact (and_iff_right all).symm
  · simp only [failed, Except.map, reduceCtorEq, false_and, exists_false, false_iff, not_and]
    exact fun all => absurd (all pattern (by simp)) useless

/-- What fails to be resolved fails for the first pattern that does not serve. -/
theorem resolve_eq_error (names : ¬asksForStdin patterns = true)
    (compiled : ignore.compile = .ok ignored) {error : LintError}
    (failed : resolve files workingDir patterns ignore = .error error) :
    ∃ before pattern after, patterns = before ++ pattern :: after ∧
      (∀ earlier ∈ before,
        Serves files workingDir ignored (repositoryFor files workingDir ignore) earlier) ∧
      ¬Serves files workingDir ignored (repositoryFor files workingDir ignore) pattern ∧
      error = fault files workingDir pattern := by
  rw [resolve_of_compiled names compiled] at failed
  -- Only the first pattern that does not serve makes it fail.
  rcases @resolveAll_cases files workingDir ignored (repositoryFor files workingDir ignore)
    patterns with ⟨_, done⟩ | ⟨before, pattern, after, same, earlier, useless, stopped⟩
  · simp [done, Except.map] at failed
  · rw [stopped, Except.map] at failed
    exact ⟨before, pattern, after, same, earlier, useless, (Except.error.inj failed).symm⟩

section Ignoring

variable {globs : List String}

/-- The files that are left out by patterns are excluded by git as they are without them. -/
theorem resolve_patterns_eq_ok (names : ¬asksForStdin patterns = true)
    (compiled : (IgnoreSpec.patterns globs).compile = .ok ignored) {set : FileSet}
    (done : resolve files workingDir patterns (.patterns globs) = .ok set) :
    (∀ pattern ∈ patterns,
      Serves files workingDir ignored (Ignore.Repository.find? files workingDir) pattern) ∧
    (patterns.flatMap (contribution files workingDir ignored
      (Ignore.Repository.find? files workingDir))).eraseDups = set.identifiers :=
  (resolve_eq_ok names compiled).mp ⟨set, done, rfl⟩

/-- What is resolved with fewer patterns left out is found again with more, and filtered. -/
theorem resolve_fewer (names : ¬asksForStdin patterns = true)
    (compiled : (IgnoreSpec.patterns globs).compile = .ok ignored)
    (apart : ∀ pattern ∈ patterns,
      JudgedApart files workingDir (Ignore.Repository.find? files workingDir) pattern)
    {wider : List String} {widened : List GlobPattern} (within : globs ⊆ wider)
    (compiledWider : (IgnoreSpec.patterns wider).compile = .ok widened) {set : FileSet}
    (done : resolve files workingDir patterns (.patterns wider) = .ok set) :
    ∃ base, resolve files workingDir patterns (.patterns globs) = .ok base ∧
      set.identifiers = base.identifiers.filter (admits widened) := by
  obtain ⟨serve, same⟩ := resolve_patterns_eq_ok names compiledWider done
  have more : ∀ name, isIgnored ignored name = true → isIgnored widened name = true :=
    fun _ => isIgnored_of_subset within compiled compiledWider
  -- What leads to nothing else with fewer patterns does so with more.
  have serves : ∀ pattern ∈ patterns, Serves files workingDir ignored
      (Ignore.Repository.find? files workingDir) pattern := by
    intro pattern member
    obtain ⟨without, some⟩ := (serves_iff (apart pattern member)).mp (serve pattern member)
    refine (serves_iff (apart pattern member)).mpr ⟨without, fun ignores => some ?_⟩
    obtain ⟨glob, expanded, all, left⟩ := ignores
    exact ⟨glob, expanded, all, fun name inside => more name (left name inside)⟩
  obtain ⟨base, fewer, all⟩ := (resolve_eq_ok names compiled).mpr ⟨serves, rfl⟩
  refine ⟨base, fewer, ?_⟩
  rw [← same, all]
  exact added_eq_filter_of_imp apart more

/-- A pattern that serves, but not with some files left out, leads to none but these. -/
theorem whollyIgnored_of_not_serves {repository : Option Ignore.Repository} {pattern : String}
    (apart : JudgedApart files workingDir repository pattern)
    (serves : Serves files workingDir [] repository pattern)
    (useless : ¬Serves files workingDir ignored repository pattern) :
    WhollyIgnored files workingDir ignored repository pattern := by
  rw [serves_iff apart, not_and_not_right] at useless
  exact useless serves

/-- Where all serve with none left out, the first that leads to none but those left out is reported. -/
theorem first_whollyIgnored (names : ¬asksForStdin patterns = true)
    (compiled : (IgnoreSpec.patterns globs).compile = .ok ignored)
    (apart : ∀ pattern ∈ patterns,
      JudgedApart files workingDir (Ignore.Repository.find? files workingDir) pattern)
    (serve : ∀ pattern ∈ patterns,
      Serves files workingDir [] (Ignore.Repository.find? files workingDir) pattern)
    {error : LintError}
    (failed : resolve files workingDir patterns (.patterns globs) = .error error) :
    ∃ before pattern after, patterns = before ++ pattern :: after ∧
      (∀ earlier ∈ before, ¬WhollyIgnored files workingDir ignored
        (Ignore.Repository.find? files workingDir) earlier) ∧
      WhollyIgnored files workingDir ignored (Ignore.Repository.find? files workingDir) pattern ∧
      error = .noFilesMatched pattern := by
  obtain ⟨before, pattern, after, same, earlier, useless, rfl⟩ :=
    resolve_eq_error names compiled failed
  have member : pattern ∈ patterns := by simp [same]
  -- Without the ignored names the pattern would serve, so it is these that leave nothing of it.
  have ignores := whollyIgnored_of_not_serves (apart pattern member) (serve pattern member) useless
  refine ⟨before, pattern, after, same, ?_, ignores, fault_of_whollyIgnored ignores⟩
  intro other inside
  exact ((serves_iff (apart other (by simp [same, inside]))).mp (earlier other inside)).2

end Ignoring

end Resolution

open Resolution

variable {files : FileSystem} {workingDir : String} {patterns : List String}

/--
To leave files out by patterns is to filter what is resolved with none left out. What is resolved
with them is resolved without, and less what they match it is the same in the same order, be a file
named by its path or found by a pattern. What is resolved without them fails with them exactly when
some pattern leads to nothing but files that they match, and the first such pattern is reported. So
more of them never bring about a file or another order.
-/
theorem resolve_ignoring (names : ¬asksForStdin patterns = true) {globs : List String}
    {ignored : List GlobPattern} (compiled : (IgnoreSpec.patterns globs).compile = .ok ignored)
    (apart : ∀ pattern ∈ patterns,
      JudgedApart files workingDir (Ignore.Repository.find? files workingDir) pattern) :
    (∀ set, resolve files workingDir patterns (.patterns globs) = .ok set →
      ∃ whole, resolve files workingDir patterns (.patterns []) = .ok whole ∧
        set.identifiers = whole.identifiers.filter fun name => !isIgnored ignored name) ∧
    (∀ whole, resolve files workingDir patterns (.patterns []) = .ok whole →
      ((∃ error, resolve files workingDir patterns (.patterns globs) = .error error) ↔
        ∃ pattern ∈ patterns, WhollyIgnored files workingDir ignored
          (Ignore.Repository.find? files workingDir) pattern) ∧
      ∀ error, resolve files workingDir patterns (.patterns globs) = .error error →
        ∃ before pattern after, patterns = before ++ pattern :: after ∧
          (∀ earlier ∈ before, ¬WhollyIgnored files workingDir ignored
            (Ignore.Repository.find? files workingDir) earlier) ∧
          WhollyIgnored files workingDir ignored (Ignore.Repository.find? files workingDir)
            pattern ∧
          error = .noFilesMatched pattern) ∧
    ∀ wider widened, globs ⊆ wider → (IgnoreSpec.patterns wider).compile = .ok widened →
      ∀ set, resolve files workingDir patterns (.patterns wider) = .ok set →
        ∃ base, resolve files workingDir patterns (.patterns globs) = .ok base ∧
          set.identifiers = base.identifiers.filter fun name => !isIgnored widened name := by
  have plain : (IgnoreSpec.patterns []).compile = .ok [] := rfl
  refine ⟨?_, ?_, ?_⟩
  · intro set done
    exact resolve_fewer names plain apart (List.nil_subset _) compiled done
  · intro whole without
    have serve := (resolve_patterns_eq_ok names plain without).1
    refine ⟨⟨?_, ?_⟩, fun error => first_whollyIgnored names compiled apart serve⟩
    · rintro ⟨error, failed⟩
      obtain ⟨before, pattern, after, same, _, ignores, _⟩ :=
        first_whollyIgnored names compiled apart serve failed
      exact ⟨pattern, by simp [same], ignores⟩
    · rintro ⟨pattern, member, ignores⟩
      cases outcome : resolve files workingDir patterns (.patterns globs) with
      | error error => exact ⟨error, rfl⟩
      | ok set =>
        -- What is resolved needs every pattern to serve.
        have serves := (resolve_patterns_eq_ok names compiled outcome).1 pattern member
        exact absurd ignores ((serves_iff (apart pattern member)).mp serves).2
  · intro wider widened within compiledWider set done
    exact resolve_fewer names compiled apart within compiledWider done

/-- A repository of three templates, of which git excludes one. -/
def excludingDisk : FileSystem :=
  ⟨[(["p"], .directory), (["p", ".git"], .directory),
    (["p", ".git", "HEAD"], .file (.text "ref: refs/heads/main") false),
    (["p", ".git", "objects"], .directory),
    (["p", ".git", "refs"], .directory), (["p", ".gitignore"], .file (.text "made.hbs\n") false),
    (["p", "a.hbs"], .file (.text "x") false), (["p", "b.hbs"], .file (.text "y") false),
    (["p", "made.hbs"], .file (.text "z") false)]⟩

/-- Git judges the templates of the repository one by one. -/
theorem judgedApart_excludingDisk :
    ∀ pattern ∈ ["a.hbs", "*.hbs"], JudgedApart excludingDisk "/p"
      (Ignore.Repository.find? excludingDisk "/p") pattern := by
  have matched : (found excludingDisk "/p" "*.hbs").toOption =
      some [["/p/a.hbs", "/p/b.hbs", "/p/made.hbs"]] := by
    decide +kernel
  have verdicts : ∀ batch ∈ (firstTemplates excludingDisk "/p" []
      ["/p/a.hbs", "/p/b.hbs", "/p/made.hbs"]).sublists, ∀ entry ∈ batch,
      (entry.2 ∈ gitExcluded excludingDisk (Ignore.Repository.find? excludingDisk "/p") batch ↔
        entry.2 ∈ gitExcluded excludingDisk (Ignore.Repository.find? excludingDisk "/p")
          [entry]) := by
    decide +kernel
  intro pattern member glob paths same batch within
  have named : isLiteral excludingDisk "/p" "a.hbs" = true := by decide +kernel
  -- A literal name matches nothing more; what the other pattern matches is a finite number of
  -- batches.
  rcases List.mem_cons.mp member with rfl | other
  · rw [named] at glob
    simp at glob
  · obtain rfl := List.mem_singleton.mp other
    rw [same, Except.toOption, Option.some.injEq] at matched
    subst matched
    exact verdicts batch (List.mem_sublists.mpr within)

/-- A template that is named and found is left out both ways, and what git excludes stays excluded. -/
theorem resolve_ignoring_sample :
    ¬asksForStdin ["a.hbs", "*.hbs"] = true ∧
    ∃ ignored set whole, (IgnoreSpec.patterns ["a*"]).compile = .ok ignored ∧
      resolve excludingDisk "/p" ["a.hbs", "*.hbs"] (.patterns ["a*"]) = .ok set ∧
      resolve excludingDisk "/p" ["a.hbs", "*.hbs"] (.patterns []) = .ok whole ∧
      set.identifiers = ["b.hbs"] ∧
      set.identifiers = whole.identifiers.filter fun name => !isIgnored ignored name := by
  have names : ¬asksForStdin ["a.hbs", "*.hbs"] = true := by decide
  have compiles : (IgnoreSpec.patterns ["a*"]).compile.toOption.map List.length = some 1 := by
    decide +kernel
  have answers : (resolve excludingDisk "/p" ["a.hbs", "*.hbs"]
      (.patterns ["a*"])).toOption.map FileSet.identifiers = some ["b.hbs"] := by
    decide +kernel
  obtain ⟨ignored, compiled, _⟩ := Effect.exists_of_toOption_map compiles
  obtain ⟨set, resolved, identifiers⟩ := Effect.exists_of_toOption_map answers
  obtain ⟨whole, without, same⟩ :=
    (resolve_ignoring names compiled judgedApart_excludingDisk).1 set resolved
  exact ⟨names, ignored, set, whole, compiled, resolved, without, identifiers, same⟩

end TemplateLint
