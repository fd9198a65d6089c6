import TemplateLint.Proofs.Files.FileName
import TemplateLint.Proofs.Glob.Expansion
import TemplateLint.Proofs.Ignore.Rules
import TemplateLint.Resolution
import TemplateLint.Todo.Store

/-! The files to lint are the same before and after the log of todos has appeared. -/

namespace TemplateLint

namespace Resolution

/-- A file whose name ends in a letter that no extension of templates ends in is no template. -/
theorem isTemplate_of_fileName? {path : String} {name : List Char} {c : Char}
    (named : Path.fileName? path = some name) (last : name.getLast? = some c) (noPoint : c ≠ '.')
    (other : c.toLower ≠ 's') : isTemplate path = false := by
  unfold isTemplate
  split
  · rename_i extension found
    have ends := Path.extension?_getLast? named last noPoint found
    obtain ⟨before, rfl⟩ := List.getLast?_eq_some_iff.mp ends
    -- The extensions of templates end in an s.
    rw [Bool.eq_false_iff]
    intro known
    have member := List.elem_iff.mp known
    simp only [extensions, List.map_append, List.map_cons, List.map_nil] at member
    rcases List.mem_cons.mp member with same | later
    · have letters := congrArg List.getLast? same
      rw [List.getLast?_concat] at letters
      exact other (by simpa using letters)
    · have letters := congrArg List.getLast? (List.mem_singleton.mp later)
      rw [List.getLast?_concat] at letters
      exact other (by simpa using letters)
  · rfl

/-- The log's path ends in a letter that no template's ends in. -/
theorem getLast?_of_suffix {path : String} (suffix : todoLogFile.toList <:+ path.toList) :
    path.toList.getLast? = some 'o' := by
  obtain ⟨before, same⟩ := suffix
  rw [← same, List.getLast?_append]
  rfl

/-- A path that ends in the log's name is no template. -/
theorem isTemplate_of_suffix {path : String} (suffix : todoLogFile.toList <:+ path.toList) :
    isTemplate path = false := by
  obtain ⟨name, named, last⟩ :=
    Path.fileName?_of_getLast? (getLast?_of_suffix suffix) (by decide) (by decide)
  exact isTemplate_of_fileName? named last (by decide) (by decide)

/-- A file whose identifier ends in a letter that no extension of templates ends in is no template. -/
theorem isTemplate_of_identifier {workingDir path : String} {c : Char}
    (last : (identifier workingDir path).toList.getLast? = some c) (noSlash : c ≠ '/')
    (noPoint : c ≠ '.') (other : c.toLower ≠ 's') : isTemplate path = false := by
  -- Turning slashes round leaves the letter at the end.
  have relative : ((Path.relativeTo? workingDir path).getD path).toList.getLast? = some c := by
    simp only [identifier, String.toList_ofList, List.getLast?_map, Option.map_eq_some_iff] at last
    obtain ⟨d, found, turned⟩ := last
    split at turned
    · exact absurd turned.symm noSlash
    · rw [found, turned]
  have named : ∃ name, Path.fileName? path = some name ∧ name.getLast? = some c := by
    cases seen : Path.relativeTo? workingDir path with
    | none =>
      rw [seen] at relative
      exact Path.fileName?_of_getLast? relative noSlash noPoint
    | some whole =>
      rw [seen] at relative
      exact Path.fileName?_of_relativeTo? seen relative noSlash noPoint
  obtain ⟨name, named, ends⟩ := named
  exact isTemplate_of_fileName? named ends noPoint other

/-- The name of a template does not lead to a path that ends in the log's name. -/
theorem not_suffix_identifier {workingDir path : String} (template : isTemplate path = true)
    (base : String) :
    ¬todoLogFile.toList <:+ (Path.join base (identifier workingDir path)).toList := by
  intro suffix
  have last := Path.getLast?_of_join (getLast?_of_suffix suffix) (by decide)
  rw [isTemplate_of_identifier last (by decide) (by decide) (by decide)] at template
  simp at template

variable {spot : Location} {files others : FileSystem}

/-- Nobody looking for templates notices that the log has appeared. -/
theorem unnoticed (appears : Appears todoLogFile spot files others) :
    Glob.Unnoticed todoLogFile isTemplate spot files others where
  appears
  named := by decide
  whole := by decide
  proper := by decide
  dropped _ := isTemplate_of_suffix

/-- The templates among all paths that patterns match are those that they were. -/
theorem allPaths_eq (appears : Appears todoLogFile spot files others) (patterns : List String) :
    (allPaths others patterns).map (List.filter isTemplate) =
      (allPaths files patterns).map (List.filter isTemplate) := by
  -- Both disks answer alike to each pattern: the same fault, or the same templates.
  induction patterns with
  | nil => rfl
  | cons pattern later ih =>
    have first := (unnoticed appears).paths_eq pattern
    simp only [allPaths]
    cases before : Glob.paths files pattern with
    | error fault =>
      cases after : Glob.paths others pattern with
      | error other =>
        obtain rfl : other = fault := by simpa [before, after, Except.map] using first
        rfl
      | ok found => simp [before, after, Except.map] at first
    | ok found =>
      cases after : Glob.paths others pattern with
      | error fault => simp [before, after, Except.map] at first
      | ok foundNow =>
        have here : foundNow.filter isTemplate = found.filter isTemplate := by
          simpa [before, after, Except.map] using first
        cases rest : allPaths files later with
        | error error =>
          cases restNow : allPaths others later with
          | error other => simpa [rest, restNow, Except.map] using ih
          | ok more => simp [rest, restNow, Except.map] at ih
        | ok more =>
          cases restNow : allPaths others later with
          | error error => simp [rest, restNow, Except.map] at ih
          | ok moreNow =>
            have there : moreNow.filter isTemplate = more.filter isTemplate := by
              simpa [rest, restNow, Except.map] using ih
            simp only [Except.map, List.filter_append, here, there]

/-- Among the same templates the same are selected. -/
theorem select_eq (appears : Appears todoLogFile spot files others) (workingDir : String)
    (ignored : List GlobPattern) {paths pathsNow : List String}
    (same : pathsNow.filter isTemplate = paths.filter isTemplate) :
    select others workingDir ignored pathsNow = select files workingDir ignored paths := by
  have templates : pathsNow.filter (fun path => others.isFile path && isTemplate path) =
      paths.filter (fun path => files.isFile path && isTemplate path) := by
    rw [← List.filter_filter, ← List.filter_filter, same]
    -- A template has another ending than the log, so its path leads away from it.
    refine List.filter_congr ?_
    intro path member
    have template := (List.mem_filter.mp member).2
    refine appears.isFile_of_away (appears.away_of_other ?_)
    intro suffix
    rw [isTemplate_of_suffix suffix] at template
    simp at template
  simp only [select, templates]

/-- A pattern stands for the absolute patterns that it stood for. -/
theorem alternatives_eq (appears : Appears todoLogFile spot files others)
    (workingDir pattern : String) :
    alternatives others workingDir pattern = alternatives files workingDir pattern := by
  simp only [alternatives, normalize, appears.isDirectory_eq]

/-- A pattern leads to the templates that it led to. -/
theorem expand_eq (appears : Appears todoLogFile spot files others) (workingDir : String)
    (ignored : List GlobPattern) {repository : Option Ignore.Repository}
    (apart : ∀ own, repository = some own → own.root ≠ spot) (pattern : String) :
    expand others workingDir ignored repository pattern =
      expand files workingDir ignored repository pattern := by
  have all := allPaths_eq appears (alternatives files workingDir pattern)
  simp only [expand, alternatives_eq appears]
  -- Only what becomes of the paths is left, and that depends on their templates.
  cases before : allPaths files (alternatives files workingDir pattern) with
  | error error =>
    cases after : allPaths others (alternatives files workingDir pattern) with
    | error other => simpa [before, after, Except.map] using all
    | ok paths => simp [before, after, Except.map] at all
  | ok paths =>
    cases after : allPaths others (alternatives files workingDir pattern) with
    | error error => simp [before, after, Except.map] at all
    | ok pathsNow =>
      have selected := select_eq appears workingDir ignored
        (by simpa [before, after, Except.map] using all)
      cases repository with
      | none => simp only [selected]
      | some own =>
        simp only [selected, Ignore.Repository.excluded_eq appears (by decide) (apart own rfl)]

/-- Patterns that do not lead to the log add the files to lint that they added. -/
theorem resolveAll_eq (appears : Appears todoLogFile spot files others) (workingDir : String)
    (ignored : List GlobPattern) {repository : Option Ignore.Repository}
    (apart : ∀ own, repository = some own → own.root ≠ spot) {patterns : List String}
    (away : ∀ pattern ∈ patterns,
      files.locate (Path.join workingDir pattern) true ≠ .ok (.vacant spot false)) :
    resolveAll others workingDir ignored repository patterns =
      resolveAll files workingDir ignored repository patterns := by
  induction patterns with
  | nil => rfl
  | cons pattern later ih =>
    have here := away pattern List.mem_cons_self
    -- A pattern is taken literally if a file stands at it, which is why it has to lead away.
    have one : resolveOne others workingDir ignored repository pattern =
        resolveOne files workingDir ignored repository pattern := by
      unfold resolveOne isLiteral
      rw [appears.isFile_of_away here, expand_eq appears workingDir ignored apart]
    simp only [resolveAll, one, ih fun other member => away other (List.mem_cons_of_mem _ member)]

end Resolution

namespace FileSet

/-- Each of the things to lint was there or has been put in. -/
theorem mem_insert {files : FileSet} {spec other : FileSpec}
    (member : other ∈ (files.insert spec).specs) : other ∈ files.specs ∨ other = spec := by
  unfold insert at member
  split at member
  · exact .inl member
  · simpa using member

/-- Each of the things to lint was there or is one of those that have been put in. -/
theorem mem_insertAll {files : FileSet} {specs : List FileSpec} {other : FileSpec}
    (member : other ∈ (files.insertAll specs).specs) : other ∈ files.specs ∨ other ∈ specs := by
  induction specs generalizing files with
  | nil => exact .inl member
  | cons spec later ih =>
    -- The induction puts the first one in before the others.
    rcases ih member with before | after
    · rcases mem_insert before with old | rfl
      · exact .inl old
      · exact .inr List.mem_cons_self
    · exact .inr (List.mem_cons_of_mem _ after)

end FileSet

open Resolution

variable {spot : Location} {files others : FileSystem}

/-- The files to lint are those that they were, if no pattern leads to the log itself. -/
theorem resolve_eq (appears : Appears todoLogFile spot files others) {workingDir : String}
    {location : Location} (found : files.find workingDir = .ok location)
    {patterns : List String}
    (away : ∀ pattern ∈ patterns,
      files.locate (Path.join workingDir pattern) true ≠ .ok (.vacant spot false))
    (ignore : IgnoreSpec) :
    resolve others workingDir patterns ignore = resolve files workingDir patterns ignore := by
  obtain ⟨same, apart⟩ := Ignore.Repository.find?_eq appears (by decide) found
  simp only [resolve]
  -- Input from outside and faulty patterns are settled before the disk is asked.
  split
  · rfl
  · split
    · rfl
    · rename_i ignored _
      cases ignore with
      | disabled =>
        have nowhere : ∀ own, (none : Option Ignore.Repository) = some own → own.root ≠ spot := by
          simp
        simp only [resolveAll_eq appears workingDir ignored nowhere away]
      | patterns globs => simp only [same, resolveAll_eq appears workingDir ignored apart away]

/-- What is kept of named entries, each name once, was kept before or is one of them. -/
theorem mem_keepFirst (named entries : List (String × String)) {entry : String × String}
    (member : entry ∈ named.foldl (fun kept entry =>
      if kept.any (·.1 = entry.1) then kept else kept ++ [entry]) entries) :
    entry ∈ entries ∨ entry ∈ named := by
  induction named generalizing entries with
  | nil => exact .inl member
  | cons first later ih =>
    rw [List.foldl_cons] at member
    -- The first entry is kept unless its name is there already.
    rcases ih _ member with before | after
    · split at before
      · exact .inl before
      · rcases List.mem_append.mp before with old | new
        · exact .inl old
        · exact .inr (List.mem_cons.mpr (.inl (List.mem_singleton.mp new)))
    · exact .inr (List.mem_cons_of_mem _ after)

/-- A selected file goes by the identifier of a template. -/
theorem identifier_of_mem_select {workingDir : String} {ignored : List GlobPattern}
    {paths : List String} {entry : String × String}
    (member : entry ∈ select files workingDir ignored paths) :
    ∃ path, isTemplate path = true ∧ entry.1 = identifier workingDir path := by
  rcases mem_keepFirst _ _ member with none | inside
  · simp at none
  · obtain ⟨path, found, rfl⟩ := List.mem_map.mp (List.mem_filter.mp inside).1
    have template := (List.mem_filter.mp found).2
    rw [Bool.and_eq_true] at template
    exact ⟨path, template.2, rfl⟩

/-- What patterns add to the files to lint is none of the paths that lead to the log. -/
theorem away_of_mem_resolveAll
    (alone : ∀ path, files.locate path true = .ok (.vacant spot false) →
      todoLogFile.toList <:+ path.toList) {workingDir : String} {ignored : List GlobPattern}
    {repository : Option Ignore.Repository} {patterns : List String} {specs : List FileSpec}
    (resolved : resolveAll files workingDir ignored repository patterns = .ok specs) :
    ∀ spec ∈ specs, ∃ path, spec = .path path ∧
      files.locate (Path.join workingDir path) true ≠ .ok (.vacant spot false) := by
  induction patterns generalizing specs with
  | nil =>
    obtain rfl : [] = specs := by simpa [resolveAll] using resolved
    simp
  | cons pattern later ih =>
    simp only [resolveAll] at resolved
    split at resolved
    · simp at resolved
    · rename_i here one
      split at resolved
      · simp at resolved
      · rename_i there rest
        obtain rfl : here ++ there = specs := by simpa using resolved
        intro spec member
        rcases List.mem_append.mp member with first | more
        · simp only [resolveOne] at one
          split at one
          · -- A path that stands for itself leads to a file already.
            rename_i literal
            obtain rfl := Except.ok.inj one
            split at first
            · simp at first
            · refine ⟨pattern, by simpa using first, ?_⟩
              intro vacant
              simp only [isLiteral, Bool.and_eq_true] at literal
              simp [FileSystem.isFile, FileSystem.follow?, FileSystem.find, vacant] at literal
          · split at one
            · simp at one
            · simp at one
            · rename_i found expanded
              obtain rfl := Except.ok.inj one
              obtain ⟨path, inside, rfl⟩ := List.mem_map.mp first
              refine ⟨path, rfl, fun vacant => ?_⟩
              simp only [expand] at expanded
              split at expanded
              · simp at expanded
              · obtain rfl := Except.ok.inj expanded
                obtain ⟨entry, kept, rfl⟩ := List.mem_map.mp inside
                obtain ⟨own, template, named⟩ :=
                  identifier_of_mem_select (List.mem_filter.mp kept).1
                have suffix := alone _ vacant
                rw [named] at suffix
                exact not_suffix_identifier template workingDir suffix
        · exact ih rest spec more

/-- The files to lint are found by paths that do not lead to the log. -/
theorem away_of_mem_resolve
    (alone : ∀ path, files.locate path true = .ok (.vacant spot false) →
      todoLogFile.toList <:+ path.toList) {workingDir : String} {patterns : List String}
    {ignore : IgnoreSpec} {set : FileSet} (named : asksForStdin patterns = false)
    (resolved : resolve files workingDir patterns ignore = .ok set) :
    ∀ spec ∈ set.specs, ∃ path, spec = .path path ∧
      files.locate (Path.join workingDir path) true ≠ .ok (.vacant spot false) := by
  simp only [resolve, named, Bool.false_eq_true, if_false] at resolved
  -- A result that is given has passed both checks.
  split at resolved
  · simp at resolved
  · split at resolved
    · simp at resolved
    · rename_i specs all
      obtain rfl := Except.ok.inj resolved
      intro spec member
      rcases FileSet.mem_insertAll member with none | inside
      · simp [FileSet.empty] at none
      · exact away_of_mem_resolveAll alone all spec inside

/-- The files to lint are found by paths when no standard input is asked for. -/
theorem path_of_mem_resolve {workingDir : String} {patterns : List String} {ignore : IgnoreSpec}
    {set : FileSet} (named : asksForStdin patterns = false)
    (resolved : resolve files workingDir patterns ignore = .ok set) :
    ∀ spec ∈ set.specs, ∃ path, spec = .path path := by
  -- No path leads to a free root.
  have nowhere : ∀ path, files.locate path true = .ok (.vacant [] false) →
      todoLogFile.toList <:+ path.toList := by
    intro path free
    have none := FileSystem.locate_vacant free
    simp at none
  intro spec member
  obtain ⟨path, same, _⟩ := away_of_mem_resolve nowhere named resolved spec member
  exact ⟨path, same⟩

end TemplateLint
