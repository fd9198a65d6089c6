import TemplateLint.Proofs.Files.Appearance
import TemplateLint.Proofs.Todo.Timeline

/-!
The log of a project that had none: how it comes to be where nothing was, and what updates of
several files leave in it for each of them.
-/

namespace TemplateLint

/-- Stripping dots from a path takes no move from it. -/
theorem moves_stripDots (afterDot : Bool) (path : List Char) :
    Stride.moves (stripDots afterDot path) = Stride.moves path := by
  induction afterDot, path using stripDots.induct with
  | case1 afterDot rest ih =>
    -- A dot between slashes is no move.
    rw [stripDots, ih]
    exact (Stride.moves_append ['.'] rest).symm
  | case2 rest ih =>
    have stripped : stripDots true ('/' :: rest) = stripDots true rest := by simp [stripDots]
    rw [stripped, ih]
    exact (Stride.moves_append [] rest).symm
  | case3 afterDot rest noDot => simp [stripDots, noDot]
  | case4 afterDot path noDot noSlash =>
    rw [stripDots]
    · exact noDot
    · exact noSlash

/-- After dots a path that is stripped does not start at the root. -/
theorem head?_stripDots_true (path : List Char) : (stripDots true path).head? ≠ some '/' := by
  -- The flag is a variable in the induction, which follows the recursion of the function.
  generalize always : true = afterDot
  induction afterDot, path using stripDots.induct with
  | case1 afterDot rest ih => simpa [stripDots] using ih rfl
  | case2 rest ih => simpa [stripDots] using ih rfl
  | case3 afterDot rest noDot => exact absurd always.symm noDot
  | case4 afterDot path noDot noSlash =>
    rw [stripDots]
    · intro slash
      obtain ⟨rest, same⟩ := List.head?_eq_some_iff.mp slash
      exact noSlash rest same
    · exact noDot
    · exact noSlash

/-- A path that is stripped starts at the root if it did, and if it does not follow dots. -/
theorem head?_stripDots (afterDot : Bool) (path : List Char) :
    (stripDots afterDot path).head? = some '/' ↔ afterDot = false ∧ path.head? = some '/' := by
  cases afterDot with
  | true => simpa using head?_stripDots_true path
  | false =>
    unfold stripDots
    split
    · -- A dot was stripped, so the rest is read as what follows dots.
      simpa using head?_stripDots_true _
    · simp
    · simp

/-- Paths that todos are kept under alike are reached by the same moves from a base. -/
theorem moves_join_of_storageKey {first second : String}
    (same : storageKey first = storageKey second) (base : String) :
    Stride.moves (Path.join base first).toList = Stride.moves (Path.join base second).toList := by
  have stripped : stripDots false first.toList = stripDots false second.toList :=
    String.ofList_injective same
  have absolute : ∀ path, Path.isAbsolute path = true ↔
      (stripDots false path.toList).head? = some '/' := by
    intro path
    simp [Path.isAbsolute, head?_stripDots]
  have moves : Stride.moves first.toList = Stride.moves second.toList := by
    rw [← moves_stripDots false first.toList, stripped, moves_stripDots]
  have both : Path.isAbsolute first = Path.isAbsolute second := by
    rw [Bool.eq_iff_iff, absolute, absolute, stripped]
  -- Whether the base counts depends on the first character, which stripping keeps.
  cases rooted : Path.isAbsolute first with
  | true =>
    rw [Path.join_of_isAbsolute rooted, Path.join_of_isAbsolute (both ▸ rooted), moves]
  | false => rw [Path.moves_join rooted, Path.moves_join (both ▸ rooted), moves]

namespace TodoStore

open Todo Effect Pairing

/-- A disk without the log, on which no path with another ending leads to the log's place. -/
structure Unlogged (store : TodoStore) (files : FileSystem) : Prop where
  unnamed : files.names store.logPath = false
  alone : ∀ spot, files.locate store.logPath true = .ok (.vacant spot false) →
    ∀ path, files.locate path true = .ok (.vacant spot false) →
      todoLogFile.toList <:+ path.toList

/-- Without the log nothing is present at its path. -/
theorem Unlogged.absent {store : TodoStore} {files : FileSystem}
    (unlogged : Unlogged store files) (location : Location) :
    files.locate store.logPath false ≠ .ok (.present location) := by
  intro present
  have named := FileSystem.names_iff.mpr ⟨location, present⟩
  rw [unlogged.unnamed] at named
  simp at named

/-- Without the log its path leads to the same place whether or not a last link counts. -/
theorem Unlogged.locate_eq {store : TodoStore} {files : FileSystem}
    (unlogged : Unlogged store files) :
    files.locate store.logPath true = files.locate store.logPath false :=
  FileSystem.locate_follow unlogged.absent

/-- Without the log nothing stands at its path. -/
theorem Unlogged.follow?_eq_none {store : TodoStore} {files : FileSystem}
    (unlogged : Unlogged store files) : files.follow? store.logPath = none := by
  rw [Option.eq_none_iff_forall_ne_some]
  intro entry stands
  obtain ⟨location, present, _⟩ := FileSystem.follow?_eq_some.mp stands
  rw [unlogged.locate_eq] at present
  exact unlogged.absent location present

/-- The log's path asks for its name in the last step. -/
theorem getLast?_logPath (store : TodoStore) :
    (Stride.ofPath store.logPath.toList).getLast? = some (.down todoLogFile) := by
  rw [logPath, Path.getLast?_ofPath_join (by decide) (by decide)]
  decide

/-- The log's place has the log's name. -/
theorem Unlogged.named {store : TodoStore} {files : FileSystem}
    (unlogged : Unlogged store files) {spot : Location}
    (free : files.locate store.logPath true = .ok (.vacant spot false)) :
    spot.getLast? = some todoLogFile := by
  rw [unlogged.locate_eq] at free
  obtain ⟨name, last, named⟩ := FileSystem.locate_vacant_name free
  rw [getLast?_logPath] at last
  rw [named, ← Stride.down.inj (Option.some.inj last)]

/-- Where there are no links only the log has to be missing. -/
theorem unlogged_of_unlinked {store : TodoStore} {files : FileSystem} (unlinked : files.Unlinked)
    (unnamed : files.names store.logPath = false) : Unlogged store files where
  unnamed
  alone := by
    intro spot free path other
    rw [FileSystem.locate_of_unlinked unlinked] at free other
    obtain ⟨log, last, named⟩ := FileSystem.locate_vacant_name free
    obtain ⟨name, lastOther, namedOther⟩ := FileSystem.locate_vacant_name other
    rw [getLast?_logPath] at last
    obtain rfl := Stride.down.inj (Option.some.inj last)
    -- Both paths name the same spot, so both end in its name.
    obtain rfl : name = todoLogFile := Option.some.inj (namedOther.symm.trans named)
    exact Stride.suffix_of_getLast? lastOther

/-- A file that is made in the log's place appears there under the log's name. -/
theorem Unlogged.appears {store : TodoStore} {files : FileSystem}
    (unlogged : Unlogged store files) {spot : Location}
    (free : files.locate store.logPath true = .ok (.vacant spot false)) (content : Content)
    (executable : Bool) :
    Appears todoLogFile spot files (files.put spot (.file content executable)) where
  free := FileSystem.locate_vacant free
  named := unlogged.named free
  alone := unlogged.alone spot free
  made := ⟨content, executable, rfl⟩

/-- A disk is as it was, or the log has appeared on it. -/
def Grown (store : TodoStore) (files others : FileSystem) : Prop :=
  others = files ∨ ∃ spot, files.locate store.logPath true = .ok (.vacant spot false) ∧
    Appears todoLogFile spot files others

/-- A path leads away from the place where the log would be made. -/
def LeadsAway (store : TodoStore) (files : FileSystem) (path : String) : Prop :=
  ∀ spot, files.locate store.logPath true = .ok (.vacant spot false) →
    files.locate path true ≠ .ok (.vacant spot false)

/-- Whether or not the log has appeared, the text behind a path that leads away is the same. -/
theorem Grown.readText_iff {store : TodoStore} {files others : FileSystem}
    (grown : Grown store files others) {path text : String} (away : store.LeadsAway files path) :
    others.readText path = .ok text ↔ files.readText path = .ok text := by
  rcases grown with rfl | ⟨spot, free, appears⟩
  · rfl
  · exact appears.readText_of_away (away spot free)

/-- Adding to the log changes nothing on the disk but the log. -/
theorem grown_append {store : TodoStore} {files : FileSystem} (unlogged : Unlogged store files)
    {memory left : TodoMemory} (grown : Grown store files memory.files) {more : List Change}
    (added : perform (store.append more) memory = (.ok (), left)) :
    Grown store files left.files := by
  by_cases none : more = []
  · subst none
    obtain rfl : memory = left := (Prod.mk.inj added).2
    exact grown
  · rw [perform_append_of_ne_nil none] at added
    cases changed : memory.files.append store.logPath (.ofList (renderLog more)) with
    | error cause => simp [changed] at added
    | ok made =>
      rw [changed] at added
      obtain rfl := (Prod.mk.inj added).2
      refine .inr ?_
      -- The log is made in its place at first, and after that only its content changes.
      rcases grown with same | ⟨spot, free, appears⟩
      · rw [same] at changed
        obtain ⟨spot, free, rfl, _⟩ := FileSystem.change_fresh unlogged.follow?_eq_none changed
        exact ⟨spot, free, unlogged.appears free _ _⟩
      · obtain ⟨content, executable, put⟩ := appears.made
        have present : memory.files.locate store.logPath true = .ok (.present spot) :=
          (appears.filled store.logPath true).present_iff.mpr (.inr ⟨rfl, free⟩)
        have stands : memory.files.entry? spot = some (.file content executable) := by
          rw [put, FileSystem.entry?_put (FileSystem.nonroot_of_free appears.free), if_pos rfl]
        have renewed : made = files.put spot
            (.file (content.appendText (.ofList (renderLog more))) executable) := by
          rw [FileSystem.append, FileSystem.change, present] at changed
          simp only [stands, Except.ok.injEq] at changed
          rw [← changed, put, FileSystem.put_put]
        refine ⟨spot, free, ?_⟩
        rw [renewed]
        exact unlogged.appears free _ _

/-- An update changes nothing on the disk but the log. -/
theorem grown_update {store : TodoStore} {files : FileSystem} (unlogged : Unlogged store files)
    {memory updated : TodoMemory} {changes : List Change}
    (coherent : store.Coherent memory changes) (grown : Grown store files memory.files)
    {path : String} {findings : List Finding} {decay : Decay} {overriding : Bool} {today : Date}
    {counts : TodoCounts}
    (update : perform (store.update path findings decay overriding today) memory =
      (.ok counts, updated)) : Grown store files updated.files := by
  rw [perform_update coherent] at update
  simp only at update
  -- Which entries are written does not matter, only that they go to the log.
  generalize store.updates _ _ _ _ _ = parts at update
  cases outcome : perform (store.append (parts.1 ++ parts.2))
      (memory.loaded (Todo.live changes)) with
  | mk answer left =>
    rw [outcome] at update
    cases answer with
    | error error => simp at update
    | ok done =>
      obtain rfl : left = updated := (Prod.mk.inj update).2
      have same : Grown store files (memory.loaded (Todo.live changes)).files := grown
      exact grown_append unlogged same outcome

/-- An update of one file leaves the todos of every other file as they are. -/
theorem todosIn_update_other {store : TodoStore} {live : List Todo} {path other : String}
    {findings : List Finding} (separate : Separate path findings) (distinct : Distinct live)
    (decay : Decay) (today : Date) (apart : storageKey path ≠ storageKey other) :
    todosIn (applyAll live ((store.fresh live path findings decay today).map .add ++
        (needless live path findings).map .remove)) other = todosIn live other := by
  have noneNew : (store.fresh live path findings decay today).filter
      (fun todo => sameFile todo.filePath other) = [] := by
    refine List.filter_eq_nil_iff.mpr ?_
    intro todo member same
    have key := key_of_mem_fresh separate member
    exact apart (key.symm.trans (sameFile_iff.mp same))
  rw [applyAll_update separate distinct, todosIn, todosIn, List.filter_filter,
    ← List.append_nil (live.filter fun todo => sameFile todo.filePath other), ← noneNew,
    ← List.filter_append]
  refine List.filter_congr ?_
  intro todo _
  by_cases same : sameFile todo.filePath other = true
  · -- A needless todo is of the file that is updated, and so of another identity.
    have stays : todo.identity ∉ (needless live path findings).map identity := by
      intro member
      obtain ⟨dropped, inside, equal⟩ := List.mem_map.mp member
      have key := sameFile_iff.mp (List.mem_filter.mp (mem_of_mem_needless inside)).2
      simp only [identity, Prod.mk.injEq] at equal
      rw [← sameFile_iff.mp same, ← equal.2.2.1, key] at apart
      exact apart rfl
    simp [same, stays]
  · simp [same]

/-- No todo counts as an error on a day. -/
def PutOff (today : Date) (live : List Todo) : Prop :=
  ∀ todo ∈ live, todo.severityOn today ≠ .error

/-- After an update todos are put off if they were and the new ones have days left. -/
theorem putOff_update {store : TodoStore} {live : List Todo} {path : String}
    {findings : List Finding} (separate : Separate path findings) (distinct : Distinct live)
    {decay : Decay} {today : Date} (putOff : PutOff today live) (days : decay.error ≠ some 0) :
    PutOff today (applyAll live ((store.fresh live path findings decay today).map .add ++
      (needless live path findings).map .remove)) := by
  intro todo member
  rw [applyAll_update separate distinct] at member
  -- What stands after the update stood before or is one of the new ones.
  rcases List.mem_append.mp (List.mem_filter.mp member).1 with old | new
  · exact putOff todo old
  · obtain ⟨finding, _, rfl⟩ := List.mem_map.mp new
    rw [severityOn_ofFinding (Date.addDays?_zero today)]
    exact Decay.severityAfter_zero days

/-- Findings that are reported by todos which are put off are no errors. -/
theorem noErrors_of_reported {live : List Todo} {path : String} {findings reported : List Finding}
    {today : Date} (byTodos : ReportedByTodos live path findings today reported)
    (putOff : PutOff today live) : ∀ finding ∈ reported, finding.severity ≠ .error := by
  obtain ⟨owns, _, rfl, _, known, each⟩ := byTodos
  intro finding member
  rw [← List.map_uncurry_zip_eq_zipWith] at member
  obtain ⟨⟨found, own⟩, paired, rfl⟩ := List.mem_map.mp member
  have covered := each found own paired
  split at covered
  · -- An error has the severity of its todo, and that is one of those that are put off.
    obtain ⟨todo, rfl, _⟩ := covered
    exact putOff todo (List.mem_filter.mp (mem_todosIn_of_paired known paired)).1
  · rename_i noError
    subst covered
    exact noError

end TodoStore

end TemplateLint
