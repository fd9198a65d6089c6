import TemplateLint.Files.FileSystem

/-! What a change of one file does to the places that paths lead to and to what stands there. -/

namespace TemplateLint

namespace Entry

/-- What a walk can tell of an entry: of a file no more than that it is one. -/
def shape : Entry → Entry
  | .file _ _ => .file .empty false
  | .directory => .directory
  | .link target => .link target
  | .sink => .sink

/-- The entry is a regular file. -/
def isFile : Entry → Bool
  | .file _ _ => true
  | _ => false

/-- Files have one shape. -/
theorem shape_of_isFile {entry : Entry} (file : entry.isFile = true) :
    entry.shape = .file .empty false := by
  cases entry <;> first | rfl | simp [isFile] at file

end Entry

/-- Entries without those of one key answer for every other key as before. -/
theorem lookup_filter {α β : Type} [BEq α] [LawfulBEq α] [DecidableEq α] (own other : α)
    (entries : List (α × β)) :
    (entries.filter (·.1 ≠ own)).lookup other =
      if other = own then none else entries.lookup other := by
  -- An entry that is dropped has the key, so a look-up for another one passes over it.
  induction entries with
  | nil => simp
  | cons stored later ih =>
    obtain ⟨key, entry⟩ := stored
    by_cases dropped : key = own
    · rw [List.filter_cons_of_neg (by simpa using dropped), ih]
      by_cases same : other = own
      · rw [if_pos same, if_pos same]
      · have passed : (other == key) = false := by simpa [dropped] using same
        rw [if_neg same, if_neg same, List.lookup_cons, passed]
    · rw [List.filter_cons_of_pos (by simpa using dropped), List.lookup_cons, List.lookup_cons, ih]
      by_cases same : other = own
      · have passed : (other == key) = false := by simpa [same] using Ne.symm dropped
        simp only [same, if_true]
        rw [← same, passed]
      · rw [if_neg same, if_neg same]

namespace FileSystem

/-- The root is a directory. -/
@[simp] theorem entry?_nil (files : FileSystem) : files.entry? [] = some .directory :=
  rfl

/-- What stands below the root is stored. -/
theorem entry?_of_ne_nil {location : Location} (nonroot : location ≠ []) (files : FileSystem) :
    files.entry? location = files.entries.lookup location :=
  if_neg nonroot

/-- The entry put at a location stands there, and all others stand where they stood. -/
theorem entry?_put {location : Location} (nonroot : location ≠ []) (files : FileSystem)
    (entry : Entry) (other : Location) :
    FileSystem.entry? (files.put location entry) other =
      if other = location then some entry else files.entry? other := by
  by_cases root : other = []
  · -- The root is no stored entry, so it cannot be replaced.
    subst root
    rw [if_neg (Ne.symm nonroot)]
    rfl
  · simp only [entry?_of_ne_nil root, put, List.lookup_append, lookup_filter]
    by_cases same : other = location
    · simp only [same, if_true, List.lookup_cons_self, Option.none_or]
    · have passed : (other == location) = false := by simpa using same
      simp only [same, if_false, List.lookup_cons, passed, List.lookup_nil, Option.or_none]

/-- Of two entries that are put at one location the later one stays. -/
theorem put_put (files : FileSystem) (location : Location) (first second : Entry) :
    (files.put location first).put location second = files.put location second := by
  simp [put, List.filter_append, List.filter_filter]

/-- Two disks that a walk cannot tell apart. -/
def SameShape (files others : FileSystem) : Prop :=
  ∀ location, (files.entry? location).map Entry.shape = (others.entry? location).map Entry.shape

/-- Directories stand at the same locations of two disks of one shape. -/
theorem SameShape.directory_iff {files others : FileSystem} (same : SameShape files others)
    (location : Location) :
    files.entry? location = some .directory ↔ others.entry? location = some .directory := by
  have shapes := same location
  -- Shapes tell directories from all else, so the cases that differ are excluded.
  cases first : files.entry? location with
  | none =>
    cases second : others.entry? location with
    | none => simp
    | some entry => simp [first, second] at shapes
  | some entry =>
    cases second : others.entry? location with
    | none => simp [first, second] at shapes
    | some other =>
      simp only [first, second, Option.map_some, Option.some.injEq] at shapes
      cases entry <;> cases other <;> simp [Entry.shape] at shapes ⊢

/-- A walk over disks of one shape takes the same way. -/
theorem stroll_congr {files others : FileSystem} (same : SameShape files others)
    (followLast slashed : Bool) (onward : Location → List Stride → Except FileError Place)
    (current : Location) (steps : List Stride) :
    files.stroll followLast slashed onward current steps =
      others.stroll followLast slashed onward current steps := by
  -- Every step looks at two locations, and both disks answer alike.
  induction steps generalizing current with
  | nil => rfl
  | cons step rest ih =>
    by_cases here : files.entry? current = some .directory
    · have there := (same.directory_iff current).mp here
      cases step with
      | stay => simp only [stroll, here, there, ne_eq, not_true_eq_false, if_false, ih]
      | up => simp only [stroll, here, there, ne_eq, not_true_eq_false, if_false, ih]
      | down name =>
        -- What stands under the name is of one shape on both disks, so one case is left.
        have shapes := same (current ++ [name])
        simp only [stroll, here, there, ne_eq, not_true_eq_false, if_false, ih]
        cases first : files.entry? (current ++ [name]) with
        | none =>
          cases second : others.entry? (current ++ [name]) with
          | none => rfl
          | some entry => simp [first, second] at shapes
        | some entry =>
          cases second : others.entry? (current ++ [name]) with
          | none => simp [first, second] at shapes
          | some other =>
            simp only [first, second, Option.map_some, Option.some.injEq] at shapes
            cases entry <;> cases other <;> simp [Entry.shape] at shapes ⊢
            rw [shapes]
    · have there : ¬others.entry? current = some .directory :=
        fun directory => here ((same.directory_iff current).mpr directory)
      simp only [stroll, ne_eq, here, there, not_false_eq_true, if_true]

/-- A walk over disks of one shape leads to the same place. -/
theorem walk_congr {files others : FileSystem} (same : SameShape files others)
    (followLast slashed : Bool) (links : Nat) :
    files.walk followLast slashed links = others.walk followLast slashed links := by
  -- The induction is on the links that may be followed; each stroll hands on to the next walk.
  induction links with
  | zero =>
    funext current steps
    exact stroll_congr same _ _ _ _ _
  | succ links ih =>
    funext current steps
    simp only [walk, ih]
    exact stroll_congr same _ _ _ _ _

/-- A path leads to the same place on disks of one shape. -/
theorem locate_congr {files others : FileSystem} (same : SameShape files others) (path : String)
    (followLast : Bool) : files.locate path followLast = others.locate path followLast := by
  simp only [locate, walk_congr same]

/-- A file in place of a file leaves the shape of the disk. -/
theorem sameShape_put {files : FileSystem} {location : Location} {old : Entry}
    (stands : files.entry? location = some old) (oldFile : old.isFile = true) (new : Entry)
    (newFile : new.isFile = true) : SameShape (files.put location new) files := by
  have nonroot : location ≠ [] := by
    intro root
    subst root
    obtain rfl : Entry.directory = old := by simpa using stands
    simp [Entry.isFile] at oldFile
  -- At the location one file replaces another; elsewhere nothing changes.
  intro other
  rw [entry?_put nonroot]
  by_cases same : other = location
  · subst same
    simp [stands, Entry.shape_of_isFile oldFile, Entry.shape_of_isFile newFile]
  · rw [if_neg same]

/-- Where a walk leads once a file stands at a spot that was free, given where it led before. -/
inductive Filled (spot : Location) : Except FileError Place → Except FileError Place → Prop where
  | kept {result : Except FileError Place} (elsewhere : result ≠ .ok (.vacant spot false)) :
    Filled spot result result
  | found : Filled spot (.ok (.vacant spot false)) (.ok (.present spot))
  | blocked {result : Except FileError Place}
      (beyond : result = .error .notFound ∨ result = .ok (.vacant spot true)) :
    Filled spot result (.error .notDirectory)

/-- A step to the spot finds the file there, and every other step finds what it found. -/
theorem stroll_filled {files others : FileSystem} {spot : Location} {entry : Entry}
    (file : entry.isFile = true) (free : files.entry? spot = none)
    (filled : ∀ location, others.entry? location =
      if location = spot then some entry else files.entry? location)
    {followLast slashed : Bool}
    {onward onwardOther : Location → List Stride → Except FileError Place}
    (later : ∀ current steps, Filled spot (onward current steps) (onwardOther current steps))
    (current : Location) (steps : List Stride) :
    Filled spot (files.stroll followLast slashed onward current steps)
      (others.stroll followLast slashed onwardOther current steps) := by
  -- The file is neither a directory nor a link, so no walk goes on below it or through it.
  have noDirectory : entry ≠ .directory := by
    intro same
    subst same
    simp [Entry.isFile] at file
  have directory : ∀ location, others.entry? location = some .directory ↔
      files.entry? location = some .directory := by
    intro location
    rw [filled]
    by_cases same : location = spot
    · subst same
      simp [free, noDirectory]
    · rw [if_neg same]
  induction steps generalizing current with
  | nil => exact .kept (by simp [stroll])
  | cons step rest ih =>
    by_cases here : files.entry? current = some .directory
    · have there := (directory current).mpr here
      cases step with
      | stay =>
        simp only [stroll, here, there, ne_eq, not_true_eq_false, if_false]
        exact ih current
      | up =>
        simp only [stroll, here, there, ne_eq, not_true_eq_false, if_false]
        exact ih current.dropLast
      | down name =>
        simp only [stroll, here, there, ne_eq, not_true_eq_false, if_false]
        by_cases long : longestName < name.utf8ByteSize
        · simp only [long, if_true]
          exact .kept (by simp)
        · simp only [long, if_false]
          by_cases same : current ++ [name] = spot
          · -- What is still to be walked decides what the free spot meant before.
            have found : others.entry? spot = some entry := by rw [filled, if_pos rfl]
            simp only [same, found, free]
            cases rest with
            | nil =>
              cases entry <;> simp [Entry.isFile] at file
              simpa [stroll] using Filled.found
            | cons next more =>
              -- Behind a free name there was nothing, and behind a file there is no way on.
              have stuck : others.stroll followLast slashed onwardOther spot (next :: more) =
                  .error .notDirectory := by
                have noSpot : others.entry? spot ≠ some .directory := by
                  rw [filled, if_pos rfl]
                  simpa using noDirectory
                simp only [stroll, ne_eq, noSpot, not_false_eq_true, if_true]
              cases entry <;> simp [Entry.isFile] at file
              simp only [stuck]
              refine .blocked ?_
              simp only [reduceCtorEq, if_false]
              split
              · exact .inr rfl
              · exact .inl rfl
          · -- Under every other name stands what stood there.
            simp only [filled (current ++ [name]), same, if_false]
            cases stands : files.entry? (current ++ [name]) with
            | none =>
              refine .kept ?_
              simp only
              split
              · simpa using same
              · split <;> simp
            | some other =>
              cases other with
              | link target =>
                simp only
                split
                · exact .kept (by simp)
                · exact later _ _
              | file content executable => exact ih _
              | directory => exact ih _
              | sink => exact ih _
    · have there : ¬others.entry? current = some .directory :=
        fun stands => here ((directory current).mp stands)
      simp only [stroll, ne_eq, here, there, not_false_eq_true, if_true]
      exact .kept (by simp)

/-- Every walk finds a file where it found the free spot. -/
theorem walk_filled {files others : FileSystem} {spot : Location} {entry : Entry}
    (file : entry.isFile = true) (free : files.entry? spot = none)
    (filled : ∀ location, others.entry? location =
      if location = spot then some entry else files.entry? location)
    (followLast slashed : Bool) (links : Nat) (current : Location) (steps : List Stride) :
    Filled spot (files.walk followLast slashed links current steps)
      (others.walk followLast slashed links current steps) := by
  induction links generalizing current steps with
  | zero => exact stroll_filled file free filled (fun _ _ => .kept (by simp)) current steps
  | succ links ih => exact stroll_filled file free filled ih current steps

/-- A path leads to a file where it led to the free spot. -/
theorem locate_filled {files : FileSystem} {spot : Location} (entry : Entry)
    (file : entry.isFile = true) (free : files.entry? spot = none) (path : String)
    (followLast : Bool) :
    Filled spot (files.locate path followLast)
      ((files.put spot entry).locate path followLast) := by
  have nonroot : spot ≠ [] := by
    intro root
    subst root
    simp at free
  simp only [locate]
  -- A path that is refused unread is refused on both disks.
  split
  · exact .kept (by simp)
  · split
    · exact .kept (by simp)
    · split
      · exact .kept (by simp)
      · exact walk_filled file free (entry?_put nonroot files entry) _ _ _ _ _

/-- A spot that a walk finds free is free. -/
theorem stroll_vacant {files : FileSystem} {followLast slashed : Bool}
    {onward : Location → List Stride → Except FileError Place}
    (later : ∀ {current steps spot ended}, onward current steps = .ok (.vacant spot ended) →
      files.entry? spot = none)
    {current spot : Location} {steps : List Stride} {ended : Bool}
    (found : files.stroll followLast slashed onward current steps = .ok (.vacant spot ended)) :
    files.entry? spot = none := by
  induction steps generalizing current with
  | nil => simp [stroll] at found
  | cons step rest ih =>
    unfold stroll at found
    split at found
    · simp at found
    · cases step with
      | stay => exact ih found
      | up => exact ih found
      | down name =>
        simp only at found
        split at found
        · simp at found
        · split at found
          · -- Only here does a walk end at a free spot, and it has just looked at it.
            rename_i free
            split at found
            · simp only [Except.ok.injEq, Place.vacant.injEq] at found
              rw [← found.1]
              exact free
            · split at found
              · simp only [Except.ok.injEq, Place.vacant.injEq] at found
                rw [← found.1]
                exact free
              · simp at found
          · split at found
            · simp at found
            · exact later found
          · exact ih found

/-- A path is walked once it is neither empty nor too long and holds no zero byte. -/
theorem locate_eq_walk {files : FileSystem} {path : String} {followLast : Bool} {place : Place}
    (found : files.locate path followLast = .ok place) :
    '\u0000' ∉ path.toList ∧ path.toList ≠ [] ∧ path.utf8ByteSize ≤ longestPath ∧
      files.walk followLast (path.toList.getLast? = some '/') linkLimit []
        (Stride.ofPath path.toList) = .ok place := by
  -- Every path that is refused unread is refused with an error.
  simp only [locate] at found
  split at found
  · simp at found
  · rename_i noNul
    split at found
    · simp at found
    · rename_i some
      split at found
      · simp at found
      · rename_i short
        exact ⟨by simpa using noNul, some, Nat.le_of_not_lt short, found⟩

/-- A spot that a path leads to as free is free. -/
theorem locate_vacant {files : FileSystem} {path : String} {followLast ended : Bool}
    {spot : Location} (found : files.locate path followLast = .ok (.vacant spot ended)) :
    files.entry? spot = none := by
  -- Any number of links may lie between the path and the spot.
  have walks : ∀ links {slashed current steps spot ended},
      files.walk followLast slashed links current steps = .ok (.vacant spot ended) →
        files.entry? spot = none := by
    intro links
    induction links with
    | zero => exact fun found => stroll_vacant (by simp) found
    | succ links ih => exact fun found => stroll_vacant ih found
  obtain ⟨_, _, _, walked⟩ := locate_eq_walk found
  exact walks _ walked

/-- A path that leads to a free spot leads to no directory. -/
theorem isDirectory_of_vacant {files : FileSystem} {path : String} {spot : Location}
    {ended : Bool} (free : files.locate path true = .ok (.vacant spot ended)) :
    files.isDirectory path = false := by
  simp [isDirectory, follow?, find, free]

/-- No spot that is free is the root. -/
theorem nonroot_of_free {files : FileSystem} {spot : Location} (free : files.entry? spot = none) :
    spot ≠ [] := by
  intro root
  subst root
  simp at free

/-- A path leads to a file exactly when it leads to the place of one. -/
theorem follow?_eq_some {files : FileSystem} {path : String} {entry : Entry} :
    files.follow? path = some entry ↔
      ∃ spot, files.locate path true = .ok (.present spot) ∧ files.entry? spot = some entry := by
  simp only [follow?, find]
  cases place : files.locate path true with
  | error cause => simp
  | ok found => cases found <;> simp

/-- Nothing is found at the end of a path that is too long. -/
theorem follow?_of_too_long (files : FileSystem) {path : String}
    (long : longestPath < path.utf8ByteSize) : files.follow? path = none := by
  refine Option.eq_none_iff_forall_ne_some.mpr fun entry found => ?_
  obtain ⟨spot, located, _⟩ := follow?_eq_some.mp found
  have short := (locate_eq_walk located).2.2.1
  omega

/-- What a path leads to is a file when the path does. -/
theorem isFile_of_follow? {files : FileSystem} {path : String} {content : Content}
    {executable : Bool} (stands : files.follow? path = some (.file content executable)) :
    files.isFile path = true := by
  simp only [isFile, stands]

/-- A file holds the content that is read from it. -/
theorem read_of_follow? {files : FileSystem} {path : String} {content : Content}
    {executable : Bool} (stands : files.follow? path = some (.file content executable)) :
    files.read path = .ok content := by
  obtain ⟨spot, place, entry⟩ := follow?_eq_some.mp stands
  simp only [read, find, place, entry]

/-- The text of a file of text is read from it. -/
theorem readText_of_follow? {files : FileSystem} {path : String} {text : String}
    {executable : Bool} (stands : files.follow? path = some (.file (.text text) executable)) :
    files.readText path = .ok text := by
  simp only [readText, read_of_follow? stands, Content.text?]

/-- A file that is there takes a new content, whatever it is, and keeps its mode. -/
theorem change_file {files : FileSystem} {path : String} {content : Content} {executable : Bool}
    (stands : files.follow? path = some (.file content executable)) (next : Content → Content) :
    ∃ spot made, files.change path next = .ok made ∧
      made = files.put spot (.file (next content) executable) ∧ SameShape made files ∧
      made.follow? path = some (.file (next content) executable) := by
  obtain ⟨spot, place, entry⟩ := follow?_eq_some.mp stands
  have shape := sameShape_put entry rfl (.file (next content) executable) rfl
  have nonroot : spot ≠ [] := by
    intro root
    subst root
    simp at entry
  refine ⟨spot, files.put spot (.file (next content) executable), ?_, rfl, shape, ?_⟩
  · simp only [change, place, entry]
  · -- The path leads to the same spot as before, where the new content stands.
    rw [follow?_eq_some]
    refine ⟨spot, ?_, ?_⟩
    · rw [locate_congr shape, place]
    · rw [entry?_put nonroot, if_pos rfl]

/-- To write the text that was written to a file last changes nothing. -/
theorem write_again {files made : FileSystem} {path text : String} {content : Content}
    {executable : Bool} (stands : files.follow? path = some (.file content executable))
    (done : files.write path text = .ok made) : made.write path text = .ok made := by
  obtain ⟨spot, place, entry⟩ := follow?_eq_some.mp stands
  have nonroot : spot ≠ [] := by
    rintro rfl
    simp at entry
  obtain rfl : files.put spot (.file (.text text) executable) = made := by
    simpa only [write, change, place, entry, Except.ok.injEq] using done
  -- The path leads to the same spot, where the same file takes the place of the one there.
  have shape := sameShape_put entry rfl (.file (.text text) executable) rfl
  simp only [write, change, locate_congr shape, place, entry?_put nonroot, if_pos, put_put]

/-- A file made where a path led nowhere is what the path leads to. -/
theorem change_fresh {files made : FileSystem} {path : String} {next : Content → Content}
    (nothing : files.follow? path = none) (changed : files.change path next = .ok made) :
    ∃ spot, files.locate path true = .ok (.vacant spot false) ∧
      made = files.put spot (.file (next .empty) false) ∧
      made.follow? path = some (.file (next .empty) false) := by
  simp only [change] at changed
  cases place : files.locate path true with
  | error cause => simp [place] at changed
  | ok found =>
    cases found with
    | present spot =>
      -- A place that is present but holds nothing takes no content.
      have empty : files.entry? spot = none := by
        simpa [follow?, find, place] using nothing
      simp [place, empty] at changed
    | vacant spot slashed =>
      cases slashed with
      | true => simp [place] at changed
      | false =>
        have free := locate_vacant place
        obtain rfl : files.put spot (.file (next .empty) false) = made := by
          simpa [place] using changed
        refine ⟨spot, rfl, rfl, ?_⟩
        rw [follow?_eq_some]
        refine ⟨spot, ?_, by rw [entry?_put (nonroot_of_free free), if_pos rfl]⟩
        -- The path led to the free spot, so it leads to the file that is there now.
        have filled := locate_filled (.file (next .empty) false) rfl free path true
        rw [place] at filled
        generalize (files.put spot _).locate path true = after at filled ⊢
        cases filled with
        | kept elsewhere => exact absurd rfl elsewhere
        | found => rfl
        | blocked beyond => simp at beyond

/-- What is written to a path is read from it, unless a sink has swallowed it. -/
theorem readText_of_write {files made : FileSystem} {path text : String}
    (done : files.write path text = .ok made) :
    made.readText path = .ok text ∨ made.follow? path = some .sink := by
  -- What stood at the path decides: only nothing, a file or a sink can be written to, and a sink
  -- keeps nothing.
  cases before : files.follow? path with
  | none =>
    obtain ⟨_, _, _, follows⟩ := change_fresh before done
    exact .inl (readText_of_follow? follows)
  | some entry =>
    cases entry with
    | file content executable =>
      obtain ⟨_, own, changed, _, _, follows⟩ := change_file before fun _ => .text text
      obtain rfl : own = made := Except.ok.inj (changed.symm.trans done)
      exact .inl (readText_of_follow? follows)
    | sink =>
      obtain ⟨spot, place, stands⟩ := follow?_eq_some.mp before
      obtain rfl : files = made := by simpa [write, change, place, stands] using done
      exact .inr before
    | directory =>
      obtain ⟨spot, place, stands⟩ := follow?_eq_some.mp before
      simp [write, change, place, stands] at done
    | link target =>
      obtain ⟨spot, place, stands⟩ := follow?_eq_some.mp before
      simp [write, change, place, stands] at done

/-- Names that are added to a path leave some text in it. -/
theorem foldl_names_ne_nil (names : List String) {path : String} (some : path.toList ≠ []) :
    (names.foldl (fun path name => path ++ "/" ++ name) path).toList ≠ [] := by
  induction names generalizing path with
  | nil => exact some
  | cons name later ih => exact ih (by simp)

/-- The path of a location is no empty text. -/
theorem pathOf_ne_nil (location : Location) : (pathOf location).toList ≠ [] := by
  cases location with
  | nil => decide
  | cons name later => exact foldl_names_ne_nil later (by simp)

end FileSystem

end TemplateLint
