import TemplateLint.Proofs.Files.Overwrite

/-!
What making directories and files leaves as it was: what stood stands still, and a path leads where
it led unless it came to a name that was free.
-/

namespace TemplateLint

namespace Entry

/-- The bytes that are read from an entry; a sink gives none, and only it and files are read. -/
def bytes? : Entry → Option (List UInt8)
  | .file content _ => some content.toBytes
  | .sink => some Content.empty.toBytes
  | .directory => none
  | .link _ => none

end Entry

namespace FileSystem

/-- The bytes that are read where a path leads, if it leads to what can be read. -/
def bytes? (files : FileSystem) (path : String) : Option (List UInt8) :=
  (files.read path).toOption.map Content.toBytes

/-- What is read at the end of a path is what stands there. -/
theorem bytes?_eq (files : FileSystem) (path : String) :
    files.bytes? path = (files.follow? path).bind Entry.bytes? := by
  simp only [bytes?, read, follow?]
  -- Only files have bytes, so that every other entry is no answer on either side.
  cases files.find path with
  | error cause => rfl
  | ok location =>
    simp only
    cases files.entry? location with
    | none => rfl
    | some entry => cases entry <;> rfl

/-- Directories and files may have been made; all that stood stands still, in its shape. -/
structure Extends (files others : FileSystem) : Prop where
  stands : ∀ {location entry}, files.entry? location = some entry →
    ∃ other, others.entry? location = some other ∧ other.shape = entry.shape
  made : ∀ {location entry}, files.entry? location = none → others.entry? location = some entry →
    entry.isFile = true ∨ entry = .directory

namespace Extends

variable {files others last : FileSystem}

/-- Nothing was made. -/
theorem refl (files : FileSystem) : Extends files files :=
  ⟨fun {_ entry} stood => ⟨entry, stood, rfl⟩, fun free stands => by simp [free] at stands⟩

/-- What is made after something was made is made. -/
theorem trans (first : Extends files others) (second : Extends others last) :
    Extends files last where
  stands stood := by
    obtain ⟨mid, there, same⟩ := first.stands stood
    obtain ⟨other, here, still⟩ := second.stands there
    exact ⟨other, here, still.trans same⟩
  made {location entry} free stands := by
    cases between : others.entry? location with
    | none => exact second.made between stands
    | some mid =>
      -- What was made first keeps its shape.
      obtain ⟨other, here, same⟩ := second.stands between
      obtain rfl : other = entry := Option.some.inj (here.symm.trans stands)
      rcases first.made free between with file | rfl
      · exact .inl (Entry.isFile_of_shape (same.trans (Entry.shape_of_isFile file)))
      · cases other <;> simp [Entry.shape] at same ⊢

/-- Directories stay directories. -/
theorem directory (grown : Extends files others) {location : Location}
    (stood : files.entry? location = some .directory) :
    others.entry? location = some .directory := by
  obtain ⟨other, stands, same⟩ := grown.stands stood
  cases other <;> simp [Entry.shape] at same
  exact stands

/-- What was there and is no directory does not become one. -/
theorem not_directory (grown : Extends files others) {location : Location}
    (stood : files.entry? location ≠ none) (other : files.entry? location ≠ some .directory) :
    others.entry? location ≠ some .directory := by
  -- Shapes are kept, and that of a directory is no other entry's.
  obtain ⟨entry, stands⟩ := Option.ne_none_iff_exists'.mp stood
  obtain ⟨now, here, same⟩ := grown.stands stands
  rintro directory
  obtain rfl : now = .directory := Option.some.inj (here.symm.trans directory)
  cases entry <;> simp [Entry.shape] at same
  exact other stands

end Extends

/-- Writing to files makes at most files. -/
theorem Overwritten.extends {spots : Location → Prop} {files others : FileSystem}
    (overwritten : Overwritten spots files others) : Extends files others where
  stands stood := overwritten.stands stood
  made {location entry} free stands := by
    -- What stands where nothing stood is a file that was made there.
    rcases overwritten.kinds location with same | ⟨_, other, there, file⟩
    · simp [free, stands] at same
    · obtain rfl : other = entry := Option.some.inj (there.symm.trans stands)
      exact .inl file

/-- A directory that is made where nothing was is all that is made. -/
theorem extends_put {files : FileSystem} {spot : Location} (free : files.entry? spot = none) :
    Extends files (files.put spot .directory) where
  stands {location entry} stood := by
    -- The spot was free, so what stood is elsewhere.
    have away : location ≠ spot := by
      rintro rfl
      simp [free] at stood
    exact ⟨entry, by rw [entry?_put (nonroot_of_free free), if_neg away, stood], rfl⟩
  made {location entry} empty stands := by
    rw [entry?_put (nonroot_of_free free)] at stands
    split at stands
    · exact .inr (Option.some.inj stands).symm
    · simp [empty] at stands

/-- Where a path leads once something was made, given where it led before. -/
inductive Opened : Except FileError Place → Except FileError Place → Prop where
  | kept {result : Except FileError Place} : Opened result result
  | filled {spot : Location} {slashed : Bool} :
    Opened (.ok (.vacant spot slashed)) (.ok (.present spot))
  -- With a slash behind its name a directory is asked for, and a file may have been made.
  | blocked {spot : Location} : Opened (.ok (.vacant spot true)) (.error .notDirectory)
  -- A way that was missing may lead anywhere now.
  | onward {result : Except FileError Place} : Opened (.error .notFound) result

/-- A walk that ended at a free name goes on from what was made there, a file or a directory. -/
theorem opened_of_made {others : FileSystem} {spot : Location} {entry : Entry}
    (kind : entry.isFile = true ∨ entry = .directory) (stands : others.entry? spot = some entry)
    (followLast slashed : Bool) (onward : Location → List Stride → Except FileError Place)
    (rest : List Stride) :
    Opened
      (if rest = [] then .ok (.vacant spot false)
        else if slashed && rest = [.stay] then .ok (.vacant spot true) else .error .notFound)
      (others.stroll followLast slashed onward spot rest) := by
  by_cases last : rest = []
  · subst last
    exact .filled
  · rw [if_neg last]
    split
    · -- Only a slash is still ahead, and it asks for a directory.
      rename_i ends
      obtain ⟨_, rfl⟩ : slashed = true ∧ rest = [.stay] := by simpa using ends
      rcases kind with file | rfl
      · have noDirectory : others.entry? spot ≠ some .directory := by
          rintro same
          obtain rfl : entry = .directory := Option.some.inj (stands.symm.trans same)
          simp [Entry.isFile] at file
        simp only [stroll, ne_eq, noDirectory, not_false_eq_true, if_true]
        exact .blocked
      · simp only [stroll, stands, ne_eq, not_true_eq_false, if_false]
        exact .filled
    · exact .onward

/-- A step to a name that is free no more goes on where it ended, and every other step as it did. -/
theorem stroll_opened {files others : FileSystem} (grown : Extends files others)
    {followLast slashed : Bool}
    {onward onwardOther : Location → List Stride → Except FileError Place}
    (later : ∀ {current} steps, Reached files current →
      Opened (onward current steps) (onwardOther current steps))
    {current : Location} (reached : Reached files current) (steps : List Stride) :
    Opened (files.stroll followLast slashed onward current steps)
      (others.stroll followLast slashed onwardOther current steps) := by
  -- The induction is on the steps; the target of a link is left to the walk that comes after.
  induction steps generalizing current with
  | nil => exact .kept
  | cons step rest ih =>
    by_cases here : files.entry? current = some .directory
    · have there := grown.directory here
      cases step with
      | stay =>
        simp only [stroll, here, there, ne_eq, not_true_eq_false, if_false]
        exact ih reached
      | up =>
        simp only [stroll, here, there, ne_eq, not_true_eq_false, if_false]
        exact ih reached.up
      | down name =>
        simp only [stroll, here, there, ne_eq, not_true_eq_false, if_false]
        by_cases long : longestName < name.utf8ByteSize
        · simp only [long, if_true]
          exact .kept
        · simp only [long, if_false]
          cases stood : files.entry? (current ++ [name]) with
          | none =>
            cases stands : others.entry? (current ++ [name]) with
            | none => exact .kept
            | some entry =>
              -- What was made is no link, so the walk steps on to it.
              have kind := grown.made stood stands
              have walked := opened_of_made kind stands followLast slashed onwardOther rest
              rcases kind with file | rfl
              · cases entry <;> simp [Entry.isFile] at file
                exact walked
              · exact walked
          | some entry =>
            obtain ⟨other, stands, same⟩ := grown.stands stood
            have next : Reached files (current ++ [name]) := reached.down here (by simp [stood])
            cases entry <;> cases other <;> simp [Entry.shape] at same <;> simp only [stands]
            · exact ih next
            · exact ih next
            · -- A link is the same link still.
              subst same
              split
              · exact .kept
              · refine later _ ?_
                split
                · exact reached_root files
                · exact reached
            · exact ih next
    · have there := grown.not_directory reached.stands here
      simp only [stroll, ne_eq, here, there, not_false_eq_true, if_true]
      exact .kept

/-- Every walk that came to a free name may go on there, and every other walk ends as it did. -/
theorem walk_opened {files others : FileSystem} (grown : Extends files others)
    {followLast slashed : Bool} {links : Nat} {current : Location} (reached : Reached files current)
    (steps : List Stride) :
    Opened (files.walk followLast slashed links current steps)
      (others.walk followLast slashed links current steps) := by
  -- The induction is on the links that may be followed still.
  induction links generalizing current steps with
  | zero => exact stroll_opened grown (fun _ _ => .kept) reached steps
  | succ links ih => exact stroll_opened grown (fun steps reached => ih reached steps) reached steps

/-- A path that came to a free name may lead on there, and every other path leads where it led. -/
theorem locate_opened {files others : FileSystem} (grown : Extends files others) (path : String)
    (followLast : Bool) :
    Opened (files.locate path followLast) (others.locate path followLast) := by
  simp only [locate]
  -- A path that is refused unread is refused on both disks.
  split
  · exact .kept
  · split
    · exact .kept
    · split
      · exact .kept
      · exact walk_opened grown (reached_root files) _

/-- The way along a path is there: it ends somewhere, or is refused for good. -/
def IsCharted (files : FileSystem) (path : String) : Prop :=
  files.locate path true ≠ .error .notFound

/-- A way that is there stays there. -/
theorem Extends.isCharted {files others : FileSystem} (grown : Extends files others)
    {path : String} (charted : files.IsCharted path) : others.IsCharted path := by
  have opened := locate_opened grown path true
  unfold IsCharted at charted ⊢
  -- Of all ways only one that was missing can be missing now.
  generalize others.locate path true = after at opened ⊢
  generalize files.locate path true = before at opened charted
  cases opened with
  | kept => exact charted
  | filled => simp
  | blocked => simp
  | onward => exact absurd rfl charted

/-- At the end of a way that was there, a directory that is made changes no bytes that are read. -/
theorem bytes?_put {files : FileSystem} {spot : Location} (free : files.entry? spot = none)
    {path : String} (charted : files.IsCharted path) :
    (files.put spot .directory).bytes? path = files.bytes? path := by
  have opened := locate_opened (extends_put free) path true
  have put := entry?_put (nonroot_of_free free) files .directory
  simp only [bytes?_eq, follow?, find]
  unfold IsCharted at charted
  generalize (files.put spot .directory).locate path true = after at opened ⊢
  cases place : files.locate path true with
  | error cause =>
    rw [place] at opened charted
    cases opened with
    | kept => rfl
    | onward => exact absurd rfl charted
  | ok found =>
    rw [place] at opened
    cases opened with
    | kept =>
      cases found with
      | present location =>
        -- Something stood there, so the new directory is elsewhere.
        have away : location ≠ spot := by
          rintro rfl
          exact (locate_reached place).stands free
        simp only [put, if_neg away]
      | vacant location slashed => rfl
    | filled =>
      -- Where nothing was there is nothing now, or the directory.
      simp only [put]
      split
      · rfl
      · rw [locate_vacant place]
    | blocked => rfl

/-- A directory is made where nothing was. -/
theorem makeDirectory_eq_ok {files made : FileSystem} {path : String}
    (done : files.makeDirectory path = .ok made) :
    ∃ spot, files.entry? spot = none ∧ made = files.put spot .directory := by
  simp only [makeDirectory] at done
  split at done
  · simp at done
  · simp at done
  · rename_i spot slashed place
    exact ⟨spot, locate_vacant place, (Except.ok.inj done).symm⟩

/-- What each new directory keeps, several of them keep. -/
theorem makeDirectories_keeps {holds : FileSystem → Prop}
    (one : ∀ {files spot}, holds files → files.entry? spot = none →
      holds (files.put spot .directory))
    {files made : FileSystem} {steps : Nat} {path : String} (held : holds files)
    (done : files.makeDirectories steps path = .ok made) : holds made := by
  have single : ∀ {files made : FileSystem} {path : String}, holds files →
      files.makeDirectory path = .ok made → holds made := by
    intro files made path held done
    obtain ⟨spot, free, rfl⟩ := makeDirectory_eq_ok done
    exact one held free
  -- The induction is on the steps up; the directories above come before the one below them.
  induction steps generalizing path made with
  | zero =>
    obtain rfl := Except.ok.inj done
    exact held
  | succ steps ih =>
    simp only [makeDirectories] at done
    split at done
    · obtain rfl := Except.ok.inj done
      exact held
    · split at done
      · rename_i first
        obtain rfl := Except.ok.inj done
        exact single held first
      · split at done
        · simp at done
        · split at done
          · simp at done
          · rename_i above
            have mid := ih above
            split at done
            · rename_i last
              obtain rfl := Except.ok.inj done
              exact single mid last
            · split at done
              · obtain rfl := Except.ok.inj done
                exact mid
              · simp at done
      · split at done
        · obtain rfl := Except.ok.inj done
          exact held
        · simp at done

end FileSystem

end TemplateLint
