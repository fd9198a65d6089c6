import TemplateLint.Proofs.Files.Walk

/-! What paths lead to once a file has appeared under a name that no other path has for it. -/

namespace TemplateLint

namespace FileSystem

/-- What a filled place shows is what it showed before, or the file at the spot. -/
theorem Filled.present_iff {spot location : Location} {before after : Except FileError Place}
    (filled : Filled spot before after) :
    after = .ok (.present location) ↔
      before = .ok (.present location) ∨ location = spot ∧ before = .ok (.vacant spot false) := by
  cases filled with
  | kept elsewhere => simp [elsewhere]
  | found => simp [eq_comm]
  | blocked beyond => rcases beyond with rfl | rfl <;> simp

end FileSystem

/-- A file appears under its name at a free spot, to which no path with another ending leads. -/
structure Appears (name : String) (spot : Location) (files others : FileSystem) : Prop where
  free : files.entry? spot = none
  named : spot.getLast? = some name
  alone : ∀ path, files.locate path true = .ok (.vacant spot false) → name.toList <:+ path.toList
  made : ∃ content executable, others = files.put spot (.file content executable)

namespace Appears

variable {name : String} {spot : Location} {files others : FileSystem}

/-- Elsewhere stands what stood there. -/
theorem entry_elsewhere (appears : Appears name spot files others) {location : Location}
    (elsewhere : location ≠ spot) : others.entry? location = files.entry? location := by
  obtain ⟨content, executable, rfl⟩ := appears.made
  rw [FileSystem.entry?_put (FileSystem.nonroot_of_free appears.free), if_neg elsewhere]

/-- A file stands at the spot. -/
theorem entry_spot (appears : Appears name spot files others) :
    ∃ content executable, others.entry? spot = some (.file content executable) := by
  obtain ⟨content, executable, rfl⟩ := appears.made
  exact ⟨content, executable, by
    rw [FileSystem.entry?_put (FileSystem.nonroot_of_free appears.free), if_pos rfl]⟩

/-- Directories stand where they stood. -/
theorem directory_iff (appears : Appears name spot files others) {location : Location} :
    others.entry? location = some .directory ↔ files.entry? location = some .directory := by
  -- What stands at the spot now is a file, and nothing stood there.
  by_cases same : location = spot
  · subst same
    obtain ⟨content, executable, stands⟩ := appears.entry_spot
    simp [stands, appears.free]
  · rw [appears.entry_elsewhere same]

/-- Paths lead to the file where they led to the spot, and elsewhere as before. -/
theorem filled (appears : Appears name spot files others) (path : String) (followLast : Bool) :
    FileSystem.Filled spot (files.locate path followLast) (others.locate path followLast) := by
  obtain ⟨content, executable, rfl⟩ := appears.made
  exact FileSystem.locate_filled _ rfl appears.free path followLast

/-- A path leads to what it led to, or to the file where it led to the spot. -/
theorem find_iff (appears : Appears name spot files others) {path : String}
    {location : Location} :
    others.find path = .ok location ↔
      files.find path = .ok location ∨
        location = spot ∧ files.locate path true = .ok (.vacant spot false) := by
  rw [FileSystem.find_eq_ok, FileSystem.find_eq_ok, (appears.filled path true).present_iff]

/-- No path led to something at the spot. -/
theorem ne_spot_of_find (appears : Appears name spot files others) {path : String}
    {location : Location} (found : files.find path = .ok location) : location ≠ spot := by
  rintro rfl
  have reached := FileSystem.locate_reached (FileSystem.find_eq_ok.mp found)
  exact reached.stands appears.free

/-- A path with another ending leads away from the spot. -/
theorem away_of_other (appears : Appears name spot files others) {path : String}
    (other : ¬name.toList <:+ path.toList) :
    files.locate path true ≠ .ok (.vacant spot false) :=
  fun free => other (appears.alone path free)

/-- A path that leads away from the spot leads to what it led to. -/
theorem find_of_away (appears : Appears name spot files others) {path : String}
    (away : files.locate path true ≠ .ok (.vacant spot false)) {location : Location} :
    others.find path = .ok location ↔ files.find path = .ok location := by
  rw [appears.find_iff]
  exact or_iff_left fun free => away free.2

/-- Behind a path that leads away from the spot stands what stood there. -/
theorem follow?_of_away (appears : Appears name spot files others) {path : String}
    (away : files.locate path true ≠ .ok (.vacant spot false)) :
    others.follow? path = files.follow? path := by
  simp only [FileSystem.follow?]
  -- Both disks find the same location, or neither finds any.
  cases before : files.find path with
  | ok location =>
    rw [(appears.find_of_away away).mpr before]
    exact appears.entry_elsewhere (appears.ne_spot_of_find before)
  | error cause =>
    cases after : others.find path with
    | error _ => rfl
    | ok location =>
      rw [(appears.find_of_away away).mp after] at before
      simp at before

/-- A path leads to a directory exactly when it led to one. -/
theorem isDirectory_eq (appears : Appears name spot files others) (path : String) :
    others.isDirectory path = files.isDirectory path := by
  -- A path to the spot leads to a file now, and led to nothing.
  have same : others.follow? path = some .directory ↔ files.follow? path = some .directory := by
    simp only [FileSystem.follow?_eq_some, ← FileSystem.find_eq_ok]
    constructor
    · rintro ⟨location, found, stands⟩
      have stood := appears.directory_iff.mp stands
      rcases appears.find_iff.mp found with before | ⟨rfl, _⟩
      · exact ⟨location, before, stood⟩
      · rw [appears.free] at stood
        simp at stood
    · rintro ⟨location, found, stood⟩
      exact ⟨location, appears.find_iff.mpr (.inl found), appears.directory_iff.mpr stood⟩
  simp only [FileSystem.isDirectory]
  exact Bool.eq_iff_iff.mpr (by simpa using same)

/-- A path that leads away from the spot leads to a file exactly when it led to one. -/
theorem isFile_of_away (appears : Appears name spot files others) {path : String}
    (away : files.locate path true ≠ .ok (.vacant spot false)) :
    others.isFile path = files.isFile path := by
  simp only [FileSystem.isFile, appears.follow?_of_away away]

/-- A path that leads away from the spot leads to something exactly when it did. -/
theorem holds_of_away (appears : Appears name spot files others) {path : String}
    (away : files.locate path true ≠ .ok (.vacant spot false)) :
    others.holds path = files.holds path := by
  simp only [FileSystem.holds, appears.follow?_of_away away]

/-- What a path leads to or names is there as before, save the file that has appeared. -/
theorem holds_or_names (appears : Appears name spot files others) (path : String) :
    (others.holds path || others.names path) = true ↔
      (files.holds path || files.names path) = true ∨
        files.locate path true = .ok (.vacant spot false) := by
  simp only [Bool.or_eq_true, FileSystem.holds_iff, FileSystem.names_iff,
    (appears.filled path true).present_iff, (appears.filled path false).present_iff]
  constructor
  · rintro (⟨location, stood | ⟨_, free⟩⟩ | ⟨location, stood | ⟨_, free⟩⟩)
    · exact .inl (.inl ⟨location, stood⟩)
    · exact .inr free
    · exact .inl (.inr ⟨location, stood⟩)
    · -- A name that is free is no link that could be followed.
      refine .inr ?_
      rw [FileSystem.locate_follow (by simp [free]), free]
  · rintro ((⟨location, stood⟩ | ⟨location, stood⟩) | free)
    · exact .inl ⟨location, .inl stood⟩
    · exact .inr ⟨location, .inl stood⟩
    · exact .inl ⟨spot, .inr ⟨rfl, free⟩⟩

/-- The text behind a path that leads away from the spot is the text that was there. -/
theorem readText_of_away (appears : Appears name spot files others) {path text : String}
    (away : files.locate path true ≠ .ok (.vacant spot false)) :
    others.readText path = .ok text ↔ files.readText path = .ok text := by
  -- The path leads to one location on both disks, which is not the spot.
  simp only [FileSystem.readText_eq_ok]
  constructor
  · rintro ⟨location, found, stands⟩
    have before := (appears.find_of_away away).mp found
    rw [appears.entry_elsewhere (appears.ne_spot_of_find before)] at stands
    exact ⟨location, before, stands⟩
  · rintro ⟨location, found, stood⟩
    rw [← appears.entry_elsewhere (appears.ne_spot_of_find found)] at stood
    exact ⟨location, (appears.find_of_away away).mpr found, stood⟩

/-- What a path held that leads away from the spot is read from it as before. -/
theorem readText_of_holds (appears : Appears name spot files others) {path : String}
    (away : files.locate path true ≠ .ok (.vacant spot false)) (holds : files.holds path = true) :
    others.readText path = files.readText path := by
  obtain ⟨location, present⟩ := FileSystem.holds_iff.mp holds
  -- Equal results need a location: only what was there gives the same error as before.
  have found := FileSystem.find_eq_ok.mpr present
  have entry := appears.entry_elsewhere (appears.ne_spot_of_find found)
  simp only [FileSystem.readText, FileSystem.read, found, (appears.find_of_away away).mpr found,
    entry]

end Appears

end TemplateLint
