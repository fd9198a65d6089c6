import TemplateLint.Proofs.Files.Walk

/-!
What writing to files leaves as it was: every path still leads to the location that it led to, and
nothing changes but what stands at the locations that were written to.
-/

namespace TemplateLint

namespace Entry

/-- What has the shape of a file is a file. -/
theorem isFile_of_shape {entry : Entry} (shaped : entry.shape = .file .empty false) :
    entry.isFile = true := by
  cases entry <;> simp [shape, isFile] at shaped ⊢

end Entry

namespace FileSystem

/-- The location that a change of a file touches: where it stands, or where it would be made. -/
def target? (files : FileSystem) (path : String) : Option Location :=
  match files.locate path true with
  | .ok (.present location) => some location
  | .ok (.vacant location false) => some location
  | _ => none

/-- On disks of one shape a change of a path touches the same location. -/
theorem target?_congr {files others : FileSystem} (same : SameShape files others)
    (path : String) : files.target? path = others.target? path := by
  simp only [target?, locate_congr same]

/-- A path is found where a change would touch something. -/
theorem find_iff_target {files : FileSystem} {path : String} {location : Location} :
    files.find path = .ok location ↔
      files.target? path = some location ∧ files.entry? location ≠ none := by
  rw [find_eq_ok, target?]
  cases place : files.locate path true with
  | error cause => simp
  | ok found =>
    cases found with
    | present spot =>
      have stands := (locate_reached place).stands
      constructor
      · intro same
        obtain rfl : spot = location := by simpa using same
        exact ⟨rfl, stands⟩
      · rintro ⟨same, _⟩
        obtain rfl : spot = location := by simpa using same
        rfl
    | vacant spot slashed =>
      -- What a walk finds free is free, so nothing stands where a file would be made.
      have free := locate_vacant place
      cases slashed with
      | true => simp
      | false =>
        suffices spot = location → files.entry? location = none by simpa
        rintro rfl
        exact free

/-- Files were written to, at most at some spots; all else is as it was. -/
structure Overwritten (spots : Location → Prop) (files others : FileSystem) : Prop where
  targets : ∀ path, others.target? path = files.target? path
  elsewhere : ∀ location, ¬spots location → others.entry? location = files.entry? location
  kinds : ∀ location,
    (others.entry? location).map Entry.shape = (files.entry? location).map Entry.shape ∨
      files.entry? location = none ∧ ∃ entry, others.entry? location = some entry ∧
        entry.isFile = true

namespace Overwritten

variable {spots wider : Location → Prop} {files others : FileSystem}

/-- Nothing was written to. -/
theorem refl (spots : Location → Prop) (files : FileSystem) : Overwritten spots files files :=
  ⟨fun _ => rfl, fun _ _ => rfl, fun _ => .inl rfl⟩

/-- What was written to at some spots was written to at more spots at most. -/
theorem mono (overwritten : Overwritten spots files others)
    (within : ∀ location, spots location → wider location) : Overwritten wider files others :=
  ⟨overwritten.targets, fun location away => overwritten.elsewhere location
    fun here => away (within location here), overwritten.kinds⟩

/-- Writing and writing again is writing. -/
theorem trans {last : FileSystem} (first : Overwritten spots files others)
    (second : Overwritten spots others last) : Overwritten spots files last where
  targets path := (second.targets path).trans (first.targets path)
  elsewhere location away := (second.elsewhere location away).trans (first.elsewhere location away)
  kinds := by
    intro location
    rcases second.kinds location with same | ⟨free, made⟩
    · rcases first.kinds location with before | ⟨free, entry, stands, file⟩
      · exact .inl (same.trans before)
      · -- A file that was made is a file still.
        rw [stands, Option.map_some, Entry.shape_of_isFile file] at same
        obtain ⟨other, found, shaped⟩ := Option.map_eq_some_iff.mp same
        exact .inr ⟨free, other, found, Entry.isFile_of_shape shaped⟩
    · rcases first.kinds location with before | ⟨_, entry, stands, _⟩
      · rw [free, Option.map_none, eq_comm, Option.map_eq_none_iff] at before
        exact .inr ⟨before, made⟩
      · simp [free] at stands

/-- What stands somewhere stays there in its shape. -/
theorem stands (overwritten : Overwritten spots files others) {location : Location}
    {entry : Entry} (stood : files.entry? location = some entry) :
    ∃ other, others.entry? location = some other ∧ other.shape = entry.shape := by
  rcases overwritten.kinds location with same | ⟨free, _⟩
  · rw [stood, Option.map_some] at same
    exact Option.map_eq_some_iff.mp same
  · simp [free] at stood

/-- What is found is found still. -/
theorem find (overwritten : Overwritten spots files others) {path : String} {location : Location}
    (found : files.find path = .ok location) : others.find path = .ok location := by
  -- A change would go to the same place, and something stands there still.
  obtain ⟨leads, stood⟩ := find_iff_target.mp found
  obtain ⟨entry, stood⟩ := Option.ne_none_iff_exists'.mp stood
  obtain ⟨other, stands, _⟩ := overwritten.stands stood
  exact find_iff_target.mpr ⟨(overwritten.targets path).trans leads, by simp [stands]⟩

/-- A path that leads away from the spots holds the text that it held. -/
theorem readText (overwritten : Overwritten spots files others) {path : String}
    {location : Location} (found : files.find path = .ok location) (away : ¬spots location) :
    others.readText path = files.readText path := by
  simp only [FileSystem.readText, read, found, overwritten.find found,
    overwritten.elsewhere location away]

end Overwritten

/-- A path leads to something that takes a text, or to a free name for a file. -/
def Takes (files : FileSystem) (path : String) : Prop :=
  ∃ spot, files.target? path = some spot ∧
    ∀ entry, files.entry? spot = some entry → entry.isFile = true ∨ entry = .sink

/-- Writing keeps what takes a text and what does not. -/
theorem Overwritten.takes_iff {spots : Location → Prop} {files others : FileSystem}
    (overwritten : Overwritten spots files others) (path : String) :
    others.Takes path ↔ files.Takes path := by
  simp only [Takes, overwritten.targets path]
  refine exists_congr fun spot => and_congr_right fun _ => ?_
  -- Only files are made or replaced, and they are replaced by files.
  rcases overwritten.kinds spot with same | ⟨free, entry, stands, file⟩
  · cases before : files.entry? spot with
    | none =>
      have free : others.entry? spot = none := by simpa [before] using same
      simp [free]
    | some old =>
      rw [before, Option.map_some] at same
      obtain ⟨new, stands, shaped⟩ := Option.map_eq_some_iff.mp same
      cases old <;> cases new <;> simp [stands, Entry.shape, Entry.isFile] at shaped ⊢
  · simp [free, stands, file]

/-- A file that is made or replaced at the end of a path. -/
inductive Changed (files : FileSystem) (spot : Location) (next : Content → Content) :
    FileSystem → Prop where
  | replaced {content : Content} {executable : Bool}
      (stood : files.entry? spot = some (.file content executable)) :
    Changed files spot next (files.put spot (.file (next content) executable))
  | made (free : files.entry? spot = none) :
    Changed files spot next (files.put spot (.file (next .empty) false))
  | swallowed (sink : files.entry? spot = some .sink) : Changed files spot next files

/-- A change ends at the location that the path leads to. -/
theorem changed_of_change {files made : FileSystem} {path : String} {next : Content → Content}
    (done : files.change path next = .ok made) :
    ∃ spot, files.target? path = some spot ∧ Changed files spot next made := by
  -- All but a file, a sink and a free name refuse a change.
  simp only [change] at done
  cases place : files.locate path true with
  | error cause => simp [place] at done
  | ok found =>
    cases found with
    | present spot =>
      have leads : files.target? path = some spot := by rw [target?, place]
      cases stands : files.entry? spot with
      | none => simp [place, stands] at done
      | some entry =>
        cases entry with
        | file content executable =>
          obtain rfl : files.put spot (.file (next content) executable) = made := by
            simpa [place, stands] using done
          exact ⟨spot, leads, .replaced stands⟩
        | sink =>
          obtain rfl : files = made := by simpa [place, stands] using done
          exact ⟨spot, leads, .swallowed stands⟩
        | directory => simp [place, stands] at done
        | link target => simp [place, stands] at done
    | vacant spot slashed =>
      cases slashed with
      | true => simp [place] at done
      | false =>
        obtain rfl : files.put spot (.file (next .empty) false) = made := by
          simpa [place] using done
        exact ⟨spot, by rw [target?, place], .made (locate_vacant place)⟩

/-- What takes a text takes any change. -/
theorem change_of_takes {files : FileSystem} {path : String} (takes : files.Takes path)
    (next : Content → Content) : ∃ made, files.change path next = .ok made := by
  obtain ⟨spot, leads, fits⟩ := takes
  rw [target?] at leads
  -- A path that takes texts leads to an entry that is a file or a sink, or to a free place without
  -- a slash behind it.
  cases place : files.locate path true with
  | error cause => simp [place] at leads
  | ok found =>
    cases found with
    | present location =>
      obtain rfl : location = spot := by simpa [place] using leads
      obtain ⟨entry, stands⟩ := Option.ne_none_iff_exists'.mp (locate_reached place).stands
      have kind := fits entry stands
      cases entry <;> simp [Entry.isFile] at kind <;> simp [change, place, stands]
    | vacant location slashed =>
      cases slashed with
      | true => simp [place] at leads
      | false => simp [change, place]

/-- What is changed takes texts. -/
theorem takes_of_change {files made : FileSystem} {path : String} {next : Content → Content}
    (done : files.change path next = .ok made) : files.Takes path := by
  obtain ⟨spot, leads, changed⟩ := changed_of_change done
  refine ⟨spot, leads, ?_⟩
  intro entry stands
  -- A file was replaced, made at a free place, or a sink has taken the text.
  cases changed with
  | replaced stood =>
    rw [stood] at stands
    obtain rfl := Option.some.inj stands
    exact .inl rfl
  | made free => simp [free] at stands
  | swallowed sink =>
    rw [sink] at stands
    exact .inr (Option.some.inj stands).symm

/-- Why a file cannot be changed does not depend on the change. -/
theorem change_eq_error {files : FileSystem} {path : String} {next : Content → Content}
    {cause : FileError} (failed : files.change path next = .error cause)
    (other : Content → Content) : files.change path other = .error cause := by
  simp only [change] at failed ⊢
  -- Only what stands at the end of the path can refuse the change.
  cases place : files.locate path true with
  | error reason => simpa [place] using failed
  | ok found =>
    cases found with
    | vacant location slashed => cases slashed <;> simp [place] at failed ⊢; exact failed
    | present location =>
      cases stands : files.entry? location with
      | none => simpa [place, stands] using failed
      | some entry => cases entry <;> simp [place, stands] at failed ⊢ <;> exact failed

/-- A place that is filled takes the changes that the free one took. -/
theorem target?_of_filled {spot : Location} {entry : Entry} {files : FileSystem}
    (file : entry.isFile = true) (free : files.entry? spot = none) (path : String) :
    (files.put spot entry).target? path = files.target? path := by
  have filled := locate_filled entry file free path true
  simp only [target?]
  -- A walk that ends in the spot ends there as before, only that the name is taken now.
  generalize (files.put spot entry).locate path true = after at filled ⊢
  generalize files.locate path true = before at filled ⊢
  cases filled with
  | kept elsewhere => rfl
  | found => rfl
  | blocked beyond => rcases beyond with rfl | rfl <;> rfl

/-- A change writes to the one location that the path leads to. -/
theorem Changed.overwritten {files made : FileSystem} {spot : Location}
    {next : Content → Content} (changed : Changed files spot next made) :
    Overwritten (· = spot) files made := by
  cases changed with
  | @replaced content executable stood =>
    -- Walks see only shapes, and a file comes in the place of a file.
    have shape := sameShape_put stood rfl (.file (next content) executable) rfl
    have nonroot : spot ≠ [] := by
      rintro rfl
      simp at stood
    refine ⟨fun path => ?_, fun location away => ?_, fun location => .inl (shape location)⟩
    · exact target?_congr shape path
    · rw [entry?_put nonroot, if_neg away]
  | made free =>
    -- A file that is made fills a free name, and no path leads elsewhere for that.
    have nonroot := nonroot_of_free free
    refine ⟨target?_of_filled rfl free, fun location away => ?_, fun location => ?_⟩
    · rw [entry?_put nonroot, if_neg away]
    · by_cases same : location = spot
      · subst same
        exact .inr ⟨free, _, by rw [entry?_put nonroot, if_pos rfl], rfl⟩
      · rw [entry?_put nonroot, if_neg same]
        exact .inl rfl
  | swallowed sink => exact .refl _ files

/-- A text that is written to a file is what the file holds then. -/
theorem Changed.entry {files made : FileSystem} {spot : Location} {next : Content → Content}
    {content : Content} {executable : Bool} (changed : Changed files spot next made)
    (stood : files.entry? spot = some (.file content executable)) :
    made.entry? spot = some (.file (next content) executable) := by
  -- A file stood there, so it was replaced.
  cases changed with
  | @replaced other mode stands =>
    have nonroot : spot ≠ [] := by
      rintro rfl
      simp at stood
    rw [stood] at stands
    obtain ⟨rfl, rfl⟩ := Entry.file.inj (Option.some.inj stands)
    rw [entry?_put nonroot, if_pos rfl]
  | made free => simp [free] at stood
  | swallowed sink => simp [sink] at stood

/-- A path leads to a file or to a sink. -/
def Stores (files : FileSystem) (path : String) : Prop :=
  ∃ spot entry, files.find path = .ok spot ∧ files.entry? spot = some entry ∧
    (entry.isFile = true ∨ entry = .sink)

/-- Files and sinks are found on all disks of one shape alike. -/
theorem SameShape.stores {files others : FileSystem} (same : SameShape files others)
    {path : String} (stores : files.Stores path) : others.Stores path := by
  obtain ⟨spot, entry, found, stands, kind⟩ := stores
  -- What stands at the same place elsewhere differs in content at most, so that it is a file as
  -- well.
  have shape := same spot
  rw [stands, Option.map_some, eq_comm, Option.map_eq_some_iff] at shape
  obtain ⟨other, standsThere, shaped⟩ := shape
  refine ⟨spot, other, ?_, standsThere, ?_⟩
  · rw [← found, find, find, locate_congr same]
  · cases entry <;> simp [Entry.isFile] at kind <;> cases other <;>
      simp [Entry.shape, Entry.isFile] at shaped ⊢

/-- What is read as a text is a file or a sink. -/
theorem stores_of_readText {files : FileSystem} {path text : String}
    (read : files.readText path = .ok text) : files.Stores path := by
  obtain ⟨spot, found, ⟨executable, stands⟩ | ⟨stands, _⟩⟩ := readText_eq_ok.mp read
  · exact ⟨spot, _, found, stands, .inl rfl⟩
  · exact ⟨spot, _, found, stands, .inr rfl⟩

/--
What stands at a location once a text is written there, if one is: a file holds the text and may
be run as before, and a sink is a sink still.
-/
def settled : Option Entry → Option String → Option Entry
  | some (.file _ executable), some text => some (.file (.text text) executable)
  | entry, _ => entry

/-- Where no text is written everything stays. -/
@[simp] theorem settled_none (entry : Option Entry) : settled entry none = entry := by
  cases entry with
  | none => rfl
  | some entry => cases entry <;> rfl

/-- Of two texts that are written to a location the later one counts. -/
theorem settled_settled (entry : Option Entry) (first second : Option String) :
    settled (settled entry first) second = settled entry (second.or first) := by
  cases second with
  | none => simp
  | some second =>
    -- What becomes of an entry that is no file does not depend on the texts.
    cases first with
    | none => simp
    | some first =>
      cases entry with
      | none => rfl
      | some entry => cases entry <;> rfl

/-- A text that replaces a file or goes into a sink leaves all other locations as they are. -/
theorem Changed.settled {files made : FileSystem} {spot : Location} {text : String}
    (changed : Changed files spot (fun _ => .text text) made) (stood : files.entry? spot ≠ none) :
    SameShape made files ∧ ∀ location, made.entry? location =
      FileSystem.settled (files.entry? location) (if spot = location then some text else none) := by
  -- Where nothing stood before is left out; a sink stays as it is whatever is written into it.
  cases changed with
  | @replaced content executable file =>
    have nonroot : spot ≠ [] := by
      rintro rfl
      simp at file
    refine ⟨sameShape_put file rfl _ rfl, fun location => ?_⟩
    rw [entry?_put nonroot]
    by_cases same : spot = location
    · subst same
      rw [if_pos rfl, if_pos rfl, file]
      rfl
    · rw [if_neg (Ne.symm same), if_neg same, settled_none]
  | made free => exact absurd free stood
  | swallowed sink =>
    refine ⟨fun _ => rfl, fun location => ?_⟩
    by_cases same : spot = location
    · subst same
      rw [sink]
      cases (if spot = spot then some text else none) <;> rfl
    · rw [if_neg same, settled_none]

end FileSystem

end TemplateLint
