import TemplateLint.Proofs.Resolution
import TemplateLint.Settings.Effective

/-! Settings are found as before once the log of todos has appeared. -/

namespace TemplateLint

variable {spot : Location} {files others : FileSystem}

/-- A path to a file that is not named like the log leads away from the log's place. -/
theorem Appears.away_of_join (appears : Appears todoLogFile spot files others) {name : String}
    (other : name.toList.getLast? ≠ some 'o') (directory : String) :
    files.locate (Path.join directory name) true ≠ .ok (.vacant spot false) := by
  refine appears.away_of_other ?_
  intro suffix
  exact other (Path.getLast?_of_join (Resolution.getLast?_of_suffix suffix) (by decide))

namespace ProjectConfig

/-- A configuration that was found is found as it was. -/
theorem discover_eq (appears : Appears todoLogFile spot files others) {directory : String}
    {named : Option String} {config : Option ProjectConfig}
    (found : discover files directory named = .ok config) :
    discover others directory named = .ok config := by
  have located : locate? others directory named = locate? files directory named := by
    cases named with
    | some path => rfl
    | none =>
      -- The usual names end in other letters than the log's.
      have usual : ∀ name ∈ fileNames, name.toList.getLast? ≠ some 'o' := by decide
      unfold locate?
      generalize fileNames = names at usual
      induction names with
      | nil => rfl
      | cons name later ih =>
        have away := appears.away_of_join (usual name List.mem_cons_self) directory
        have others := ih fun other member => usual other (List.mem_cons_of_mem _ member)
        simp only [List.map_cons, List.find?_cons, appears.isFile_of_away away, others]
  simp only [discover, located] at found ⊢
  cases place : locate? files directory named with
  | none => simpa [place] using found
  | some path =>
    simp only [place] at found ⊢
    cases file : files.isFile path with
    | false => simp [file] at found
    | true =>
      -- A file that was there stands elsewhere than the log, which was not.
      have away : files.locate path true ≠ .ok (.vacant spot false) := by
        intro free
        simp [FileSystem.isFile, FileSystem.follow?, FileSystem.find, free] at file
      have holds : files.holds path = true := by
        unfold FileSystem.isFile at file
        unfold FileSystem.holds
        split at file
        · rename_i stands
          simp [stands]
        · simp at file
      have same : ofFile others path = ofFile files path := by
        simp only [ofFile, appears.readText_of_holds away holds]
      simpa [appears.isFile_of_away away, file, same] using found

end ProjectConfig

namespace Settings

/-- Settings that were in force are in force. -/
theorem effective_eq (appears : Appears todoLogFile spot files others) {directory : String}
    {arguments : Arguments} {settings : Settings}
    (found : effective files directory arguments = .ok settings) :
    effective others directory arguments = .ok settings := by
  simp only [effective] at found ⊢
  -- Settings depend on files only through the configuration that is discovered.
  split at found
  · simp at found
  · rename_i config discovered
    rw [ProjectConfig.discover_eq appears discovered]
    exact found

end Settings

namespace TodoStore

/-- The settings for todos are read as they were. -/
theorem readSettings_eq (appears : Appears todoLogFile spot files others) (store : TodoStore) :
    store.readSettings others = store.readSettings files ∧
      others.holds store.settingsPath = files.holds store.settingsPath := by
  -- The settings of a store have another name than the log, so that the log that appears stands
  -- elsewhere.
  have away : files.locate store.settingsPath true ≠ .ok (.vacant spot false) :=
    appears.away_of_join (by decide) store.directory
  have same := appears.holds_of_away away
  refine ⟨?_, same⟩
  simp only [readSettings, same]
  split
  · rename_i holds
    rw [appears.readText_of_holds away holds]
  · rfl

/-- The store is laid out and configured as it was. -/
theorem settingsFault?_eq (appears : Appears todoLogFile spot files others) (store : TodoStore)
    (project : Option Decay) :
    store.settingsFault? others project = store.settingsFault? files project := by
  obtain ⟨settings, holds⟩ := readSettings_eq appears store
  simp only [settingsFault?, settings, holds]

/-- The days until todos count again are in force as they were. -/
theorem decay_eq (appears : Appears todoLogFile spot files others) (store : TodoStore)
    (project : Option Decay) (overrides : Decay) :
    store.decay others project overrides = store.decay files project overrides := by
  simp only [decay, (readSettings_eq appears store).1]

end TodoStore

end TemplateLint
