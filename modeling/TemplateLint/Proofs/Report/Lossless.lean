import Mathlib.Data.List.Induction
import TemplateLint.Proofs.Report.Delivery
import TemplateLint.Proofs.Report.Entries

/-!
The report for machines loses nothing: its text reads back as an object with a key for each file, in
the order in which the files first appear, and under it the file's own findings as they are.
-/

namespace TemplateLint

/-- What comes last stays last among items without repetitions, unless it came before. -/
theorem eraseDups_concat (items : List String) (last : String) :
    (items ++ [last]).eraseDups =
      if last ∈ items.eraseDups then items.eraseDups else items.eraseDups ++ [last] := by
  rw [List.eraseDups_append]
  by_cases known : last ∈ items
  · rw [if_pos (List.mem_eraseDups.mpr known)]
    simp [List.removeAll, known]
  · rw [if_neg (fun among => known (List.mem_eraseDups.mp among))]
    simp [List.removeAll, known, List.eraseDups_cons]

/-- The word for a severity names it. -/
theorem Severity.ofText?_text (severity : Severity) : ofText? severity.text = some severity := by
  cases severity <;> rfl

/-- A 64-bit word is read back from the number that it is written as. -/
theorem Json.word?_natural (value : UInt64) : (natural value.toNat).word? = some value := by
  have small : value.toNat < UInt64.size := value.toNat_lt
  have back : (natural value.toNat).natural? = some value.toNat := rfl
  simp only [word?, back, if_pos small, UInt64.ofNat_toNat]

/-- The object that a finding is written as holds the finding. -/
theorem Finding.ofJson?_toJson (finding : Finding) : ofJson? finding.toJson = some finding := by
  -- Each field is found under its own name and holds what was written there.
  have severity := Severity.ofText?_text finding.severity
  have line := Json.word?_natural finding.line
  have column := Json.word?_natural finding.column
  simp [ofJson?, toJson, Json.field?, Json.lastField?, Json.text?, severity, line, column]

namespace Report

variable {findings : List Finding}

/-- A finding goes into the group of its file among groups for different files. -/
theorem addToGroup_map (finding : Finding) {paths : List String} (once : paths.Nodup)
    (found : String → List Finding)
    (fresh : finding.filePath ∉ paths → found finding.filePath = []) :
    addToGroup finding (paths.map fun path => (path, found path)) =
      (if finding.filePath ∈ paths then paths else paths ++ [finding.filePath]).map fun path =>
        (path, if path = finding.filePath then found path ++ [finding] else found path) := by
  induction paths with
  | nil => simp [addToGroup, fresh]
  | cons path later ih =>
    obtain ⟨first, rest⟩ := List.nodup_cons.mp once
    rw [List.map_cons, addToGroup]
    by_cases same : path = finding.filePath
    · -- No later group is of this file, so they all stay as they are.
      have others : ∀ other ∈ later, (other, found other) =
          (other, if other = finding.filePath then found other ++ [finding] else found other) := by
        intro other member
        have apart : other ≠ finding.filePath := fun own => first (same.trans own.symm ▸ member)
        rw [if_neg apart]
      rw [if_pos same, if_pos (by simp [same]), List.map_cons, if_pos same,
        List.map_congr_left others]
    · rw [if_neg same, ih rest fun other => fresh (by simpa [Ne.symm same] using other)]
      by_cases known : finding.filePath ∈ later
      · simp [known, same]
      · simp [known, same, Ne.symm same]

/-- The groups are one for each file, in the order of first appearance, of the file's findings. -/
theorem groupByFile_eq (findings : List Finding) :
    groupByFile findings = (findings.map (·.filePath)).eraseDups.map fun path =>
      (path, findings.filter (·.filePath = path)) := by
  -- Findings are added at the end, so the induction takes them from there.
  induction findings using List.reverseRecOn with
  | nil => rfl
  | append_singleton before finding ih =>
    have once : (before.map (·.filePath)).eraseDups.Nodup := by
      have keys := keys_groupByFile before
      rwa [ih, List.map_map, List.map_id''] at keys
      exact fun _ => rfl
    have step : groupByFile (before ++ [finding]) = addToGroup finding (groupByFile before) := by
      rw [groupByFile, List.foldl_append]
      rfl
    have none (path : String) (fresh : path ∉ (before.map (·.filePath)).eraseDups) :
        before.filter (·.filePath = path) = [] := by
      refine List.filter_eq_nil_iff.mpr fun other member own => fresh ?_
      rw [List.mem_eraseDups]
      exact List.mem_map.mpr ⟨other, member, by simpa using own⟩
    rw [step, ih, addToGroup_map finding once _ (none _), List.map_append, List.map_singleton,
      eraseDups_concat]
    refine List.map_congr_left fun path _ => ?_
    rw [List.filter_append]
    by_cases same : path = finding.filePath
    · simp [same]
    · simp [same, Ne.symm same]

/-- What a report holds has a meaning all through, and nests no deeper than may be read. -/
theorem isSound_fieldsOf (findings : List Finding) :
    (Json.object (fieldsOf findings)).isSound Json.depthLimit = true := by
  have entry (depth : Nat) (finding : Finding) : finding.toJson.isSound (depth + 1) = true := by
    simp [Finding.toJson, Json.isSound, Json.areSoundFields, Json.natural]
  have entries (depth : Nat) (found : List Finding) :
      Json.areSound (depth + 1) (found.map Finding.toJson) = true := by
    induction found with
    | nil => simp [Json.areSound]
    | cons finding later ih => simp [Json.areSound, entry, ih]
  have all (depth : Nat) (groups : List (String × List Finding)) :
      Json.areSoundFields (depth + 2) (groups.map fun group =>
        (group.1, Json.array (group.2.map Finding.toJson))) = true := by
    induction groups with
    | nil => simp [Json.areSoundFields]
    | cons group later ih => simp [Json.areSoundFields, Json.isSound, entries, ih]
  -- The object holds arrays of objects, three levels in all.
  rw [Json.depthLimit, Json.isSound]
  exact all 124 _

/--
The report for machines is lossless. Its text, which is shown on a line or stands in the file of the
report in the end, reads back as an object whose keys are the files with findings that are shown, in
the order of their first appearance, and the entries under a key read back as just these findings of
that file, in order; so all of them are there, each once.
-/
theorem json_lossless (options : ReportOptions) (results : Results) :
    ∃ text fields, (∀ facts, json options results facts = deliver options text) ∧
      (∀ facts, GivesOut options text (json options results facts)) ∧
      text.isEmpty = false ∧
      Json.parse? text.toList = some (.object fields) ∧
      (Json.object fields).isSound Json.depthLimit = true ∧
      (fields.map Prod.fst).Nodup ∧
      fields.map Prod.fst = ((options.visible results).map (·.filePath)).eraseDups ∧
      (∀ path value, (path, value) ∈ fields → ∃ entries, value = .array entries ∧
        entries.map Finding.ofJson? =
          ((options.visible results).filter (·.filePath = path)).map some) ∧
      ((entries fields).map Finding.ofJson?).Perm ((options.visible results).map some) := by
  have back (findings : List Finding) :
      (findings.map Finding.toJson).map Finding.ofJson? = findings.map some := by
    rw [List.map_map]
    exact List.map_congr_left fun finding _ => finding.ofJson?_toJson
  have read : Json.parse? (jsonObject options results).renderIndented.toList =
      some (.object (fieldsOf (options.visible results))) :=
    Json.parse?_renderIndented (isPlain_fieldsOf _)
  have some : (jsonObject options results).renderIndented.isEmpty = false := by
    -- Nothing is read from an empty text.
    refine Bool.eq_false_iff.mpr fun empty => ?_
    rw [String.isEmpty_iff.mp empty] at read
    cases read
  refine ⟨(jsonObject options results).renderIndented, fieldsOf (options.visible results),
    fun _ => rfl, fun _ => givesOut_deliver some, some, read, isSound_fieldsOf _, keys_fieldsOf _,
    ?_, ?_, ?_⟩
  · -- The keys are the names of the groups.
    rw [fieldsOf, groupByFile_eq, List.map_map, List.map_map]
    exact List.map_id _
  · intro path value member
    rw [fieldsOf, groupByFile_eq, List.map_map] at member
    obtain ⟨own, _, same⟩ := List.mem_map.mp member
    obtain ⟨rfl, rfl⟩ := Prod.mk.inj same
    exact ⟨_, rfl, back _⟩
  · rw [← back]
    exact (entries_fieldsOf _).map _

end Report

end TemplateLint
