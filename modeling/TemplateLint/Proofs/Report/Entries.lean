import TemplateLint.Proofs.Json.Indented
import TemplateLint.Report.Json

/-!
The report for machines, read back: its entries are the findings that are shown, each once, under a
key for each file, and what they weigh does not depend on the order of the keys.
-/

namespace TemplateLint

namespace Finding

/-- A finding is written as a plain value. -/
theorem isPlain_toJson (finding : Finding) : finding.toJson.isPlain = true := by
  -- Lines and columns are numbers of a machine word.
  have word (value : UInt64) : Json.isWord (value.toNat : Int) = true := by
    have bound := value.toNat_lt
    simp only [Json.isWord, Bool.and_eq_true, decide_eq_true_eq]
    omega
  simp [toJson, Json.isPlain, Json.arePlainFields, Json.natural, word]

end Finding

namespace Report

open Json

/-- The items of a list; nothing else has any. -/
def items : Json → List Json
  | .array items => items
  | _ => []

/-- The entries of a report under all of its keys. -/
def entries (fields : List (String × Json)) : List Json :=
  fields.flatMap fun field => items field.2

/-- The entry names this severity. -/
def hasSeverity (word : String) (entry : Json) : Bool :=
  (entry.field? "severity").bind Json.text? = some word

/-- Some entry is an error, or there are more warnings than are allowed where these count. -/
def Condemns (fields : List (String × Json)) (quiet : Bool) (maxWarnings : Option Nat) : Prop :=
  (∃ entry ∈ entries fields, hasSeverity "error" entry = true) ∨
    (quiet = false ∧ ∃ limit, maxWarnings = some limit ∧
      limit < (entries fields).countP (hasSeverity "warning"))

/-- A report condemns whatever the order of its keys. -/
theorem condemns_perm {fields others : List (String × Json)} (same : fields.Perm others)
    (quiet : Bool) (maxWarnings : Option Nat) :
    Condemns fields quiet maxWarnings ↔ Condemns others quiet maxWarnings := by
  have shuffled : (entries fields).Perm (entries others) :=
    List.Perm.flatMap_right _ same
  simp only [Condemns, shuffled.mem_iff, shuffled.countP_eq]

/-- An entry names the severity of the finding that it is made of. -/
theorem hasSeverity_toJson (finding : Finding) (severity : Severity) :
    hasSeverity severity.text finding.toJson = decide (finding.severity = severity) := by
  have named : (finding.toJson.field? "severity").bind Json.text? =
      some finding.severity.text := rfl
  simp only [hasSeverity, named, Option.some.injEq]
  -- The three words are different.
  cases finding.severity <;> cases severity <;> rfl

/-- Findings with one more among them are the same findings in groups. -/
theorem addToGroup_perm (finding : Finding) (groups : List (String × List Finding)) :
    ((addToGroup finding groups).flatMap (·.2)).Perm (finding :: groups.flatMap (·.2)) := by
  induction groups with
  | nil => exact List.Perm.refl _
  | cons group later ih =>
    obtain ⟨path, found⟩ := group
    rw [addToGroup]
    -- The finding goes behind the others of its group, or the search for its group goes on.
    split
    · simp only [List.flatMap_cons, List.append_assoc, List.singleton_append]
      exact List.perm_middle
    · simp only [List.flatMap_cons]
      exact (ih.append_left found).trans List.perm_middle

/-- Groups hold the findings that they are made of, each once. -/
theorem groupByFile_perm (findings : List Finding) :
    ((groupByFile findings).flatMap (·.2)).Perm findings := by
  -- The induction is on the findings, for any groups that there are before.
  have onto (groups : List (String × List Finding)) :
      ((findings.foldl (fun groups finding => addToGroup finding groups) groups).flatMap
        (·.2)).Perm (groups.flatMap (·.2) ++ findings) := by
    induction findings generalizing groups with
    | nil => simp
    | cons finding later ih =>
      rw [List.foldl_cons]
      refine (ih _).trans (((addToGroup_perm finding groups).append_right later).trans ?_)
      exact List.perm_middle.symm
  exact onto []

/-- A finding goes into the group of its file, which is a new last one if there is none. -/
theorem keys_addToGroup (finding : Finding) (groups : List (String × List Finding)) :
    (addToGroup finding groups).map (·.1) =
      if finding.filePath ∈ groups.map (·.1) then groups.map (·.1)
      else groups.map (·.1) ++ [finding.filePath] := by
  induction groups with
  | nil => rfl
  | cons group later ih =>
    obtain ⟨path, found⟩ := group
    rw [addToGroup]
    by_cases same : path = finding.filePath
    · simp [same]
    · -- The group is of another file, so the finding goes on to the later ones.
      rw [if_neg same, List.map_cons, ih, List.map_cons]
      by_cases known : finding.filePath ∈ later.map (·.1)
      · rw [if_pos known, if_pos (List.mem_cons_of_mem _ known)]
      · rw [if_neg known, if_neg (by simpa [Ne.symm same] using known)]
        rfl

/-- There is one group for each file. -/
theorem keys_groupByFile (findings : List Finding) :
    ((groupByFile findings).map (·.1)).Nodup := by
  have onto (groups : List (String × List Finding)) (once : (groups.map (·.1)).Nodup) :
      ((findings.foldl (fun groups finding => addToGroup finding groups) groups).map
        (·.1)).Nodup := by
    induction findings generalizing groups with
    | nil => exact once
    | cons finding later ih =>
      rw [List.foldl_cons]
      refine ih _ ?_
      rw [keys_addToGroup]
      -- A new group comes last, and none before it is of its file.
      split
      · exact once
      · rename_i fresh
        refine List.nodup_append.mpr ⟨once, by simp, ?_⟩
        intro path member other single
        rw [List.mem_singleton.mp single]
        exact fun same => fresh (same ▸ member)
  exact onto [] List.nodup_nil

/-- The fields of a report: a key for each file, and a list of its findings. -/
def fieldsOf (findings : List Finding) : List (String × Json) :=
  (groupByFile findings).map fun (path, found) => (path, .array (found.map Finding.toJson))

/-- The entries of a report are the findings that it is made of. -/
theorem entries_fieldsOf (findings : List Finding) :
    (entries (fieldsOf findings)).Perm (findings.map Finding.toJson) := by
  have same : entries (fieldsOf findings) =
      ((groupByFile findings).flatMap (·.2)).map Finding.toJson := by
    rw [entries, fieldsOf, List.flatMap_map, List.map_flatMap]
    rfl
  rw [same]
  exact (groupByFile_perm findings).map _

/-- No key of a report stands twice. -/
theorem keys_fieldsOf (findings : List Finding) : ((fieldsOf findings).map (·.1)).Nodup := by
  rw [fieldsOf, List.map_map]
  exact keys_groupByFile findings

/-- A report is a plain value. -/
theorem isPlain_fieldsOf (findings : List Finding) :
    (Json.object (fieldsOf findings)).isPlain = true := by
  have each (found : List Finding) : arePlain (found.map Finding.toJson) = true := by
    induction found with
    | nil => simp [arePlain]
    | cons finding later ih => simp [arePlain, finding.isPlain_toJson, ih]
  have all (groups : List (String × List Finding)) : arePlainFields (groups.map
      fun (path, found) => (path, Json.array (found.map Finding.toJson))) = true := by
    induction groups with
    | nil => simp [arePlainFields]
    | cons group later ih => simp [arePlainFields, isPlain, each, ih]
  rw [isPlain]
  exact all _

/-- A report condemns as the findings do that it is made of. -/
theorem condemns_fieldsOf (findings : List Finding) (quiet : Bool) (maxWarnings : Option Nat) :
    Condemns (fieldsOf findings) quiet maxWarnings ↔
      (∃ finding ∈ findings, finding.severity = .error) ∨
        (quiet = false ∧ ∃ limit, maxWarnings = some limit ∧
          limit < findings.countP (·.severity = .warning)) := by
  have same := entries_fieldsOf findings
  -- Grouping only reorders the findings, and their severity can be read off their entries.
  have error (finding : Finding) : hasSeverity "error" finding.toJson =
      decide (finding.severity = .error) := hasSeverity_toJson finding .error
  have warning (finding : Finding) : hasSeverity "warning" finding.toJson =
      decide (finding.severity = .warning) := hasSeverity_toJson finding .warning
  have someError : (∃ entry ∈ entries (fieldsOf findings), hasSeverity "error" entry = true) ↔
      ∃ finding ∈ findings, finding.severity = .error := by
    constructor
    · rintro ⟨entry, member, weighs⟩
      obtain ⟨finding, inside, rfl⟩ := List.mem_map.mp (same.mem_iff.mp member)
      exact ⟨finding, inside, by simpa [error] using weighs⟩
    · rintro ⟨finding, inside, weighs⟩
      exact ⟨_, same.mem_iff.mpr (List.mem_map_of_mem inside), by simpa [error] using weighs⟩
  simp only [Condemns, someError, same.countP_eq, List.countP_map, Function.comp_def, warning]

end Report

end TemplateLint
