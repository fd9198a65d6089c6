import TemplateLint.Proofs.Report.Registry

/-!
How a report fails: a formatter has shown nothing by the time that it fails, so of several in turn
only those before the one that fails have shown their reports.
-/

namespace TemplateLint

open Effect

/-- A fault of a report: it is not written into its file, or its program gives none. -/
inductive LintError.IsReportFault : LintError → Prop
  | unwritable (path : String) (cause : FileError) : IsReportFault (.unwritable path cause)
  | formatterFailed (name : String) (fault : RunFault) : IsReportFault (.formatterFailed name fault)

namespace Report

/-- A step of a report shows nothing when it fails, and it fails over a file or a program. -/
def FailsSilently {α : Type} (action : Reporting α) : Prop :=
  ∀ desk error left, perform action desk = (.error error, left) →
    left.shown = desk.shown ∧ error.IsReportFault

section FailsSilently

variable {α β : Type}

/-- A step that does nothing does not fail. -/
theorem failsSilently_pure (value : α) : FailsSilently (pure value) := by
  intro desk error left failed
  cases failed

/-- A failure by itself shows nothing. -/
theorem failsSilently_throw {error : LintError} (ours : error.IsReportFault) :
    FailsSilently (throw error : Reporting α) := by
  intro desk other left failed
  obtain ⟨same, rfl⟩ := Prod.mk.inj failed
  exact ⟨rfl, Except.error.inj same ▸ ours⟩

/-- A line is shown without fail. -/
theorem failsSilently_print (notice : Notice) : FailsSilently (print notice) := by
  intro desk error left failed
  cases failed

/-- What comes after a step that shows nothing fails as silently as that step. -/
theorem failsSilently_bind {first : Reporting α} {next : α → Reporting β}
    (here : FailsSilently first)
    (quiet : ∀ desk value mid, perform first desk = (.ok value, mid) → mid.shown = desk.shown)
    (there : ∀ value, FailsSilently (next value)) : FailsSilently (first >>= next) := by
  intro desk error left failed
  rcases perform_bind_error.mp failed with early | ⟨value, mid, done, late⟩
  · exact here desk error left early
  · obtain ⟨shown, ours⟩ := there value mid error left late
    exact ⟨shown.trans (quiet desk value mid done), ours⟩

/-- A look at the desk shows nothing. -/
theorem failsSilently_get_bind {next : Desk → Reporting β}
    (there : ∀ desk, FailsSilently (next desk)) : FailsSilently (get >>= next) := by
  refine failsSilently_bind ?_ ?_ there
  · intro desk error left failed
    cases failed
  · intro desk value mid done
    cases done
    rfl

/-- The disk that an operation leaves is taken silently before what comes next. -/
theorem failsSilently_store_bind (path : String) (result : Except FileError FileSystem)
    {next : Unit → Reporting β} (there : ∀ value, FailsSilently (next value)) :
    FailsSilently (store path result >>= next) := by
  -- Files are stored or nothing is, and nothing is shown either way.
  refine failsSilently_bind ?_ ?_ there
  · cases result with
    | error cause => exact failsSilently_throw (.unwritable path cause)
    | ok files =>
      intro desk error left failed
      cases failed
  · intro desk value mid done
    cases result with
    | error cause => cases done
    | ok files =>
      cases done
      rfl

/-- A report that is not delivered is not shown: the note about its file comes last. -/
theorem failsSilently_deliver (options : ReportOptions) (text : String) :
    FailsSilently (deliver options text) := by
  unfold deliver
  split
  · rename_i path _
    -- What is shown is shown last, when nothing can fail any more.
    have written (notice : Notice) : FailsSilently (do
        let desk ← get
        store path (desk.files.write path text)
        print notice) :=
      failsSilently_get_bind fun desk => failsSilently_store_bind path _ fun _ =>
        failsSilently_print notice
    simp only
    split
    · exact failsSilently_get_bind fun desk => failsSilently_store_bind _ _ fun _ => written _
    · exact written _
  · split
    · exact failsSilently_pure _
    · exact failsSilently_print _

/-- A program's report is not shown unless the program ends well. -/
theorem failsSilently_external (name program : String) (options : ReportOptions)
    (results : Results) (facts : RunFacts) :
    FailsSilently (external name program options results facts) := by
  unfold external
  -- The disk that the program leaves is taken over without a line being shown.
  intro desk error left failed
  rw [perform_bind_of_ok _ (perform_get desk)] at failed
  split at failed
  · exact failsSilently_throw (.formatterFailed name _) desk error left failed
  · rename_i done _
    rw [perform_bind_of_ok _ (perform_set { desk with files := done.files } desk)] at failed
    split at failed
    · exact failsSilently_deliver options _ { desk with files := done.files } error left failed
    · exact failsSilently_throw (.formatterFailed name _) { desk with files := done.files } error
        left failed

end FailsSilently

end Report

namespace Registry

open Report

variable {options : ReportOptions} {files : FileSystem} {results : Results} {facts : RunFacts}
  {desk left : Desk} {error : LintError}

/-- A single formatter fails silently, be it built in or a program. -/
theorem single_failsSilently {name : String} {formatter : Formatter}
    (found : standard.single files name options = .ok formatter) (results : Results)
    (facts : RunFacts) : FailsSilently (formatter results facts) := by
  unfold single at found
  split at found
  · rename_i make known
    obtain rfl := Except.ok.inj found
    -- Both formatters that are built in end by delivering a text.
    obtain ⟨before, after, all, _⟩ := List.lookup_eq_some_iff.mp known
    have member : (name, make) ∈ standard.makers := by simp [all]
    have makers : name = "pretty" ∧ make = pretty ∨ name = "json" ∧ make = json := by
      simpa [standard, register] using member
    rcases makers with ⟨_, rfl⟩ | ⟨_, rfl⟩
    · exact failsSilently_deliver options _
    · exact failsSilently_deliver options _
  · simp only [findExternal] at found
    split at found
    · obtain rfl := Except.ok.inj found
      exact failsSilently_external name _ options results facts
    · cases found

/-- Each of several formatters fails silently by itself. -/
theorem delegates_failSilently {delegates : List Delegate} {formatters : List Formatter}
    (found : standard.delegates files options delegates = .ok formatters) :
    ∀ formatter ∈ formatters, ∀ results facts, FailsSilently (formatter results facts) := by
  -- The induction is on the delegates, all of which are found before any of them reports.
  induction delegates generalizing formatters with
  | nil =>
    obtain rfl := Except.ok.inj found
    simp
  | cons delegate later ih =>
    rw [Registry.delegates] at found
    split at found
    · cases found
    · split at found
      · cases found
      · rename_i first single
        split at found
        · cases found
        · rename_i rest others
          obtain rfl := Except.ok.inj found
          exact List.forall_mem_cons.mpr ⟨single_failsSilently single, ih others⟩

/-- Formatters in turn fail exactly when one of them does after all before it have reported. -/
theorem perform_inTurn_error {formatters : List Formatter} :
    perform (inTurn formatters results facts) desk = (.error error, left) ↔
      ∃ before failing after mid, formatters = before ++ failing :: after ∧
        perform (inTurn before results facts) desk = (.ok (), mid) ∧
        perform (failing results facts) mid = (.error error, left) := by
  -- The induction is on the formatters: the first fails, or those after it do.
  induction formatters generalizing desk with
  | nil =>
    constructor
    · intro failed
      cases failed
    · rintro ⟨before, failing, after, mid, split, _⟩
      simp at split
  | cons formatter later ih =>
    rw [inTurn, perform_bind_error]
    constructor
    · rintro (first | ⟨⟨⟩, mid, done, rest⟩)
      · exact ⟨[], formatter, later, desk, rfl, rfl, first⟩
      · obtain ⟨before, failing, after, last, rfl, shown, failed⟩ := ih.mp rest
        refine ⟨formatter :: before, failing, after, last, rfl, ?_, failed⟩
        rw [inTurn, perform_bind_of_ok _ done, shown]
    · rintro ⟨before, failing, after, last, split, shown, failed⟩
      cases before with
      | nil =>
        obtain ⟨rfl, rfl⟩ := List.cons.inj split
        obtain rfl : desk = last := (Prod.mk.inj shown).2
        exact .inl failed
      | cons first before =>
        obtain ⟨rfl, rfl⟩ := List.cons.inj split
        rw [inTurn] at shown
        obtain ⟨⟨⟩, mid, done, rest⟩ := perform_bind_ok.mp shown
        exact .inr ⟨(), mid, done, ih.mpr ⟨before, failing, after, last, rfl, rest, failed⟩⟩

/-- Of several formatters some have reported, and the next one fails with nothing shown. -/
def CutShort (formatters : List Formatter) (results : Results) (facts : RunFacts) (desk : Desk)
    (error : LintError) (left : Desk) : Prop :=
  ∃ before failing after mid, formatters = before ++ failing :: after ∧ before ≠ [] ∧
    perform (inTurn before results facts) desk = (.ok (), mid) ∧
    perform (failing results facts) mid = (.error error, left) ∧ left.shown = mid.shown

/-- A report that fails has shown nothing, unless it is one of several that is cut short. -/
theorem resolve_error {name : String} {formatter : Formatter}
    (found : standard.resolve files name options = .ok formatter)
    (failed : perform (formatter results facts) desk = (.error error, left)) :
    error.IsReportFault ∧ (left.shown = desk.shown ∨
      name = multiName ∧ ∃ formatters,
        standard.delegates files options options.delegates = .ok formatters ∧
        CutShort formatters results facts desk error left) := by
  unfold resolve at found
  split at found
  -- Several formatters work in turn, and each fails silently, so that what has been shown is from
  -- those before the one that fails.
  · rename_i several
    split at found
    · cases found
    · split at found
      · cases found
      · rename_i formatters all
        obtain rfl := Except.ok.inj found
        obtain ⟨before, failing, after, mid, rfl, done, last⟩ := perform_inTurn_error.mp failed
        obtain ⟨silent, ours⟩ :=
          delegates_failSilently all failing (by simp) results facts mid error left last
        refine ⟨ours, ?_⟩
        cases before with
        | nil =>
          obtain rfl : desk = mid := (Prod.mk.inj done).2
          exact .inl silent
        | cons first before =>
          exact .inr ⟨several, _, all, ⟨first :: before, failing, after, mid, rfl, by simp,
            done, last, silent⟩⟩
  · obtain ⟨silent, ours⟩ := single_failsSilently found results facts desk error left failed
    exact ⟨ours, .inl silent⟩

end Registry

end TemplateLint
