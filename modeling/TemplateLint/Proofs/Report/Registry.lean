import TemplateLint.Proofs.Effect
import TemplateLint.Report.Registry

/-! Reports that are shown, by formatters that are built in, change nothing on the disk. -/

namespace TemplateLint

open Effect

namespace Report

/-- A formatter succeeds on every desk and does no more than show lines. -/
def OnlyShows (formatter : Formatter) : Prop :=
  ∀ results facts desk, ∃ shown,
    perform (formatter results facts) desk = (.ok (), { desk with shown })

/-- A report that goes into no file is only shown. -/
theorem perform_deliver {options : ReportOptions} (noFile : options.outputFile = none)
    (text : String) (desk : Desk) :
    ∃ shown, perform (deliver options text) desk = (.ok (), { desk with shown }) := by
  unfold deliver
  rw [noFile]
  by_cases empty : text.isEmpty = true
  · -- Nothing is shown of an empty report.
    exact ⟨desk.shown, by simp [empty]⟩
  · exact ⟨desk.shown ++ [⟨false, ⟨.log, text⟩⟩], by simp only [empty]; rfl⟩

/-- The report for people is only shown unless a file is named for it. -/
theorem onlyShows_pretty {options : ReportOptions} (noFile : options.outputFile = none) :
    OnlyShows (pretty options) :=
  fun _ _ => perform_deliver noFile _

/-- The report for machines is only shown unless a file is named for it. -/
theorem onlyShows_json {options : ReportOptions} (noFile : options.outputFile = none) :
    OnlyShows (json options) :=
  fun _ _ => perform_deliver noFile _

end Report

namespace Registry

open Report

/-- The names of formatters that are built in. -/
def builtIn : List String :=
  standard.makers.map (·.1)

/-- A report is shown: it is made by one or several formatters that are built in, into no file. -/
structure IsShown (name : String) (options : ReportOptions) : Prop where
  noFile : options.outputFile = none
  ours : name ∈ builtIn ∨ name = multiName ∧
    ∀ delegate ∈ options.delegates, delegate.name ∈ builtIn ∧ delegate.outputFile = none

/-- Formatters that only show lines do no more one after another. -/
theorem onlyShows_inTurn {formatters : List Formatter}
    (each : ∀ formatter ∈ formatters, OnlyShows formatter) : OnlyShows (inTurn formatters) := by
  intro results facts desk
  induction formatters generalizing desk with
  | nil => exact ⟨desk.shown, rfl⟩
  | cons formatter later ih =>
    obtain ⟨shown, first⟩ := each formatter List.mem_cons_self results facts desk
    -- The later ones start from a desk where the lines of the first are shown.
    obtain ⟨more, rest⟩ := ih (fun other member => each other (List.mem_cons_of_mem _ member))
      { desk with shown }
    exact ⟨more, by rw [inTurn, perform_bind_of_ok _ first, rest]⟩

/-- A name that is built in stands for a formatter that only shows lines, whatever the disk. -/
theorem single_of_builtIn {name : String} (ours : name ∈ builtIn) {options : ReportOptions}
    (noFile : options.outputFile = none) :
    ∃ formatter, OnlyShows formatter ∧
      ∀ files, standard.single files name options = .ok formatter := by
  have names : name = "pretty" ∨ name = "json" := by simpa [builtIn, standard, register] using ours
  rcases names with rfl | rfl
  · exact ⟨pretty options, onlyShows_pretty noFile, fun _ => rfl⟩
  · exact ⟨json options, onlyShows_json noFile, fun _ => rfl⟩

/-- The formatter that runs others in turn is none of those that it can run. -/
theorem ne_multiName_of_builtIn {name : String} (known : name ∈ builtIn) : name ≠ multiName := by
  rintro rfl
  revert known
  decide

/-- Delegates that are built in stand for formatters that only show lines, whatever the disk. -/
theorem delegates_of_builtIn {delegates : List Delegate}
    (ours : ∀ delegate ∈ delegates, delegate.name ∈ builtIn ∧ delegate.outputFile = none)
    (options : ReportOptions) :
    ∃ formatters, (∀ formatter ∈ formatters, OnlyShows formatter) ∧
      ∀ files, standard.delegates files options delegates = .ok formatters := by
  induction delegates with
  | nil => exact ⟨[], by simp, fun _ => rfl⟩
  | cons delegate later ih =>
    obtain ⟨known, noFile⟩ := ours delegate List.mem_cons_self
    -- A delegate takes its own file from its entry, so it writes none here.
    have alone : (delegateOptions options delegate).outputFile = none := by
      simp [delegateOptions, noFile]
    obtain ⟨formatter, shows, found⟩ := single_of_builtIn known alone
    obtain ⟨formatters, showing, all⟩ :=
      ih fun other member => ours other (List.mem_cons_of_mem _ member)
    refine ⟨formatter :: formatters, ?_, ?_⟩
    · intro other member
      rcases List.mem_cons.mp member with rfl | inside
      · exact shows
      · exact showing other inside
    · intro files
      rw [Registry.delegates, if_neg (ne_multiName_of_builtIn known), found files, all files]

/-- A report that is shown is found whatever is on the disk, and its formatter only shows lines. -/
theorem resolve_of_isShown {name : String} {options : ReportOptions}
    (shown : IsShown name options) {files : FileSystem} {formatter : Formatter}
    (found : standard.resolve files name options = .ok formatter) :
    OnlyShows formatter ∧ ∀ others, standard.resolve others name options = .ok formatter := by
  rcases shown.ours with known | ⟨rfl, delegates⟩
  · -- A single formatter is found by its name alone.
    obtain ⟨own, shows, single⟩ := single_of_builtIn known shown.noFile
    simp only [resolve, if_neg (ne_multiName_of_builtIn known), single, Except.ok.injEq] at found ⊢
    subst found
    exact ⟨shows, fun _ => rfl⟩
  · -- Several are run in turn, and to have none of them is refused on every disk.
    obtain ⟨formatters, showing, all⟩ := delegates_of_builtIn delegates options
    simp only [resolve, if_true, all] at found ⊢
    split at found
    · simp at found
    · rename_i some
      obtain rfl := Except.ok.inj found
      exact ⟨onlyShows_inTurn showing, fun _ => if_neg some⟩

end Registry

end TemplateLint
