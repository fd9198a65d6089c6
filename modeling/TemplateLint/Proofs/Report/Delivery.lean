import TemplateLint.Proofs.Files.Growth
import TemplateLint.Proofs.Report.Registry

/-!
What formatters that are built in do to the disk: they make directories for the files that reports
go into, and write these files, and do no more. What they are given to deliver is what is shown in
the end, or what stands in the file.
-/

namespace TemplateLint

open Effect

namespace Report

/-- A report is made without a change of what holds of the disk, be it finished or not. -/
def KeepsDisk (holds : FileSystem → Prop) (formatter : Formatter) : Prop :=
  ∀ results facts, Keeps (fun desk => holds desk.files) (formatter results facts)

/-- What holds of the disk outlives new directories, and a text written to any of some paths. -/
structure Survives (holds : FileSystem → Prop) (paths : List String) : Prop where
  directories : ∀ {files spot}, paths ≠ [] → holds files → files.entry? spot = none →
    holds (files.put spot .directory)
  texts : ∀ {files made path text}, path ∈ paths → holds files →
    files.write path text = .ok made → holds made

/-- What survives reports into some paths survives reports into fewer. -/
theorem Survives.mono {holds : FileSystem → Prop} {paths fewer : List String}
    (survives : Survives holds paths) (within : ∀ path ∈ fewer, path ∈ paths) :
    Survives holds fewer where
  directories some := survives.directories fun none => some (List.eq_nil_iff_forall_not_mem.mpr
    fun path member => by simpa [none] using within path member)
  texts member := survives.texts (within _ member)

/-- The disk that an operation leaves is taken if it succeeds. -/
theorem store_keeps {holds : FileSystem → Prop} {path : String}
    {result : Except FileError FileSystem} (kept : ∀ files, result = .ok files → holds files) :
    Keeps (fun desk => holds desk.files) (store path result) := by
  intro desk held
  cases result with
  | error cause => exact held
  | ok files => exact kept files rfl

/-- A report is delivered into its file at most. -/
theorem deliver_keeps {holds : FileSystem → Prop} {options : ReportOptions}
    (survives : Survives holds options.outputFile.toList) (text : String) :
    Keeps (fun desk => holds desk.files) (deliver options text) := by
  have shown (notice : Notice) : Keeps (fun desk => holds desk.files) (print notice) :=
    fun _ held => held
  unfold deliver
  cases file : options.outputFile with
  | none =>
    simp only
    split
    · exact keeps_pure _
    · exact shown _
  | some path =>
    rw [file] at survives
    have written (notice : Notice) : Keeps (fun desk => holds desk.files) (do
        let desk ← get
        store path (desk.files.write path text)
        print notice) := by
      refine keeps_get_bind fun desk held =>
        keeps_bind (store_keeps ?_) (fun _ => shown _) desk held
      exact fun made done => survives.texts (by simp) held done
    simp only
    -- A path at the root has no directories to be made.
    cases Path.parent? path with
    | none => exact written _
    | some parent =>
      -- The directories are made before the file is written.
      refine keeps_get_bind fun desk held =>
        keeps_bind (store_keeps ?_) (fun _ => written _) desk held
      exact fun made done => FileSystem.makeDirectories_keeps
        (survives.directories (by simp)) held done

/--
A step of a report gives out a text: on a line of its own if the report goes into no file, and else
into the file, with a note about it, if the step comes to its end; only a sink keeps nothing of it.
-/
structure GivesOut (options : ReportOptions) (text : String) (action : Reporting Unit) :
    Prop where
  shown : options.outputFile = none → ∀ desk, perform action desk =
    (.ok (), { desk with shown := desk.shown ++ [⟨false, ⟨.log, text⟩⟩] })
  written : ∀ path, options.outputFile = some path → ∀ desk after,
    perform action desk = (.ok (), after) →
      (after.files.readText path = .ok text ∨ after.files.follow? path = some .sink) ∧
        after.shown = desk.shown ++ [⟨true, ⟨.log, "Report written to " ++ path⟩⟩]

section GivesOut

variable {options : ReportOptions} {text : String} {desk after : Desk}

/-- The disk that an operation leaves is taken over, and nothing is shown for it. -/
theorem perform_store_ok {path : String} {result : Except FileError FileSystem}
    (done : perform (store path result) desk = (.ok (), after)) :
    result = .ok after.files ∧ after.shown = desk.shown := by
  -- A step that failed has not come to its end.
  cases result with
  | error cause => cases done
  | ok files =>
    cases done
    exact ⟨rfl, rfl⟩

/-- A report that is put into a file is what is written there last, and a note tells of it. -/
theorem written_of_deliver {path : String} (file : options.outputFile = some path)
    (done : perform (deliver options text) desk = (.ok (), after)) :
    (∃ before : FileSystem, before.write path text = .ok after.files) ∧
      after.shown = desk.shown ++ [⟨true, ⟨.log, "Report written to " ++ path⟩⟩] := by
  have written {mid : Desk} (shown : mid.shown = desk.shown)
      (last : perform (do
        let desk ← get
        store path (desk.files.write path text)
        print ⟨true, ⟨.log, "Report written to " ++ path⟩⟩) mid = (.ok (), after)) :
      (∃ before : FileSystem, before.write path text = .ok after.files) ∧
        after.shown = desk.shown ++ [⟨true, ⟨.log, "Report written to " ++ path⟩⟩] := by
    -- Storing takes the disk with the text over, and only the note comes after it.
    rw [perform_bind_of_ok _ (perform_get mid)] at last
    obtain ⟨⟨⟩, held, stored, noted⟩ := perform_bind_ok.mp last
    obtain ⟨wrote, same⟩ := perform_store_ok stored
    cases noted
    refine ⟨⟨mid.files, wrote⟩, ?_⟩
    show held.shown ++ _ = _
    rw [same, shown]
  unfold deliver at done
  rw [file] at done
  simp only at done
  -- The directories of the file are made before it is written.
  split at done
  · rw [perform_bind_of_ok _ (perform_get desk)] at done
    obtain ⟨⟨⟩, mid, made, last⟩ := perform_bind_ok.mp done
    exact written (perform_store_ok made).2 last
  · exact written rfl done

/-- A report that is delivered is given out, unless it is empty. -/
theorem givesOut_deliver (some : text.isEmpty = false) :
    GivesOut options text (deliver options text) where
  shown noFile desk := by
    unfold deliver
    rw [noFile]
    simp only [some, Bool.false_eq_true, if_false]
    rfl
  written path file desk after done := by
    -- What is written last is what stands in the file in the end.
    obtain ⟨⟨before, wrote⟩, note⟩ := written_of_deliver file done
    exact ⟨FileSystem.readText_of_write wrote, note⟩

end GivesOut

end Report

namespace Registry

open Report

/-- A report is made by one or several formatters that are built in. -/
def IsBuiltIn (name : String) (options : ReportOptions) : Prop :=
  name ∈ builtIn ∨ name = multiName ∧ ∀ delegate ∈ options.delegates, delegate.name ∈ builtIn

/-- The files that a report goes into: several formatters in one run have a file each, or none. -/
def outputFiles (name : String) (options : ReportOptions) : List String :=
  if name = multiName then
    options.delegates.filterMap fun delegate => (delegateOptions options delegate).outputFile
  else options.outputFile.toList

variable {holds : FileSystem → Prop} {options : ReportOptions} {files : FileSystem}

/-- A single formatter that is built in writes into its own file at most. -/
theorem single_keeps {name : String} (known : name ∈ builtIn) {formatter : Formatter}
    (found : standard.single files name options = .ok formatter)
    (survives : Survives holds options.outputFile.toList) : KeepsDisk holds formatter := by
  -- Both formatters that are built in end by delivering a text.
  have names : name = "pretty" ∨ name = "json" := by simpa [builtIn, standard, register] using known
  rcases names with rfl | rfl
  · obtain rfl : pretty options = formatter := Except.ok.inj found
    exact fun _ _ => deliver_keeps survives _
  · obtain rfl : json options = formatter := Except.ok.inj found
    exact fun _ _ => deliver_keeps survives _

/-- Formatters in turn keep what each of them keeps. -/
theorem inTurn_keeps {formatters : List Formatter}
    (each : ∀ formatter ∈ formatters, KeepsDisk holds formatter) :
    KeepsDisk holds (inTurn formatters) := by
  intro results facts
  induction formatters with
  | nil => exact keeps_pure _
  | cons formatter later ih =>
    exact keeps_bind (each formatter List.mem_cons_self results facts) fun _ =>
      ih fun other member => each other (List.mem_cons_of_mem _ member)

/-- Delegates that are built in write into their own files at most. -/
theorem delegates_keep {delegates : List Delegate}
    (known : ∀ delegate ∈ delegates, delegate.name ∈ builtIn) {formatters : List Formatter}
    (found : standard.delegates files options delegates = .ok formatters)
    (survives : ∀ delegate ∈ delegates,
      Survives holds (delegateOptions options delegate).outputFile.toList) :
    ∀ formatter ∈ formatters, KeepsDisk holds formatter := by
  -- The induction is on the delegates, all of which are found before any of them reports.
  induction delegates generalizing formatters with
  | nil =>
    obtain rfl := Except.ok.inj found
    simp
  | cons delegate later ih =>
    have here := known delegate List.mem_cons_self
    rw [Registry.delegates, if_neg (ne_multiName_of_builtIn here)] at found
    -- The first delegate is found, and then all others are.
    split at found
    · simp at found
    · rename_i first single
      split at found
      · simp at found
      · rename_i rest others
        obtain rfl := Except.ok.inj found
        refine List.forall_mem_cons.mpr
          ⟨single_keeps here single (survives delegate List.mem_cons_self), ?_⟩
        exact ih (fun other member => known other (List.mem_cons_of_mem _ member)) others
          fun other member => survives other (List.mem_cons_of_mem _ member)

/-- A report by formatters that are built in goes into its files and changes nothing else. -/
theorem resolve_keeps {name : String} (ours : IsBuiltIn name options) {formatter : Formatter}
    (found : standard.resolve files name options = .ok formatter)
    (survives : Survives holds (outputFiles name options)) : KeepsDisk holds formatter := by
  rcases ours with known | ⟨rfl, known⟩
  · have single := ne_multiName_of_builtIn known
    rw [resolve, if_neg single] at found
    rw [outputFiles, if_neg single] at survives
    exact single_keeps known found survives
  · rw [resolve, if_pos rfl] at found
    rw [outputFiles, if_pos rfl] at survives
    split at found
    · simp at found
    · split at found
      · simp at found
      · rename_i formatters all
        obtain rfl := Except.ok.inj found
        refine inTurn_keeps (delegates_keep known all fun delegate member => ?_)
        -- The file of a delegate is one of all files of the report.
        refine survives.mono fun path own => ?_
        exact List.mem_filterMap.mpr ⟨delegate, member, Option.mem_toList.mp own⟩

end Registry

end TemplateLint
