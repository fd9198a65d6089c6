import Mathlib.Data.List.Forall2
import TemplateLint.Proofs.Files.FileSystem
import TemplateLint.Proofs.Report.Failure

/-!
Several formatters in one run: which of them are found for the delegates, with which options, and
which of them have reported by the end.
-/

namespace TemplateLint

open Effect

namespace Registry

open Report

/-- A name, and what makes the formatter that it stands for. -/
abbrev Registration :=
  String × (ReportOptions → Formatter)

/-- The registrations of the formatters that are built in. -/
def builtInFormatters : List Registration :=
  [("pretty", pretty), ("json", json)]

/-- The registry after further registrations, one after another. -/
def ofRegistrations (made : List Registration) : Registry :=
  made.foldl (fun registry entry => registry.register entry.1 entry.2) standard

/-- After a registration its name stands for its formatter, and all others for theirs. -/
theorem lookup_register (registry : Registry) (own name : String)
    (make : ReportOptions → Formatter) :
    (registry.register own make).makers.lookup name =
      if name = own then some make else registry.makers.lookup name := by
  rw [register, List.lookup_append, lookup_filter, List.lookup_cons]
  by_cases same : name = own
  · simp [same]
  · have passed : (name == own) = false := by simpa using same
    simp [same, passed]

/-- Registrations replace what was registered before under their names. -/
theorem lookup_foldl_register (made : List Registration) (registry : Registry) (name : String) :
    (made.foldl (fun registry entry => registry.register entry.1 entry.2) registry).makers.lookup
        name =
      (made.reverse.lookup name).or (registry.makers.lookup name) := by
  -- In the reversed list later registrations stand first, so they are found first.
  induction made generalizing registry with
  | nil => simp
  | cons entry later ih =>
    obtain ⟨own, make⟩ := entry
    rw [List.foldl_cons, ih, lookup_register, List.reverse_cons, List.lookup_append,
      Option.or_assoc, List.lookup_cons]
    refine congrArg _ ?_
    by_cases same : name = own
    · simp [same]
    · have passed : (name == own) = false := by simpa using same
      simp [same, passed]

/-- A name stands for what was registered last under it. -/
theorem lookup_ofRegistrations (made : List Registration) (name : String) :
    (ofRegistrations made).makers.lookup name =
      (builtInFormatters ++ made).reverse.lookup name := by
  have start : standard.makers.lookup name = (builtInFormatters.reverse.lookup name).or none :=
    lookup_foldl_register builtInFormatters ⟨[]⟩ name
  rw [ofRegistrations, lookup_foldl_register, start, Option.or_none, List.reverse_append,
    List.lookup_append]

section Meaning

variable (made : List Registration) (files : FileSystem)

/-- Under a name something was made the last time that it was registered. -/
def IsLast (name : String) (make : ReportOptions → Formatter) : Prop :=
  ∃ before after, builtInFormatters ++ made = before ++ (name, make) :: after ∧
    ∀ entry ∈ after, entry.1 ≠ name

/-- Nothing was registered under a name. -/
def IsUnknown (name : String) : Prop :=
  ∀ entry ∈ builtInFormatters ++ made, entry.1 ≠ name

/--
The formatter that a name stands for: the one that was registered last, or else the first program
of the name that may be run.
-/
inductive Names (name : String) (options : ReportOptions) : Formatter → Prop
  | registered {make : ReportOptions → Formatter} (last : IsLast made name make) :
      Names name options (make options)
  | program {before after : List String} {program : String} (unknown : IsUnknown made name)
      (candidates : programCandidates options.workingDir name = before ++ program :: after)
      (earlier : ∀ path ∈ before, files.isExecutable path = false)
      (runs : files.isExecutable program = true) :
      Names name options (external name program options)

/-- A delegate stands for the formatter of its name, with its own output file or none. -/
def StandsFor (options : ReportOptions) (delegate : Delegate) (formatter : Formatter) : Prop :=
  delegate.name ≠ multiName ∧
    Names made files delegate.name
      { options with outputFile := delegate.outputFile.map (Path.join options.workingDir) }
      formatter

/-- What is wrong with a delegate for which there is no formatter. -/
inductive IsFaulty (options : ReportOptions) (delegate : Delegate) : LintError → Prop
  | itself (same : delegate.name = multiName) :
      IsFaulty options delegate (.formatterNotLoaded multiName .selfDelegation)
  | missing (other : delegate.name ≠ multiName) (unknown : IsUnknown made delegate.name)
      (none : ∀ path ∈ programCandidates options.workingDir delegate.name,
        files.isExecutable path = false) :
      IsFaulty options delegate (.formatterNotLoaded delegate.name
        (.noProgram (programCandidates options.workingDir delegate.name)))

end Meaning

variable {made : List Registration} {files : FileSystem} {options : ReportOptions}

/-- The registry knows a name by its last registration. -/
theorem lookup_eq_some_iff {name : String} {make : ReportOptions → Formatter} :
    (ofRegistrations made).makers.lookup name = some make ↔ IsLast made name make := by
  rw [lookup_ofRegistrations, List.lookup_eq_some_iff]
  -- What stands before an entry in the reversed list was registered after it.
  constructor
  · rintro ⟨before, after, split, earlier⟩
    refine ⟨after.reverse, before.reverse, ?_, fun entry member same => ?_⟩
    · rw [← List.reverse_reverse (builtInFormatters ++ made), split]
      simp
    · exact absurd (earlier entry (List.mem_reverse.mp member)) (by simp [same])
  · rintro ⟨before, after, split, later⟩
    refine ⟨after.reverse, before.reverse, by rw [split]; simp, fun entry member => ?_⟩
    simpa using Ne.symm (later entry (List.mem_reverse.mp member))

/-- The registry knows nothing by a name that was never registered. -/
theorem lookup_eq_none_iff {name : String} :
    (ofRegistrations made).makers.lookup name = none ↔ IsUnknown made name := by
  rw [lookup_ofRegistrations, List.lookup_eq_none_iff]
  refine forall_congr' fun entry => ?_
  rw [List.mem_reverse]
  exact imp_congr_right fun _ => by rw [bne_iff_ne, ne_comm]

/-- A name is found to be a formatter exactly if it stands for it. -/
theorem single_eq_ok {name : String} {formatter : Formatter} :
    (ofRegistrations made).single files name options = .ok formatter ↔
      Names made files name options formatter := by
  unfold single
  -- Programs are looked for only under a name that was never registered.
  constructor
  · intro found
    split at found
    · rename_i make known
      obtain rfl := Except.ok.inj found
      exact .registered (lookup_eq_some_iff.mp known)
    · rename_i unknown
      simp only [findExternal] at found
      split at found
      · rename_i program first
        obtain rfl := Except.ok.inj found
        obtain ⟨runs, before, after, split, earlier⟩ := List.find?_eq_some_iff_append.mp first
        exact .program (lookup_eq_none_iff.mp unknown) split (by simpa using earlier) runs
      · cases found
  · rintro (last | ⟨unknown, candidates, earlier, runs⟩)
    · rw [lookup_eq_some_iff.mpr last]
    · rename_i before after program
      have first : (programCandidates options.workingDir name).find? files.isExecutable =
          some program :=
        List.find?_eq_some_iff_append.mpr ⟨runs, before, after, candidates, by simpa using earlier⟩
      simp only [lookup_eq_none_iff.mpr unknown, findExternal, first]

/-- A name has no formatter exactly if it is not registered and none of its programs may be run. -/
theorem single_eq_error {name : String} {error : LintError} :
    (ofRegistrations made).single files name options = .error error ↔
      IsUnknown made name ∧
      (∀ path ∈ programCandidates options.workingDir name, files.isExecutable path = false) ∧
      error = .formatterNotLoaded name
        (.noProgram (programCandidates options.workingDir name)) := by
  unfold single
  -- A registered formatter never fails to be found, and without one the candidates for a program
  -- are tried.
  cases known : (ofRegistrations made).makers.lookup name with
  | some make =>
    have other : ¬IsUnknown made name := by simp [← lookup_eq_none_iff, known]
    simp [other]
  | none =>
    simp only [lookup_eq_none_iff.mp known, true_and, findExternal]
    cases first : (programCandidates options.workingDir name).find? files.isExecutable with
    | some program =>
      have runs := List.find?_some first
      have among := List.mem_of_find?_eq_some first
      simp only [reduceCtorEq, false_iff, not_and]
      exact fun none => absurd runs (by simp [none program among])
    | none =>
      have none : ∀ path ∈ programCandidates options.workingDir name,
          files.isExecutable path = false := by
        simpa using List.find?_eq_none.mp first
      rw [Except.error.injEq, and_iff_right none]
      exact eq_comm

/-- Delegates are found formatters exactly if each of them stands for its own. -/
theorem delegates_eq_ok {delegates : List Delegate} {formatters : List Formatter} :
    (ofRegistrations made).delegates files options delegates = .ok formatters ↔
      List.Forall₂ (StandsFor made files options) delegates formatters := by
  -- The induction is on the delegates, of which the first one is found first.
  induction delegates generalizing formatters with
  | nil => simp [Registry.delegates, eq_comm]
  | cons delegate later ih =>
    rw [List.forall₂_cons_left_iff]
    unfold Registry.delegates
    split
    · rename_i itself
      simp [StandsFor, itself]
    · rename_i other
      constructor
      · intro found
        split at found
        · cases found
        · rename_i formatter single
          split at found
          · cases found
          · rename_i rest others
            obtain rfl := Except.ok.inj found
            exact ⟨formatter, rest, ⟨other, single_eq_ok.mp single⟩, ih.mp others, rfl⟩
      · rintro ⟨formatter, rest, ⟨_, named⟩, others, rfl⟩
        have single := single_eq_ok.mpr named
        simp only [delegateOptions, single, ih.mpr others]

/-- Delegates are refused over the first of them that is faulty. -/
theorem delegates_eq_error {delegates : List Delegate} {error : LintError} :
    (ofRegistrations made).delegates files options delegates = .error error ↔
      ∃ before delegate after, delegates = before ++ delegate :: after ∧
        (∀ earlier ∈ before, ∃ formatter, StandsFor made files options earlier formatter) ∧
        IsFaulty made files options delegate error := by
  -- Either the first delegate is faulty, or it is found and the induction says which later one is.
  induction delegates with
  | nil => simp [Registry.delegates]
  | cons delegate later ih =>
    constructor
    · intro failed
      unfold Registry.delegates at failed
      split at failed
      · rename_i itself
        obtain rfl := Except.error.inj failed
        exact ⟨[], delegate, later, rfl, by simp, .itself itself⟩
      · rename_i other
        split at failed
        · rename_i cause single
          obtain rfl := Except.error.inj failed
          obtain ⟨unknown, none, rfl⟩ := single_eq_error.mp single
          exact ⟨[], delegate, later, rfl, by simp, .missing other unknown none⟩
        · rename_i formatter single
          split at failed
          · rename_i cause others
            obtain rfl := Except.error.inj failed
            obtain ⟨before, own, after, rfl, earlier, faulty⟩ := ih.mp others
            exact ⟨delegate :: before, own, after, rfl,
              List.forall_mem_cons.mpr ⟨⟨formatter, other, single_eq_ok.mp single⟩, earlier⟩,
              faulty⟩
          · cases failed
    · rintro ⟨before, own, after, split, earlier, faulty⟩
      unfold Registry.delegates
      cases before with
      | nil =>
        obtain ⟨rfl, rfl⟩ := List.cons.inj split
        cases faulty with
        | itself same => rw [if_pos same]
        | missing other unknown none =>
          have single : (ofRegistrations made).single files delegate.name
              (delegateOptions options delegate) = .error _ :=
            single_eq_error.mpr ⟨unknown, none, rfl⟩
          rw [if_neg other, single]
          rfl
      | cons first before =>
        obtain ⟨rfl, rfl⟩ := List.cons.inj split
        obtain ⟨⟨formatter, other, named⟩, rest⟩ := List.forall_mem_cons.mp earlier
        have single : (ofRegistrations made).single files delegate.name
            (delegateOptions options delegate) = .ok formatter := single_eq_ok.mpr named
        rw [if_neg other, single]
        simp only [ih.mpr ⟨before, own, after, rfl, rest, faulty⟩]

/-- Formatters report one after another, each on the desk that those before it leave. -/
inductive AllReport (results : Results) (facts : RunFacts) : Desk → List Formatter → Desk → Prop
  | done (desk : Desk) : AllReport results facts desk [] desk
  | next {desk mid left : Desk} {formatter : Formatter} {later : List Formatter}
      (reported : perform (formatter results facts) desk = (.ok (), mid))
      (rest : AllReport results facts mid later left) :
      AllReport results facts desk (formatter :: later) left

variable {results : Results} {facts : RunFacts}

/-- Formatters in turn succeed exactly if all of them report, one after another. -/
theorem perform_inTurn_ok {formatters : List Formatter} {desk left : Desk} :
    perform (inTurn formatters results facts) desk = (.ok (), left) ↔
      AllReport results facts desk formatters left := by
  -- The desk that the first formatter leaves is the one on which the next reports.
  induction formatters generalizing desk with
  | nil =>
    constructor
    · intro done
      obtain rfl : desk = left := (Prod.mk.inj done).2
      exact .done desk
    · rintro ⟨⟩
      rfl
  | cons formatter later ih =>
    rw [inTurn, perform_bind_ok]
    constructor
    · rintro ⟨⟨⟩, mid, reported, rest⟩
      exact .next reported (ih.mp rest)
    · rintro ⟨⟩
      rename_i mid reported rest
      exact ⟨(), mid, reported, ih.mpr rest⟩

/-- Several formatters are refused: there are no delegates, or the first faulty one fails so. -/
def IsRefused (made : List Registration) (files : FileSystem) (options : ReportOptions)
    (error : LintError) : Prop :=
  options.delegates = [] ∧ error = .formatterNotLoaded multiName .noDelegates ∨
    ∃ before delegate after, options.delegates = before ++ delegate :: after ∧
      (∀ earlier ∈ before, ∃ formatter, StandsFor made files options earlier formatter) ∧
      IsFaulty made files options delegate error

/-- Several formatters are refused before any of them reports. -/
theorem resolve_several_eq_error {error : LintError} :
    (ofRegistrations made).resolve files multiName options = .error error ↔
      IsRefused made files options error := by
  rw [resolve, if_pos rfl, IsRefused, ← delegates_eq_error]
  cases several : options.delegates with
  | nil => simp [Registry.delegates, eq_comm]
  | cons delegate later =>
    cases found : (ofRegistrations made).delegates files options (delegate :: later) <;>
      simp

/-- Several formatters that are not refused are those that the delegates stand for, in turn. -/
theorem resolve_several_eq_ok {formatter : Formatter}
    (found : (ofRegistrations made).resolve files multiName options = .ok formatter) :
    ∃ formatters, List.Forall₂ (StandsFor made files options) options.delegates formatters ∧
      formatter = inTurn formatters := by
  rw [resolve, if_pos rfl] at found
  split at found
  · cases found
  · split at found
    · cases found
    · rename_i formatters all
      exact ⟨formatters, delegates_eq_ok.mp all, (Except.ok.inj found).symm⟩

/-- A report whose formatter is refused changes nothing. -/
theorem perform_dispatch_of_error {registry : Registry} {name : String} {desk : Desk}
    {error : LintError} (refused : registry.resolve desk.files name options = .error error) :
    perform (registry.dispatch name options results facts) desk = (.error error, desk) := by
  rw [dispatch, perform_bind_of_ok _ (perform_get desk)]
  simp only [refused, perform_throw]

/-- A report is what its formatter makes. -/
theorem perform_dispatch_of_ok {registry : Registry} {name : String} {desk : Desk}
    {formatter : Formatter} (found : registry.resolve desk.files name options = .ok formatter) :
    perform (registry.dispatch name options results facts) desk =
      perform (formatter results facts) desk := by
  rw [dispatch, perform_bind_of_ok _ (perform_get desk)]
  simp only [found]

/--
Several formatters in one run, whatever was registered. Either they are refused, over having no
delegates or over the first faulty one, and nothing has changed. Or every delegate stands for a
formatter with its own output file, and these report in turn, each once and all of the same results:
all of them, or those before the first that fails, with whose error the run ends.
-/
theorem dispatch_several (made : List Registration) (options : ReportOptions) (results : Results)
    (facts : RunFacts) (desk : Desk) :
    (∀ error, (ofRegistrations made).resolve desk.files multiName options = .error error ↔
      IsRefused made desk.files options error) ∧
    ((∃ error, IsRefused made desk.files options error ∧
        perform ((ofRegistrations made).dispatch multiName options results facts) desk =
          (.error error, desk)) ∨
      ∃ formatters,
        (ofRegistrations made).resolve desk.files multiName options = .ok (inTurn formatters) ∧
        List.Forall₂ (StandsFor made desk.files options) options.delegates formatters ∧
        ((∃ left, AllReport results facts desk formatters left ∧
            perform ((ofRegistrations made).dispatch multiName options results facts) desk =
              (.ok (), left)) ∨
          ∃ before failing after mid error left, formatters = before ++ failing :: after ∧
            AllReport results facts desk before mid ∧
            perform (failing results facts) mid = (.error error, left) ∧
            perform ((ofRegistrations made).dispatch multiName options results facts) desk =
              (.error error, left))) := by
  refine ⟨fun error => resolve_several_eq_error, ?_⟩
  cases found : (ofRegistrations made).resolve desk.files multiName options with
  | error error =>
    -- All delegates are resolved before the first of them reports.
    exact .inl ⟨error, resolve_several_eq_error.mp found, perform_dispatch_of_error found⟩
  | ok formatter =>
    obtain ⟨formatters, all, rfl⟩ := resolve_several_eq_ok found
    refine .inr ⟨formatters, rfl, all, ?_⟩
    rw [perform_dispatch_of_ok found]
    cases outcome : perform (inTurn formatters results facts) desk with
    | mk answer left =>
      cases answer with
      | ok value => exact .inl ⟨left, perform_inTurn_ok.mp outcome, rfl⟩
      | error error =>
        obtain ⟨before, failing, after, mid, split, reported, failed⟩ :=
          perform_inTurn_error.mp outcome
        exact .inr ⟨before, failing, after, mid, error, left, split,
          perform_inTurn_ok.mp reported, failed, rfl⟩

end Registry

end TemplateLint
