import TemplateLint.Proofs.Run.Apart
import TemplateLint.Proofs.Todo.Cleanup

/-!
A run that fixes tells the truth about the disk that it leaves: linted anew without fixes, the
files give the same findings, and nothing is left to write.
-/

namespace TemplateLint

namespace Run

open Effect FileSystem TodoStore

variable {set : RuleSet} {store : TodoStore} {today : Date} {workingDir : String}
  {options : RunOptions} {decay : Decay} {overriding : Bool}

/-- A run fixes, and makes no todos. -/
structure Fixes (options : RunOptions) : Prop where
  fixes : options.fix = true
  makesNone : options.updateTodo = false

/-- A run only looks: it fixes nothing, and neither makes todos nor drops any. -/
structure OnlyLooks (options : RunOptions) : Prop where
  fixesNothing : options.fix = false
  makesNone : options.updateTodo = false
  dropsNone : options.cleanTodo = false
  lints : options.printConfig = false

/-- A run that fixes repairs a file, reports what is found then, and drops the stale todos. -/
theorem Fixes.verdict_eq (fixes : Fixes options) (path source : String) (live : List Todo) :
    verdict set store today options decay overriding path source live =
      ⟨set.repair source,
        reported live path (set.findings (set.repair source) path) true overriding today, ⟨0, 0⟩,
        cleanupChanges live path (set.findings (set.repair source) path) true overriding⟩ := by
  simp [verdict, settling, updatesOf, outputOf, fixes.fixes, fixes.makesNone, Todo.applyAll]

/-- A run that only looks reports what is found in a file, and leaves file and todos as they are. -/
theorem OnlyLooks.verdict_eq (looks : OnlyLooks options) (path source : String)
    (live : List Todo) :
    verdict set store today options decay overriding path source live =
      ⟨source, reported live path (set.findings source path) false overriding today, ⟨0, 0⟩,
        []⟩ := by
  simp [verdict, settling, updatesOf, outputOf, looks.fixesNothing, looks.makesNone,
    looks.dropsNone, Todo.applyAll, cleanupChanges]

/-- What is reported of a file depends on its own live todos. -/
theorem reported_congr {live others : List Todo} {path : String}
    (same : todosIn live path = todosIn others path) (found : List Finding)
    (cleanup overriding : Bool) (today : Date) :
    reported live path found cleanup overriding today =
      reported others path found cleanup overriding today := by
  simp only [reported, same]

/-- A run that completes lints its files: settings are shown of none only if there are none. -/
theorem perform_run_of_completed {engine : Engine (Option (List Todo))} {files : FileSet}
    {session left : Session (Option (List Todo))} {results : RunResults}
    (done : perform (run engine workingDir options decay overriding files) session =
      (.ok (.completed results), left)) :
    perform (run engine workingDir { options with printConfig := false } decay overriding files)
      session = (.ok (.completed results), left) := by
  -- Only over no files at all do settings that are shown come with results.
  cases shows : options.printConfig with
  | false =>
    have same : { options with printConfig := false } = options := by rw [← shows]
    rwa [same]
  | true =>
    simp only [run, shows, if_true] at done
    split at done
    · rename_i none
      simpa [run, none, lintFiles] using done
    · obtain ⟨_, _, _, printed⟩ := perform_bind_ok.mp done
      simp at printed
    · simp at done

/-- What a file looks like after it was fixed is what was reported of it then. -/
theorem verdictOf_fixed (fixes : Fixes options) {again : RunOptions} (looks : OnlyLooks again)
    {files fixed : FileSystem} {changes : List Todo.Change} {specs : List FileSpec}
    (apart : Apart store workingDir files specs) {own : FileSpec → Verdict}
    (made : own = verdictOf set store today workingDir options decay overriding files
      (Todo.live changes)) {spec : FileSpec} (member : spec ∈ specs)
    (text : fixed.readText (pathFrom workingDir spec) = .ok (own spec).output)
    (againDecay : Decay) :
    verdictOf set store today workingDir again againDecay overriding fixed
        (Todo.live (changes ++ changesOf own specs)) spec =
      { own spec with changes := [] } := by
  have about : ∀ spec ∈ specs, ∀ change ∈ (own spec).changes, change.IsOf spec.identifier := by
    intro spec _
    rw [made]
    exact (about_verdictOf files _ spec).1
  have todos := todosIn_changesOf about apart.keys member changes
  rw [verdictOf, text, looks.verdict_eq]
  simp only [Except.toOption, Option.getD_some]
  rw [reported_congr todos]
  -- The todos that the fix left are paired with the same findings again.
  have before : own spec = ⟨_, _, _, _⟩ := (congrFun made spec).trans (fixes.verdict_eq _ _ _)
  rw [before]
  simp only
  rw [reported_cleanup (Todo.distinct_live changes)]

/-- A file that is done with holds its output. -/
theorem AllDone.readText {changes : List Todo.Change} {own : FileSpec → Verdict}
    {specs : List FileSpec} {session left : Session (Option (List Todo))}
    (done : AllDone store workingDir changes own specs session left)
    (apart : Apart store workingDir session.files specs) {spec : FileSpec}
    (member : spec ∈ specs) :
    left.files.readText (pathFrom workingDir spec) = .ok (own spec).output := by
  obtain ⟨spot, content, executable, found, stood, _⟩ := apart.stands member
  exact readText_eq_ok.mpr ⟨spot, done.disk.find found,
    .inl ⟨executable, done.written spec member spot content executable found stood⟩⟩

/-- On the same disk a session that remembers no todos or the same ones is as coherent. -/
theorem coherent_of_session {session next : Session (Option (List Todo))}
    {changes : List Todo.Change} (coherent : store.Coherent session.todos changes)
    (disk : next.files = session.files)
    (memory : next.memory = none ∨ next.memory = session.memory) :
    store.Coherent next.todos changes := by
  have same : next.todos.files = session.todos.files := disk
  -- The log is the same one, and so is what is remembered of it, if anything is.
  refine ⟨same ▸ coherent.records, ?_⟩
  rcases memory with nothing | known
  · simp [Session.todos, nothing]
  · have cached : next.todos.live = session.todos.live := known
    rw [cached]
    exact coherent.cached

/-- Results depend on what is made of the files. -/
theorem resultsOf_congr {own other : FileSpec → Verdict} {specs : List FileSpec}
    (same : ∀ spec ∈ specs, own spec = { other spec with changes := [] }) :
    resultsOf own specs = resultsOf other specs ∧ changesOf own specs = [] := by
  induction specs with
  | nil => exact ⟨rfl, rfl⟩
  | cons spec later ih =>
    obtain ⟨first, others⟩ := List.forall_mem_cons.mp same
    obtain ⟨results, changes⟩ := ih others
    simp only [resultsOf, RunResults.mk.injEq] at results
    simp only [changesOf] at changes
    -- What is made of the first file differs at most in its entries, of which there are none.
    simp [resultsOf, changesOf, first, results, changes]

/-- Files that were fixed are done with: to look at them again finds the same and writes nothing. -/
theorem run_again_of_allDone (fixes : Fixes options) {again : RunOptions}
    (looks : OnlyLooks again) {files : FileSet} {session left next : Session (Option (List Todo))}
    {changes : List Todo.Change} (apart : Apart store workingDir session.files files.specs)
    {own : FileSpec → Verdict}
    (made : own = verdictOf set store today workingDir options decay overriding session.files
      (Todo.live changes))
    (all : AllDone store workingDir changes own files.specs session left) (againDecay : Decay)
    (disk : next.files = left.files) (memory : next.memory = none ∨ next.memory = left.memory) :
    ∃ after,
      perform (run (set.engine store today) workingDir again againDecay overriding files) next =
          (.ok (.completed (resultsOf own files.specs)), after) ∧
        after.files = left.files ∧
        ∃ recorded, store.Coherent left.todos recorded ∧ store.Coherent after.todos recorded := by
  have texts : ∀ spec ∈ files.specs, next.files.readText (pathFrom workingDir spec) =
      .ok (own spec).output := by
    intro spec member
    rw [disk]
    exact all.readText apart member
  have looksAgain : ∀ spec ∈ files.specs, verdictOf set store today workingDir again againDecay
      overriding next.files (Todo.live (changes ++ changesOf own files.specs)) spec =
        { own spec with changes := [] } := fun spec member =>
    verdictOf_fixed fixes looks apart made member (texts spec member) againDecay
  generalize madeAgain : verdictOf set store today workingDir again againDecay overriding
    next.files (Todo.live (changes ++ changesOf own files.specs)) = ownAgain at looksAgain
  obtain ⟨results, noChanges⟩ := resultsOf_congr looksAgain
  have coherentNext := coherent_of_session all.coherent disk memory
  have apartNext : Apart store workingDir next.files files.specs :=
    disk ▸ apart.overwritten all.disk
  -- All texts can be read and no entry is to be written, so the files can be linted.
  have can : CanLint store workingDir next.files ownAgain files.specs := by
    refine ⟨fun spec member => ⟨_, texts spec member⟩, ?_⟩
    rw [noChanges]
    exact fun some => absurd rfl some
  obtain ⟨onward, _⟩ := run_of_apart coherentNext apartNext looks.lints madeAgain.symm
  obtain ⟨after, second, allAgain⟩ := onward can
  have idle : after.files = next.files := by
    refine allAgain.idle (fun spec member => ?_) noChanges
    rw [texts spec member, looksAgain spec member]
  refine ⟨after, by rw [second, results], idle.trans disk, _, all.coherent, ?_⟩
  simpa [noChanges] using allAgain.coherent

/--
After a run that fixes different regular files, none of them the log, and makes no todos, a run
over the same files that only looks completes on the same day with the very same results, and
changes neither a file nor a todo.
-/
theorem run_after_fixes {files : FileSet} {session left : Session (Option (List Todo))}
    {changes : List Todo.Change} {results : RunResults}
    (coherent : store.Coherent session.todos changes)
    (apart : Apart store workingDir session.files files.specs) (fixes : Fixes options)
    (done : perform (run (set.engine store today) workingDir options decay overriding files)
      session = (.ok (.completed results), left))
    {again : RunOptions} (looks : OnlyLooks again) (againDecay : Decay)
    {next : Session (Option (List Todo))} (disk : next.files = left.files)
    (memory : next.memory = none ∨ next.memory = left.memory) :
    ∃ after,
      perform (run (set.engine store today) workingDir again againDecay overriding files) next =
          (.ok (.completed results), after) ∧
        after.files = left.files ∧
        ∃ recorded, store.Coherent left.todos recorded ∧ store.Coherent after.todos recorded := by
  have lints := perform_run_of_completed done
  generalize ready : { options with printConfig := false } = lintOptions at lints
  have shows : lintOptions.printConfig = false := by rw [← ready]
  have fixesStill : Fixes lintOptions := by
    rw [← ready]
    exact ⟨fixes.fixes, fixes.makesNone⟩
  generalize made : verdictOf set store today workingDir lintOptions decay overriding session.files
    (Todo.live changes) = own
  obtain ⟨completes, fails⟩ := run_of_apart coherent apart shows made.symm
  -- That the first run completed means that its files could be linted.
  by_cases can : CanLint store workingDir session.files own files.specs
  · obtain ⟨after, first, all⟩ := completes can
    obtain ⟨answer, rfl⟩ := Prod.mk.inj (first.symm.trans lints)
    obtain rfl : resultsOf own files.specs = results := by simpa using answer
    exact run_again_of_allDone fixesStill looks apart made.symm all againDecay disk memory
  · obtain ⟨error, after, failed⟩ := fails can
    rw [failed] at lints
    simp at lints

/-- A run that fixes. -/
def sampleFixing : RunOptions :=
  ⟨true, false, false, false, none⟩

/-- A run that only looks. -/
def sampleLooking : RunOptions :=
  ⟨false, false, false, false, none⟩

/-- The tabs of two templates are replaced, and the one finding that is left is found again. -/
theorem run_after_fixes_sample :
    ∃ results left,
      perform (run (sampleRules.engine sample ⟨738000, by decide⟩) "/p" sampleFixing .never false
        sampleFiles) (.fresh sampleDisk .empty) = (.ok (.completed results), left) ∧
      left.files.readText "/p/b.hbs" = .ok "x " ∧ results.findings.length = 1 ∧
      ∃ after,
        perform (run (sampleRules.engine sample ⟨738000, by decide⟩) "/p" sampleLooking .never false
          sampleFiles) (.fresh left.files .empty) = (.ok (.completed results), after) ∧
        after.files = left.files := by
  have fixed : (perform (run (sampleRules.engine sample ⟨738000, by decide⟩) "/p" sampleFixing
      .never false sampleFiles) (.fresh sampleDisk .empty)).2.files.readText "/p/b.hbs" =
        .ok "x " := by
    decide +kernel
  have completes : (perform (run (sampleRules.engine sample ⟨738000, by decide⟩) "/p" sampleFixing
      .never false sampleFiles) (.fresh sampleDisk .empty)).1.toOption.map (fun outcome =>
        outcome.rec (motive := fun _ => Nat) (fun results => results.findings.length) 0) =
          some 1 := by
    decide +kernel
  -- What the second run answers is not computed.
  generalize done : perform (run (sampleRules.engine sample ⟨738000, by decide⟩) "/p" sampleFixing
    .never false sampleFiles) (.fresh sampleDisk .empty) = result at fixed completes
  obtain ⟨answer, left⟩ := result
  obtain ⟨outcome, rfl, counted⟩ := exists_of_toOption_map completes
  cases outcome with
  | printedConfig => cases counted
  | completed results =>
    obtain ⟨after, second, disk, _⟩ := run_after_fixes coherent_sampleDisk apart_sampleDisk
      ⟨rfl, rfl⟩ done (⟨rfl, rfl, rfl, rfl⟩ : OnlyLooks sampleLooking) .never
      (rfl : (Session.fresh left.files .empty).files = left.files) (.inl rfl)
    exact ⟨results, left, rfl, fixed, counted, after, second, disk⟩

end Run

end TemplateLint
