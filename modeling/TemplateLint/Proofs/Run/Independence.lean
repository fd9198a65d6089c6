import TemplateLint.Proofs.Run.Apart
import TemplateLint.Proofs.Todo.Reordering
import TemplateLint.Report.Basic

/-! The order in which files are linted does not matter: no file observes another. -/

namespace TemplateLint

namespace Run

open Effect FileSystem TodoStore

variable {set : RuleSet} {store : TodoStore} {today : Date} {workingDir : String}
  {options : RunOptions} {decay : Decay} {overriding : Bool}

/-- Two runs that lint the same files, begun alike, agree on everything but the order of files. -/
structure Agree (store : TodoStore) (changes : List Todo.Change) (specs others : List FileSpec)
    (session : Session (Option (List Todo))) (results otherResults : RunResults)
    (left otherLeft : Session (Option (List Todo))) : Prop where
  /-- Each file has a block of findings, its own, and the results are the blocks in order. -/
  blocks : ∃ block : FileSpec → List Finding,
    (∀ spec ∈ specs, ∀ finding ∈ block spec, finding.filePath = spec.identifier) ∧
    results.findings = specs.flatMap block ∧ otherResults.findings = others.flatMap block
  /-- As many todos are made and dropped. -/
  totals : results.added = otherResults.added ∧ results.removed = otherResults.removed
  /-- The exit status is the same, whatever warnings count for. -/
  status : ∀ quiet maxWarnings,
    (Results.ofFindings results.findings).summary.exitStatus quiet maxWarnings =
      (Results.ofFindings otherResults.findings).summary.exitStatus quiet maxWarnings
  /-- The disks are the same but for the text of the log. -/
  disk : ∀ location, ¬store.IsLogPlace session.files location →
    left.files.entry? location = otherLeft.files.entry? location
  /-- The log has the same live todos of every file in the same order, and no others change. -/
  todos : ∃ recorded otherRecorded,
    store.Coherent left.todos recorded ∧ store.Coherent otherLeft.todos otherRecorded ∧
    ∀ path, todosIn (Todo.live recorded) path = todosIn (Todo.live otherRecorded) path ∧
      ((∀ spec ∈ specs, storageKey spec.identifier ≠ storageKey path) →
        todosIn (Todo.live recorded) path = todosIn (Todo.live changes) path)

/-- Of files with different keys at most one has a given key, in whatever order they come. -/
theorem filter_key_eq {specs others : List FileSpec} (same : specs.Perm others)
    (keys : specs.Pairwise fun first second =>
      storageKey first.identifier ≠ storageKey second.identifier) (path : String) :
    (specs.filter fun spec => storageKey spec.identifier = storageKey path) =
      others.filter fun spec => storageKey spec.identifier = storageKey path := by
  -- At most one file has the key, in either order; if none has it both sides are empty.
  by_cases listed : ∃ spec ∈ specs, storageKey spec.identifier = storageKey path
  · obtain ⟨spec, member, key⟩ := listed
    have otherKeys := (same.pairwise_iff fun differ => Ne.symm differ).mp keys
    rw [filter_key_of_mem keys member key,
      filter_key_of_mem otherKeys (same.mem_iff.mp member) key]
  · simp only [not_exists, not_and] at listed
    rw [List.filter_eq_nil_iff.mpr (by simpa using listed), List.filter_eq_nil_iff.mpr]
    intro spec member
    simpa using listed spec (same.mem_iff.mpr member)

/-- Files that are done with in one order and in another leave the same behind. -/
theorem agree_of_allDone {specs others : List FileSpec} (same : specs.Perm others)
    {session left otherLeft : Session (Option (List Todo))} {changes : List Todo.Change}
    (apart : Apart store workingDir session.files specs) {own : FileSpec → Verdict}
    (made : own = verdictOf set store today workingDir options decay overriding session.files
      (Todo.live changes))
    (done : AllDone store workingDir changes own specs session left)
    (otherDone : AllDone store workingDir changes own others session otherLeft) :
    Agree store changes specs others session (resultsOf own specs) (resultsOf own others) left
      otherLeft := by
  have about : ∀ spec ∈ specs, ∀ change ∈ (own spec).changes, change.IsOf spec.identifier := by
    intro spec _
    rw [made]
    exact (about_verdictOf session.files _ spec).1
  have aboutOthers : ∀ spec ∈ others, ∀ change ∈ (own spec).changes,
      change.IsOf spec.identifier := fun spec member => about spec (same.mem_iff.mpr member)
  refine ⟨⟨fun spec => (own spec).findings, ?_, rfl, rfl⟩, ⟨?_, ?_⟩, ?_, ?_,
    ⟨_, _, done.coherent, otherDone.coherent, ?_⟩⟩
  · intro spec _
    rw [made]
    exact (about_verdictOf session.files _ spec).2
  · exact (same.map _).sum_nat
  · exact (same.map _).sum_nat
  · intro quiet maxWarnings
    have findings : (resultsOf own specs).findings.Perm (resultsOf own others).findings :=
      same.flatMap_right _
    simp only [Results.ofFindings, Summary.ofFindings_eq_of_weights (findings.map Finding.weight)]
  · intro location notLog
    by_cases here : ∃ spec ∈ specs, session.files.find (pathFrom workingDir spec) = .ok location
    · -- A file that is linted holds its output after either run.
      obtain ⟨spec, member, found⟩ := here
      obtain ⟨spot, content, executable, leads, stood, _⟩ := apart.stands member
      rw [found] at leads
      obtain rfl := Except.ok.inj leads
      rw [done.written spec member _ _ _ found stood,
        otherDone.written spec (same.mem_iff.mp member) _ _ _ found stood]
    · rw [done.disk.elsewhere location (not_or.mpr ⟨here, notLog⟩),
        otherDone.disk.elsewhere location]
      rintro (⟨spec, member, found⟩ | isLog)
      · exact here ⟨spec, same.mem_iff.mpr member, found⟩
      · exact notLog isLog
  · intro path
    rw [Todo.live_append, Todo.live_append, todosIn_applyAll, todosIn_applyAll,
      filter_changesOf about, filter_changesOf aboutOthers, ← filter_key_eq same apart.keys]
    refine ⟨rfl, fun unlisted => ?_⟩
    -- Without a file of the key there are no entries about the path.
    rw [List.filter_eq_nil_iff.mpr fun spec member => by simpa using unlisted spec member]
    rfl

/-- Whether files can be linted does not depend on their order. -/
theorem canLint_perm {specs others : List FileSpec} (same : specs.Perm others)
    (files : FileSystem) (own : FileSpec → Verdict) :
    CanLint store workingDir files own specs ↔ CanLint store workingDir files own others := by
  have changes : (changesOf own specs).Perm (changesOf own others) := same.flatMap_right _
  -- Whether there is anything to write does not depend on the order.
  have none : changesOf own specs = [] ↔ changesOf own others = [] := by
    rw [← List.length_eq_zero_iff, changes.length_eq, List.length_eq_zero_iff]
  simp only [CanLint, Ready, ne_eq, none, same.mem_iff]

/--
Files do not observe each other: a run over different regular files, none of them the log,
completes on one order of the files exactly when it completes on any other, and then both orders
give each file the same findings and leave the same texts and the same todos behind.
-/
theorem run_order_irrelevant {files others : FileSet} (same : files.specs.Perm others.specs)
    {session : Session (Option (List Todo))} {changes : List Todo.Change}
    (coherent : store.Coherent session.todos changes)
    (apart : Apart store workingDir session.files files.specs)
    (lints : options.printConfig = false) (set : RuleSet) (today : Date) (decay : Decay)
    (overriding : Bool) :
    ((∃ outcome left, perform (run (set.engine store today) workingDir options decay overriding
        files) session = (.ok outcome, left)) ↔
      ∃ outcome left, perform (run (set.engine store today) workingDir options decay overriding
        others) session = (.ok outcome, left)) ∧
    ∀ outcome left otherOutcome otherLeft,
      perform (run (set.engine store today) workingDir options decay overriding files) session =
          (.ok outcome, left) →
        perform (run (set.engine store today) workingDir options decay overriding others) session =
            (.ok otherOutcome, otherLeft) →
          ∃ results otherResults,
            outcome = .completed results ∧ otherOutcome = .completed otherResults ∧
            Agree store changes files.specs others.specs session results otherResults left
              otherLeft := by
  generalize made : verdictOf set store today workingDir options decay overriding session.files
    (Todo.live changes) = own
  have otherApart := apart.perm same
  obtain ⟨completes, fails⟩ := run_of_apart coherent apart lints made.symm
  obtain ⟨otherCompletes, otherFails⟩ := run_of_apart coherent otherApart lints made.symm
  have either : CanLint store workingDir session.files own files.specs ↔
      CanLint store workingDir session.files own others.specs := canLint_perm same session.files own
  by_cases can : CanLint store workingDir session.files own files.specs
  · -- Each file can be linted whatever comes before it, so both orders complete.
    obtain ⟨left, done, all⟩ := completes can
    obtain ⟨otherLeft, otherDone, otherAll⟩ := otherCompletes (either.mp can)
    refine ⟨⟨fun _ => ⟨_, _, otherDone⟩, fun _ => ⟨_, _, done⟩⟩, ?_⟩
    intro outcome after otherOutcome otherAfter first second
    obtain ⟨answer, rfl⟩ := Prod.mk.inj (done.symm.trans first)
    obtain ⟨otherAnswer, rfl⟩ := Prod.mk.inj (otherDone.symm.trans second)
    exact ⟨_, _, (Except.ok.inj answer).symm, (Except.ok.inj otherAnswer).symm,
      agree_of_allDone same apart made.symm all otherAll⟩
  · obtain ⟨error, left, failed⟩ := fails can
    obtain ⟨otherError, otherLeft, otherFailed⟩ := otherFails (mt either.mpr can)
    -- Neither order completes.
    simp [failed, otherFailed]

/-- The two templates of the project in the other order. -/
def sampleReversed : FileSet :=
  ⟨[.path "b.hbs", .path "a.hbs"], by decide⟩

/-- A run that makes todos of errors. -/
def sampleUpdating : RunOptions :=
  ⟨false, true, false, false, none⟩

/-- Two todos are made for the second template, whether it comes first or last. -/
theorem run_order_irrelevant_sample :
    sampleFiles.specs.Perm sampleReversed.specs ∧
      ∃ results left otherResults otherLeft,
        perform (run (sampleRules.engine sample ⟨738000, by decide⟩) "/p" sampleUpdating .never
          false sampleFiles) (.fresh sampleDisk .empty) = (.ok (.completed results), left) ∧
        perform (run (sampleRules.engine sample ⟨738000, by decide⟩) "/p" sampleUpdating .never
          false sampleReversed) (.fresh sampleDisk .empty) =
            (.ok (.completed otherResults), otherLeft) ∧
        results.added = 2 ∧
        Agree sample [.add (sampleTodo 1)] sampleFiles.specs sampleReversed.specs
          (.fresh sampleDisk .empty) results otherResults left otherLeft := by
  have same : sampleFiles.specs.Perm sampleReversed.specs := .swap _ _ _
  obtain ⟨either, agree⟩ := run_order_irrelevant same coherent_sampleDisk apart_sampleDisk
    (rfl : sampleUpdating.printConfig = false) sampleRules ⟨738000, by decide⟩ .never false
  have made : (perform (run (sampleRules.engine sample ⟨738000, by decide⟩) "/p" sampleUpdating
      .never false sampleFiles) (.fresh sampleDisk .empty)).1.toOption.map (fun outcome =>
        outcome.rec (motive := fun _ => Nat) RunResults.added 0) = some 2 := by
    decide +kernel
  -- Only that one order completes is computed; the other one follows.
  generalize done : perform (run (sampleRules.engine sample ⟨738000, by decide⟩) "/p" sampleUpdating
    .never false sampleFiles) (.fresh sampleDisk .empty) = result at made
  obtain ⟨answer, left⟩ := result
  obtain ⟨outcome, rfl, added⟩ := exists_of_toOption_map made
  obtain ⟨otherOutcome, otherLeft, otherDone⟩ := either.mp ⟨outcome, left, done⟩
  obtain ⟨results, otherResults, rfl, rfl, agrees⟩ :=
    agree outcome left otherOutcome otherLeft done otherDone
  exact ⟨same, results, left, otherResults, otherLeft, rfl, otherDone, added, agrees⟩

end Run

end TemplateLint
