import TemplateLint.Proofs.Todo.Store

/-!
Histories of a store of todos: whatever is done with it, log and memory tell the same todos, and
nothing that is done afterwards tells a compacted log from the log it was made of.
-/

namespace TemplateLint

open Todo

/-- A store that is open: where it is, and what the disk and memory hold. -/
structure OpenStore where
  store : TodoStore
  memory : TodoMemory

/-- One use of an open store; a store may be opened anew for another engine. -/
inductive StoreUse where
  | append (changes : List Change)
  | readAll
  | readFor (path : String)
  | update (path : String) (findings : List Finding) (decay : Decay) (overriding : Bool)
    (today : Date)
  | process (path : String) (findings : List Finding) (cleanup overriding : Bool) (today : Date)
  | reopen (engine : String)

/-- One step in the life of a store. -/
inductive StoreStep where
  | ordinary (use : StoreUse)
  | compact

/-- What a step answers. -/
inductive StoreAnswer where
  | done
  | todos (live : List Todo)
  | counts (counts : TodoCounts)
  | findings (findings : List Finding)
  | dropped (count : Nat)

namespace StoreUse

/-- What a use does with the disk and with memory. -/
def action (store : TodoStore) : StoreUse → TodoAction StoreAnswer
  | .append changes => do
    let _ ← store.append changes
    pure .done
  | .readAll => do
    let live ← store.liveTodos
    pure (.todos live)
  | .readFor path => do
    let live ← store.todosOf path
    pure (.todos live)
  | .update path findings decay overriding today => do
    let counts ← store.update path findings decay overriding today
    pure (.counts counts)
  | .process path findings cleanup overriding today => do
    let reported ← store.process path findings cleanup overriding today
    pure (.findings reported)
  | .reopen _ => do
    let memory ← get
    set memory.fresh
    pure .done

/-- The store after a use: the same, unless it is opened for another engine. -/
def storeAfter (store : TodoStore) : StoreUse → TodoStore
  | .reopen engine => { store with engine }
  | _ => store

/-- The entries that a use hands to the log, given the live todos that it finds. -/
def entries (store : TodoStore) (live : List Todo) : StoreUse → List Change
  | .append changes => changes
  | .update path findings decay overriding today =>
    store.updateChanges live path findings decay overriding today
  | .process path findings cleanup overriding _ =>
    TodoStore.cleanupChanges live path findings cleanup overriding
  | _ => []

/-- What a use answers, given the live todos that it finds, unless the log cannot be written. -/
def answer (store : TodoStore) (live : List Todo) : StoreUse → StoreAnswer
  | .append _ => .done
  | .readAll => .todos live
  | .readFor path => .todos (TodoStore.todosIn live path)
  | .update path findings decay overriding today =>
    let parts := store.updates (TodoStore.todosIn live path)
      (findings.filter (·.severity = .error)) decay overriding today
    .counts ⟨parts.1.length, parts.2.length⟩
  | .process path findings cleanup overriding today =>
    .findings (TodoStore.reported live path findings cleanup overriding today)
  | .reopen _ => .done

/-- The memory to which a use adds its entries: with the live todos read, if it reads them. -/
def base (memory : TodoMemory) (live : List Todo) : StoreUse → TodoMemory
  | .append _ => memory
  | .reopen _ => memory.fresh
  | _ => memory.loaded live

end StoreUse

namespace StoreStep

/-- What a step does with the disk and with memory. -/
def action (store : TodoStore) : StoreStep → TodoAction StoreAnswer
  | .ordinary use => use.action store
  | .compact => do
    let count ← store.compact
    pure (.dropped count)

/-- The store after a step. -/
def storeAfter (store : TodoStore) : StoreStep → TodoStore
  | .ordinary use => use.storeAfter store
  | .compact => store

/-- The answer of a step, and the store that it leaves. -/
def perform (step : StoreStep) (opened : OpenStore) : Except LintError StoreAnswer × OpenStore :=
  let outcome := Effect.perform (step.action opened.store) opened.memory
  (outcome.1, ⟨step.storeAfter opened.store, outcome.2⟩)

/-- The answers of steps one after another, and the store that they leave. -/
def performAll : List StoreStep → OpenStore → List (Except LintError StoreAnswer) × OpenStore
  | [], opened => ([], opened)
  | step :: later, opened =>
    let first := step.perform opened
    let rest := performAll later first.2
    (first.1 :: rest.1, rest.2)

/-- The live todos that a step finds. -/
def found (opened : OpenStore) : List Todo :=
  (Effect.perform opened.store.liveTodos opened.memory).1.toOption.getD []

/-- The entries that a step hands to the log and that the log takes. -/
def taken (opened : OpenStore) : StoreStep → List Change
  | .ordinary use =>
    match ((StoreStep.ordinary use).perform opened).1 with
    | .ok _ => use.entries opened.store (found opened)
    | .error _ => []
  | .compact => []

/-- The entries that steps hand to the log and that the log takes, in order. -/
def takenByAll : List StoreStep → OpenStore → List Change
  | [], _ => []
  | step :: later, opened => step.taken opened ++ takenByAll later (step.perform opened).2

end StoreStep

namespace OpenStore

open Effect TodoStore

/-- The log of an open store holds these entries, and memory agrees with it. -/
def Coherent (opened : OpenStore) (changes : List Change) : Prop :=
  opened.store.Coherent opened.memory changes

/-- Opening a store for another engine is no matter of its log. -/
theorem coherent_storeAfter {store : TodoStore} {memory : TodoMemory} {changes : List Change}
    (coherent : store.Coherent memory changes) (use : StoreUse) :
    (use.storeAfter store).Coherent memory changes := by
  cases use with
  | reopen engine => exact coherent_engine coherent engine
  | _ => exact coherent

/-- What a use reads beforehand keeps the store coherent. -/
theorem coherent_base {store : TodoStore} {memory : TodoMemory} {changes : List Change}
    (coherent : store.Coherent memory changes) (use : StoreUse) :
    store.Coherent (use.base memory (Todo.live changes)) changes := by
  -- Reopening forgets what was remembered; every other read remembers the live todos.
  cases use with
  | append more => exact coherent
  | reopen engine => exact coherent_fresh coherent
  | readAll => exact coherent_loaded coherent
  | readFor path => exact coherent_loaded coherent
  | update path findings decay overriding today => exact coherent_loaded coherent
  | process path findings cleanup overriding today => exact coherent_loaded coherent

/-- What a use reads beforehand leaves the disk as it is. -/
theorem files_base (memory : TodoMemory) (live : List Todo) (use : StoreUse) :
    (use.base memory live).files = memory.files := by
  cases use <;> rfl

/--
Every use of a coherent store answers from the live todos of the log, and all that it does to the
disk is to add its entries.
-/
theorem perform_use {store : TodoStore} {memory : TodoMemory} {changes : List Change}
    (coherent : store.Coherent memory changes) (use : StoreUse) :
    Effect.perform (use.action store) memory =
      mapAnswer (fun _ => use.answer store (Todo.live changes))
        (Effect.perform (store.append (use.entries store (Todo.live changes)))
          (use.base memory (Todo.live changes))) := by
  -- Each use reads what it needs and then adds its entries, if it has any.
  cases use with
  | append more => exact perform_bind_pure _ _ _
  | readAll =>
    rw [StoreUse.action, perform_bind_pure, perform_liveTodos coherent]
    rfl
  | readFor path =>
    rw [StoreUse.action, perform_bind_pure, perform_todosOf coherent]
    rfl
  | update path findings decay overriding today =>
    rw [StoreUse.action, perform_bind_pure, perform_update coherent]
    exact mapAnswer_mapAnswer _ _ _
  | process path findings cleanup overriding today =>
    rw [StoreUse.action, perform_bind_pure, perform_process coherent]
    exact mapAnswer_mapAnswer _ _ _
  | reopen engine => rfl

/-- A coherent store finds the live todos of its log. -/
theorem found_eq {opened : OpenStore} {changes : List Change}
    (coherent : opened.Coherent changes) : StoreStep.found opened = Todo.live changes := by
  rw [StoreStep.found, perform_liveTodos coherent]
  rfl

/-- A use keeps the store coherent, with the entries that the log takes after the others. -/
theorem coherent_use {opened : OpenStore} {changes : List Change}
    (coherent : opened.Coherent changes) (use : StoreUse) :
    ((StoreStep.ordinary use).perform opened).2.Coherent
      (changes ++ (StoreStep.ordinary use).taken opened) := by
  -- Where the log cannot be written no entry is taken, and else all of them are.
  rcases perform_append (coherent_base coherent use) (use.entries opened.store (Todo.live changes))
    with ⟨cause, failed⟩ | ⟨left, added, kept⟩
  · have outcome := perform_use coherent use
    rw [failed, mapAnswer_error] at outcome
    simp only [StoreStep.taken, StoreStep.perform, StoreStep.action, StoreStep.storeAfter, outcome,
      List.append_nil]
    exact coherent_storeAfter (coherent_base coherent use) use
  · have outcome := perform_use coherent use
    rw [added, mapAnswer_ok] at outcome
    simp only [StoreStep.taken, StoreStep.perform, StoreStep.action, StoreStep.storeAfter, outcome,
      found_eq coherent]
    exact coherent_storeAfter kept use

/--
A step keeps the store coherent: the live todos of its log are those of the log before, brought up
to date with the entries that the log takes.
-/
theorem coherent_step {opened : OpenStore} {changes : List Change}
    (coherent : opened.Coherent changes) (step : StoreStep) :
    ∃ recorded, (step.perform opened).2.Coherent recorded ∧
      Todo.live recorded = Todo.live (changes ++ step.taken opened) := by
  cases step with
  | ordinary use => exact ⟨_, coherent_use coherent use, rfl⟩
  | compact =>
    -- Compacting may replace the log, but never its live todos.
    obtain ⟨dropped, left, outcome, ⟨none, same⟩ | ⟨_, _, kept⟩⟩ := perform_compact coherent
    · refine ⟨changes, ?_, by simp [StoreStep.taken]⟩
      simp only [StoreStep.perform, StoreStep.action, perform_bind_pure, outcome, mapAnswer_ok, same]
      exact coherent
    · refine ⟨_, ?_, by simpa [StoreStep.taken] using live_adds changes⟩
      simp only [StoreStep.perform, StoreStep.action, perform_bind_pure, outcome, mapAnswer_ok]
      exact kept

/-- Steps keep the store coherent, with the live todos of the log and of all entries it takes. -/
theorem coherent_performAll {opened : OpenStore} {changes : List Change}
    (coherent : opened.Coherent changes) (steps : List StoreStep) :
    ∃ recorded, (StoreStep.performAll steps opened).2.Coherent recorded ∧
      Todo.live recorded = Todo.live (changes ++ StoreStep.takenByAll steps opened) := by
  induction steps generalizing opened changes with
  | nil => exact ⟨changes, coherent, by simp [StoreStep.takenByAll]⟩
  | cons step later ih =>
    obtain ⟨between, kept, same⟩ := coherent_step coherent step
    obtain ⟨recorded, last, total⟩ := ih kept
    refine ⟨recorded, last, ?_⟩
    -- Only the live todos of the log between count for what comes after.
    rw [total, live_append, same, ← live_append, List.append_assoc]
    rfl

/-- A coherent store answers reads from the live todos of its log, for all or for one file. -/
theorem answer_read {opened : OpenStore} {changes : List Change}
    (coherent : opened.Coherent changes) (path : String) :
    ((StoreStep.ordinary .readAll).perform opened).1 = .ok (.todos (Todo.live changes)) ∧
      ((StoreStep.ordinary (.readFor path)).perform opened).1 =
        .ok (.todos (todosIn (Todo.live changes) path)) := by
  constructor
  · simp only [StoreStep.perform, StoreStep.action, perform_use coherent]
    rfl
  · simp only [StoreStep.perform, StoreStep.action, perform_use coherent]
    rfl

/--
Whatever is done with a store, its log still reads as entries; their live todos are those of the
first log and of all entries that the log has taken since, in the same order; memory holds the
same todos if it holds any; and the store, opened anew, answers every read as before.
-/
theorem live_history {opened : OpenStore} {changes : List Change}
    (coherent : opened.Coherent changes) (steps : List StoreStep) :
    let reached := (StoreStep.performAll steps opened).2
    ∃ recorded,
      reached.store.Records reached.memory.files recorded ∧
      reached.store.readChanges reached.memory.files = .ok recorded ∧
      Todo.live recorded = Todo.live (changes ++ StoreStep.takenByAll steps opened) ∧
      (∀ live, reached.memory.live = some live → live = Todo.live recorded) ∧
      ∀ engine path,
        let reopened := ((StoreStep.ordinary (.reopen engine)).perform reached).2
        ((StoreStep.ordinary .readAll).perform reopened).1 =
            ((StoreStep.ordinary .readAll).perform reached).1 ∧
          ((StoreStep.ordinary .readAll).perform reached).1 =
            .ok (.todos (Todo.live recorded)) ∧
          ((StoreStep.ordinary (.readFor path)).perform reopened).1 =
            ((StoreStep.ordinary (.readFor path)).perform reached).1 ∧
          ((StoreStep.ordinary (.readFor path)).perform reached).1 =
            .ok (.todos (todosIn (Todo.live recorded) path)) := by
  intro reached
  obtain ⟨recorded, kept, same⟩ := coherent_performAll coherent steps
  refine ⟨recorded, kept.records, readChanges_of_records kept.records, same, kept.cached, ?_⟩
  intro engine path reopened
  -- Opening a store anew is a step like any other, and adds nothing to the log.
  have anew : reopened.Coherent recorded := coherent_engine (coherent_fresh kept) engine
  obtain ⟨all, file⟩ := answer_read kept path
  obtain ⟨allAnew, fileAnew⟩ := answer_read anew path
  exact ⟨by rw [all, allAnew], all, by rw [file, fileAnew], file⟩

/-- A store that has just been opened on a log of one todo. -/
def sample : OpenStore :=
  ⟨TodoStore.sample, TodoStore.sampleMemory⟩

/-- Todos added, cleaned up and compacted are those that the store tells when opened anew. -/
theorem live_history_sample :
    sample.Coherent [.add (sampleTodo 1)] ∧
      let steps : List StoreStep := [
        .ordinary .readAll,
        .ordinary (.append [.add (sampleTodo 2), .add (sampleTodo 1), .add (sampleTodo 3)]),
        .ordinary (.process "./a.hbs" [] true false ⟨738001, by decide⟩),
        .ordinary (.append [.add (sampleTodo 3), .add (sampleTodo 2)]),
        .compact,
        .ordinary (.reopen "tmplint")]
      ∃ recorded,
        (StoreStep.performAll steps sample).2.store.readChanges
            (StoreStep.performAll steps sample).2.memory.files = .ok recorded ∧
          Todo.live recorded = [sampleTodo 3, sampleTodo 2] := by
  refine ⟨coherent_sample, ?_⟩
  intro steps
  have coherent : sample.Coherent [.add (sampleTodo 1)] := coherent_sample
  -- Only the todos that the steps leave in memory have to be computed.
  obtain ⟨recorded, _, read, live, _⟩ := live_history coherent steps
  exact ⟨recorded, read, by rw [live]; decide +kernel⟩

/-- Two open stores with one memory, or with logs that are files of the same live todos. -/
structure Alike (first second : OpenStore) : Prop where
  store : first.store = second.store
  memory : first.memory = second.memory ∨
    (first.memory.files.isFile first.store.logPath = true ∧
      second.memory.files.isFile first.store.logPath = true ∧
      ∃ changes others, first.Coherent changes ∧ second.Coherent others ∧
        Todo.live changes = Todo.live others)

/-- A use answers alike on stores that are alike, and leaves them alike. -/
theorem alike_use {first second : OpenStore} (alike : Alike first second) (use : StoreUse) :
    ((StoreStep.ordinary use).perform first).1 = ((StoreStep.ordinary use).perform second).1 ∧
      Alike ((StoreStep.ordinary use).perform first).2
        ((StoreStep.ordinary use).perform second).2 := by
  obtain ⟨store, firstMemory⟩ := first
  obtain ⟨_, secondMemory⟩ := second
  obtain ⟨rfl, same | ⟨firstFile, secondFile, changes, others, firstKept, secondKept, live⟩⟩ := alike
  · obtain rfl := same
    exact ⟨rfl, rfl, .inl rfl⟩
  · -- Both logs are files, so both take the same entries and answer from the same todos.
    have firstBase := coherent_base firstKept use
    have secondBase := coherent_base secondKept use
    obtain ⟨firstLeft, firstAdded, firstStays, firstFileLeft⟩ := append_of_isFile firstBase
      (by rw [files_base]; exact firstFile) (use.entries store (Todo.live changes))
    obtain ⟨secondLeft, secondAdded, secondStays, secondFileLeft⟩ := append_of_isFile secondBase
      (by rw [files_base]; exact secondFile) (use.entries store (Todo.live changes))
    have firstOutcome := perform_use firstKept use
    have secondOutcome := perform_use secondKept use
    rw [firstAdded, mapAnswer_ok] at firstOutcome
    simp only [← live] at secondOutcome secondAdded
    rw [secondAdded, mapAnswer_ok] at secondOutcome
    simp only [StoreStep.perform, StoreStep.action, StoreStep.storeAfter, firstOutcome,
      secondOutcome, true_and]
    have directory : (use.storeAfter store).logPath = store.logPath := by cases use <;> rfl
    refine ⟨rfl, .inr ⟨directory ▸ firstFileLeft, directory ▸ secondFileLeft,
      changes ++ use.entries store (Todo.live changes),
      others ++ use.entries store (Todo.live changes),
      coherent_storeAfter firstStays use, coherent_storeAfter secondStays use, ?_⟩⟩
    rw [live_append, live_append, live]

/-- Uses one after another answer alike on stores that are alike. -/
theorem alike_performAll {first second : OpenStore} (alike : Alike first second)
    (uses : List StoreUse) :
    (StoreStep.performAll (uses.map .ordinary) first).1 =
      (StoreStep.performAll (uses.map .ordinary) second).1 := by
  induction uses generalizing first second with
  | nil => rfl
  | cons use later ih =>
    -- One use answers alike and leaves stores that are alike for the next.
    obtain ⟨answer, left⟩ := alike_use alike use
    simp only [List.map_cons, StoreStep.performAll, answer, ih left]

/--
A store can be compacted at any time, and no use of it afterwards, through however many openings,
is answered otherwise than without the compaction.
-/
theorem answers_compacted {opened : OpenStore} {changes : List Change}
    (coherent : opened.Coherent changes) :
    ∃ count compacted, StoreStep.compact.perform opened = (.ok (.dropped count), compacted) ∧
      ∀ uses : List StoreUse,
        (StoreStep.performAll (uses.map .ordinary) compacted).1 =
          (StoreStep.performAll (uses.map .ordinary) opened).1 := by
  obtain ⟨count, left, outcome, kept⟩ := perform_compact coherent
  refine ⟨count, ⟨opened.store, left⟩, ?_, ?_⟩
  · simp only [StoreStep.perform, StoreStep.action, perform_bind_pure, outcome, mapAnswer_ok,
      StoreStep.storeAfter]
  · intro uses
    apply alike_performAll
    refine ⟨rfl, ?_⟩
    -- A log that is missing is not compacted; any other is rewritten as what it adds up to.
    rcases kept with ⟨_, same⟩ | ⟨fileBefore, fileAfter, adds⟩
    · exact .inl same
    · exact .inr ⟨fileAfter, fileBefore, _, changes, adds, coherent, live_adds changes⟩

/-- An update after a compaction makes and drops as many todos as without it. -/
theorem answers_compacted_sample :
    sample.Coherent [.add (sampleTodo 1)] ∧
      ∃ count compacted, StoreStep.compact.perform sample = (.ok (.dropped count), compacted) ∧
        ∀ today, (StoreStep.performAll
            [.ordinary (.update "a.hbs" [] .never false today), .ordinary .readAll] compacted).1 =
          (StoreStep.performAll
            [.ordinary (.update "a.hbs" [] .never false today), .ordinary .readAll] sample).1 := by
  have coherent : sample.Coherent [.add (sampleTodo 1)] := coherent_sample
  obtain ⟨count, compacted, outcome, alike⟩ := answers_compacted coherent
  exact ⟨coherent, count, compacted, outcome, fun today =>
    alike [.update "a.hbs" [] .never false today, .readAll]⟩

end OpenStore

end TemplateLint
