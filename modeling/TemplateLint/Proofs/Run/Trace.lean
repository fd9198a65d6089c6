import Mathlib.Algebra.GroupWithZero.Nat
import TemplateLint.Proofs.Effect
import TemplateLint.Run

/-! What a run asks of its engine, and in which order, whatever the engine replies. -/

namespace TemplateLint

open Effect

namespace Run

variable {μ : Type}

/-- One thing that a run does, with everything that is handed over and the reply to it. -/
inductive Event where
  | load (spec : FileSpec) (reply : Except LintError Template)
  | verify (template : Template) (reply : Except LintError (List Finding))
  | fix (template : Template) (reply : Except LintError FixOutcome)
  | write (template : Template) (output : String) (reply : Except LintError Unit)
  | update (template : Template) (findings : List Finding) (decay : Decay) (overriding : Bool)
      (reply : Except LintError TodoCounts)
  | process (template : Template) (findings : List Finding) (decay : Decay)
      (cleanup overriding : Bool) (reply : Except LintError (List Finding))
  | settings (template : Template) (reply : Except LintError Json)
  | display (settings : Json) (reply : Except LintError Unit)

namespace Event

/-- The same thing, to which the reply is an error. -/
def failing (error : LintError) : Event → Event
  | .load spec _ => .load spec (.error error)
  | .verify template _ => .verify template (.error error)
  | .fix template _ => .fix template (.error error)
  | .write template output _ => .write template output (.error error)
  | .update template findings decay overriding _ =>
    .update template findings decay overriding (.error error)
  | .process template findings decay cleanup overriding _ =>
    .process template findings decay cleanup overriding (.error error)
  | .settings template _ => .settings template (.error error)
  | .display inForce _ => .display inForce (.error error)

/-- The thing is done in a session, the reply is given to it, and another session is left. -/
def Occurs (engine : Engine μ) (workingDir : String) (stdinFilename : Option String)
    (session left : Session μ) : Event → Prop
  | .load spec reply => perform (Run.load workingDir stdinFilename spec) session = (reply, left)
  | .verify template reply => perform (engine.verify template) session = (reply, left)
  | .fix template reply => perform (engine.fix template) session = (reply, left)
  | .write template output reply =>
    perform (writeBack workingDir template output) session = (reply, left)
  | .update template findings decay overriding reply =>
    perform (engine.updateTodos template findings decay overriding) session = (reply, left)
  | .process template findings decay cleanup overriding reply =>
    perform (engine.processTodos template findings decay cleanup overriding) session =
      (reply, left)
  | .settings template reply => perform (engine.settings template) session = (reply, left)
  | .display inForce reply =>
    perform (Session.print ⟨.log, inForce.renderIndented⟩) session = (reply, left)

end Event

/-- Things are done one after another, and nothing is done between them. -/
def Occur (engine : Engine μ) (workingDir : String) (stdinFilename : Option String) :
    List Event → Session μ → Session μ → Prop
  | [], session, left => left = session
  -- Each thing begins in the session that the one before it left.
  | event :: later, session, left =>
    ∃ mid, event.Occurs engine workingDir stdinFilename session mid ∧
      Occur engine workingDir stdinFilename later mid left

section Occur

variable {engine : Engine μ} {workingDir : String} {stdinFilename : Option String}
  {session left : Session μ}

/-- Of one thing alone nothing else is to be said. -/
@[simp] theorem occur_single {event : Event} :
    Occur engine workingDir stdinFilename [event] session left ↔
      event.Occurs engine workingDir stdinFilename session left := by
  simp [Occur]

/-- Things occur in turn exactly when the first of them occur and then the others. -/
theorem occur_append {first later : List Event} :
    Occur engine workingDir stdinFilename (first ++ later) session left ↔
      ∃ mid, Occur engine workingDir stdinFilename first session mid ∧
        Occur engine workingDir stdinFilename later mid left := by
  -- The induction is on the first things, and the session moves along with them.
  induction first generalizing session with
  | nil => simp [Occur]
  | cons event rest ih =>
    simp only [List.cons_append, Occur, ih]
    constructor
    · rintro ⟨next, here, mid, others, after⟩
      exact ⟨mid, ⟨next, here, others⟩, after⟩
    · rintro ⟨mid, ⟨next, here, others⟩, after⟩
      exact ⟨next, here, mid, others, after⟩

end Occur

/-- Events are those that were due up to one of them, which fails; no others occur. -/
def Breaks (due : List Event) (error : LintError) (events : List Event) : Prop :=
  ∃ before event after, due = before ++ event :: after ∧ events = before ++ [event.failing error]

/-- The first event that is due fails. -/
theorem breaks_cons (event : Event) (after : List Event) (error : LintError) :
    Breaks (event :: after) error [event.failing error] :=
  ⟨[], event, after, rfl, rfl⟩

/-- What breaks off does so too with other events ahead of it. -/
theorem breaks_append_left {due events : List Event} {error : LintError} (first : List Event)
    (breaks : Breaks due error events) : Breaks (first ++ due) error (first ++ events) := by
  obtain ⟨before, event, after, rfl, rfl⟩ := breaks
  exact ⟨first ++ before, event, after, by simp, by simp⟩

/-- What breaks off does so too when more would have been due. -/
theorem breaks_append_right {due events : List Event} {error : LintError} (later : List Event)
    (breaks : Breaks due error events) : Breaks (due ++ later) error events := by
  obtain ⟨before, event, after, rfl, rfl⟩ := breaks
  exact ⟨before, event, after ++ later, by simp, rfl⟩

/-- Events go with an answer; with a failure they go with some answer up to the one that fails. -/
def Accords {α : Type} (complete : α → List Event → Prop) :
    Except LintError α → List Event → Prop
  | .ok value, events => complete value events
  -- What would have been answered without the failure is left open.
  | .error error, events => ∃ value due, complete value due ∧ Breaks due error events

/-- All that an action does, in every session, are events that go with its answer. -/
def Performs {α : Type} (engine : Engine μ) (workingDir : String) (stdinFilename : Option String)
    (action : Lint μ α) (complete : α → List Event → Prop) : Prop :=
  ∀ session, ∃ events,
    Occur engine workingDir stdinFilename events session (perform action session).2 ∧
      Accords complete (perform action session).1 events

section Performs

variable {engine : Engine μ} {workingDir : String} {stdinFilename : Option String} {α β : Type}

/-- Events that are complete in one sense may be so in a wider one. -/
theorem Performs.imp {action : Lint μ α} {complete wider : α → List Event → Prop}
    (performs : Performs engine workingDir stdinFilename action complete)
    (widens : ∀ value events, complete value events → wider value events) :
    Performs engine workingDir stdinFilename action wider := by
  intro session
  obtain ⟨events, occur, done⟩ := performs session
  refine ⟨events, occur, ?_⟩
  -- After a failure it is the events that were due which may be seen more widely.
  cases reply : (perform action session).1 with
  | ok value =>
    rw [reply] at done
    exact widens value events done
  | error error =>
    rw [reply] at done
    obtain ⟨value, due, fits, breaks⟩ := done
    exact ⟨value, due, widens value due fits, breaks⟩

/-- An action that does nothing has no events. -/
theorem performs_pure (value : α) :
    Performs engine workingDir stdinFilename (pure value)
      fun answer events => answer = value ∧ events = [] :=
  fun _ => ⟨[], rfl, rfl, rfl⟩

/-- An action that is one event is seen as that event. -/
theorem performs_event {action : Lint μ α} (possible : α) (event : Except LintError α → Event)
    (seen : ∀ reply session left, perform action session = (reply, left) →
      (event reply).Occurs engine workingDir stdinFilename session left)
    (fails : ∀ value error, event (.error error) = (event (.ok value)).failing error) :
    Performs engine workingDir stdinFilename action
      fun value events => events = [event (.ok value)] := by
  intro session
  refine ⟨[event (perform action session).1], occur_single.mpr (seen _ _ _ rfl), ?_⟩
  -- An event that fails was due whatever it might have replied.
  cases (perform action session).1 with
  | ok value => rfl
  | error error =>
    refine ⟨possible, _, rfl, ?_⟩
    rw [fails possible error]
    exact breaks_cons _ [] error

/-- Actions in turn have their events in turn, and a failure of the first keeps off the second. -/
theorem performs_bind {first : Lint μ α} {next : α → Lint μ β}
    {own : α → List Event → Prop} {after : α → β → List Event → Prop}
    (here : Performs engine workingDir stdinFilename first own)
    (there : ∀ value, Performs engine workingDir stdinFilename (next value) (after value))
    (possible : ∀ value, ∃ answer events, after value answer events) :
    Performs engine workingDir stdinFilename (first >>= next)
      fun answer events => ∃ value before rest,
        own value before ∧ after value answer rest ∧ events = before ++ rest := by
  intro session
  rw [perform_bind]
  obtain ⟨before, occur, done⟩ := here session
  cases asked : perform first session with
  | mk reply mid =>
    rw [asked] at occur done
    cases reply with
    | error error =>
      -- The second action is due still, with any events that it might have had.
      obtain ⟨value, due, fits, breaks⟩ := done
      obtain ⟨answer, rest, later⟩ := possible value
      exact ⟨before, occur, answer, due ++ rest, ⟨value, due, rest, fits, later, rfl⟩,
        breaks_append_right rest breaks⟩
    | ok value =>
      obtain ⟨rest, occurLater, doneLater⟩ := there value mid
      refine ⟨before ++ rest, occur_append.mpr ⟨mid, occur, occurLater⟩, ?_⟩
      simp only
      cases last : (perform (next value) mid).1 with
      | ok answer =>
        rw [last] at doneLater
        exact ⟨value, before, rest, done, doneLater, rfl⟩
      | error error =>
        -- All events of the first action come before the one that fails.
        rw [last] at doneLater
        obtain ⟨answer, due, fits, breaks⟩ := doneLater
        exact ⟨answer, before ++ due, ⟨value, before, due, done, fits, rfl⟩,
          breaks_append_left before breaks⟩

end Performs

/-- How the findings of a template are obtained: by a check alone, or with fixes. -/
inductive Check where
  | verified (found : List Finding)
  | fixed (outcome : FixOutcome)

namespace Check

/-- The template was fixed. -/
def isFix : Check → Bool
  | .verified _ => false
  | .fixed _ => true

/-- The findings that are handed on. -/
def found : Check → List Finding
  | .verified found => found
  | .fixed outcome => outcome.findings

/-- The write that follows when the text of a file was fixed. -/
def writing (spec : FileSpec) (template : Template) (outcome : FixOutcome) : List Event :=
  if outcome.isFixed && !decide (spec = .stdin) then [.write template outcome.output (.ok ⟨⟩)]
  else []

/-- The one call of the engine, and the write that may follow it. -/
def events (spec : FileSpec) (template : Template) : Check → List Event
  | .verified found => [.verify template (.ok found)]
  | .fixed outcome => .fix template (.ok outcome) :: writing spec template outcome

/-- Findings can be obtained with fixes and without. -/
theorem exists_isFix (asked : Bool) : ∃ check : Check, check.isFix = asked := by
  cases asked with
  | false => exact ⟨.verified [], rfl⟩
  | true => exact ⟨.fixed ⟨false, "", []⟩, rfl⟩

end Check

/-- A reply can be there and not be there. -/
theorem exists_isSome {α : Type} (asked : Bool) (value : α) :
    ∃ reply : Option α, reply.isSome = asked := by
  cases asked with
  | false => exact ⟨none, rfl⟩
  | true => exact ⟨some value, rfl⟩

/-- What is learned of one file: its template, its findings, and what became of its todos. -/
structure Visit where
  spec : FileSpec
  template : Template
  check : Check
  counts : Option TodoCounts
  processed : Option (List Finding)

namespace Visit

/-- Fixes and updates are made as asked, and todos are held against every file but the input. -/
structure Obeys (options : RunOptions) (visit : Visit) : Prop where
  fixes : visit.check.isFix = options.fix
  updates : visit.counts.isSome = options.updateTodo
  processes : visit.processed.isSome = !decide (visit.spec = .stdin)

/-- The findings of the file in their last form. -/
def reported (visit : Visit) : List Finding :=
  visit.processed.getD visit.check.found

/-- What the file adds to the results. -/
def results (visit : Visit) : RunResults :=
  ⟨visit.reported, (visit.counts.map TodoCounts.added).getD 0,
    (visit.counts.map TodoCounts.removed).getD 0⟩

/-- The one update of the file's todos, with the findings just obtained. -/
def updating (decay : Decay) (overriding : Bool) (visit : Visit) : List Event :=
  visit.counts.toList.map fun counts =>
    .update visit.template visit.check.found decay overriding (.ok counts)

/-- The one time that the file's todos are held against those same findings. -/
def processing (options : RunOptions) (decay : Decay) (overriding : Bool) (visit : Visit) :
    List Event :=
  visit.processed.toList.map fun reported =>
    .process visit.template visit.check.found decay (options.fix || options.cleanTodo) overriding
      (.ok reported)

/-- All that is done for the file, in order. -/
def events (options : RunOptions) (decay : Decay) (overriding : Bool) (visit : Visit) :
    List Event :=
  -- The update comes first, so that new todos cover the findings at once.
  .load visit.spec (.ok visit.template) :: (visit.check.events visit.spec visit.template ++
    (visit.updating decay overriding ++ visit.processing options decay overriding))

/-- Some visit of a file is made as asked. -/
theorem exists_visit (options : RunOptions) (spec : FileSpec) :
    ∃ visit : Visit, visit.spec = spec ∧ visit.Obeys options := by
  obtain ⟨check, fixes⟩ := Check.exists_isFix options.fix
  obtain ⟨counts, updates⟩ := exists_isSome options.updateTodo (⟨0, 0⟩ : TodoCounts)
  obtain ⟨processed, processes⟩ := exists_isSome (!decide (spec = .stdin)) ([] : List Finding)
  exact ⟨⟨spec, ⟨"", ""⟩, check, counts, processed⟩, rfl, fixes, updates, processes⟩

end Visit

/-- The results of files that were visited: findings in order, and sums of counts. -/
def total (visits : List Visit) : RunResults :=
  ⟨visits.flatMap Visit.reported, (visits.map (·.results.added)).sum,
    (visits.map (·.results.removed)).sum⟩

/-- What a run that answers has done, if it is not one that shows the settings of several files. -/
inductive Protocol (options : RunOptions) (decay : Decay) (overriding : Bool)
    (specs : List FileSpec) : RunOutcome → List Event → Prop
  | linted (visits : List Visit) (lints : options.printConfig = false)
      (inOrder : visits.map Visit.spec = specs) (obeys : ∀ visit ∈ visits, visit.Obeys options) :
      Protocol options decay overriding specs (.completed (total visits))
        (visits.flatMap (Visit.events options decay overriding))
  | shown (spec : FileSpec) (template : Template) (settings : Json)
      (shows : options.printConfig = true) (single : specs = [spec]) :
      Protocol options decay overriding specs .printedConfig
        [.load spec (.ok template), .settings template (.ok settings),
          .display settings (.ok ⟨⟩)]
  | nothing (shows : options.printConfig = true) (none : specs = []) :
      Protocol options decay overriding specs (.completed ⟨[], 0, 0⟩) []

/-- Some visits of files are made as asked. -/
theorem exists_visits (options : RunOptions) (specs : List FileSpec) :
    ∃ visits : List Visit,
      visits.map Visit.spec = specs ∧ ∀ visit ∈ visits, visit.Obeys options := by
  induction specs with
  | nil => exact ⟨[], rfl, by simp⟩
  | cons spec later ih =>
    obtain ⟨visit, rfl, obeys⟩ := Visit.exists_visit options spec
    obtain ⟨visits, rfl, others⟩ := ih
    exact ⟨visit :: visits, rfl, List.forall_mem_cons.mpr ⟨obeys, others⟩⟩

section Protocol

variable (engine : Engine μ) (workingDir : String) (options : RunOptions) (decay : Decay)
  (overriding : Bool)

/-- A file is loaded once. -/
theorem performs_load (spec : FileSpec) :
    Performs engine workingDir options.stdinFilename
      (load workingDir options.stdinFilename spec)
      fun template events => events = [.load spec (.ok template)] :=
  performs_event ⟨"", ""⟩ (Event.load spec) (fun _ _ _ done => done) fun _ _ => rfl

/-- The findings of a template come from the one call that is asked for, and from no other. -/
theorem performs_findings (spec : FileSpec) (template : Template) :
    Performs engine workingDir options.stdinFilename
      (findings engine workingDir options.fix (decide (spec = .stdin)) template)
      fun found events => ∃ check : Check, check.isFix = options.fix ∧ check.found = found ∧
        events = check.events spec template := by
  cases fix : options.fix with
  | false =>
    have asked : Performs engine workingDir options.stdinFilename (engine.verify template) _ :=
      performs_event [] (Event.verify template) (fun _ _ _ done => done) fun _ _ => rfl
    refine asked.imp ?_
    rintro found _ rfl
    exact ⟨.verified found, rfl, rfl, rfl⟩
  | true =>
    have asked : Performs engine workingDir options.stdinFilename (engine.fix template) _ :=
      performs_event ⟨false, "", []⟩ (Event.fix template) (fun _ _ _ done => done) fun _ _ => rfl
    -- Whether a write follows depends on the reply, so the rest is looked at for every reply.
    have written (outcome : FixOutcome) :
        Performs engine workingDir options.stdinFilename
          (do
            if outcome.isFixed && !decide (spec = .stdin) then
              writeBack workingDir template outcome.output
            pure outcome.findings)
          fun found events => found = outcome.findings ∧
            events = Check.writing spec template outcome := by
      unfold Check.writing
      split
      · have write : Performs engine workingDir options.stdinFilename
            (writeBack workingDir template outcome.output) _ :=
          performs_event ⟨⟩ (Event.write template outcome.output) (fun _ _ _ done => done)
            fun _ _ => rfl
        refine (performs_bind write (fun _ => performs_pure _) fun _ => ⟨_, _, rfl, rfl⟩).imp ?_
        rintro found events ⟨_, before, rest, rfl, ⟨rfl, rfl⟩, rfl⟩
        exact ⟨rfl, rfl⟩
      · exact performs_pure _
    refine (performs_bind asked written fun _ => ⟨_, _, rfl, rfl⟩).imp ?_
    rintro found events ⟨outcome, before, rest, rfl, ⟨rfl, rfl⟩, rfl⟩
    exact ⟨.fixed outcome, rfl, rfl, rfl⟩

/-- The todos of a file are updated once if that is asked for, else not at all. -/
theorem performs_update (template : Template) (found : List Finding) :
    Performs engine workingDir options.stdinFilename
      (if options.updateTodo then engine.updateTodos template found decay overriding
        else pure ⟨0, 0⟩)
      fun counts events => ∃ asked : Option TodoCounts, asked.isSome = options.updateTodo ∧
        counts = asked.getD ⟨0, 0⟩ ∧ events = asked.toList.map fun counts =>
          .update template found decay overriding (.ok counts) := by
  -- Without being asked for there is no event, and nothing is counted.
  cases options.updateTodo with
  | false => exact (performs_pure _).imp fun _ _ ⟨same, quiet⟩ => ⟨none, rfl, same, quiet⟩
  | true =>
    have asked : Performs engine workingDir options.stdinFilename
        (engine.updateTodos template found decay overriding) _ :=
      performs_event ⟨0, 0⟩ (Event.update template found decay overriding)
        (fun _ _ _ done => done) fun _ _ => rfl
    exact asked.imp fun counts _ same => ⟨some counts, rfl, rfl, same⟩

/-- Findings are held against todos once, unless they are those of standard input. -/
theorem performs_process (spec : FileSpec) (template : Template) (found : List Finding) :
    Performs engine workingDir options.stdinFilename
      (if spec = .stdin then pure found
        else engine.processTodos template found decay (options.fix || options.cleanTodo) overriding)
      fun reported events => ∃ processed : Option (List Finding),
        processed.isSome = !decide (spec = .stdin) ∧ reported = processed.getD found ∧
        events = processed.toList.map fun reported =>
          .process template found decay (options.fix || options.cleanTodo) overriding
            (.ok reported) := by
  -- Todos are of files, so that findings of standard input are left as they are.
  by_cases isStdin : spec = .stdin
  · simp only [isStdin, if_true]
    exact (performs_pure _).imp fun _ _ ⟨same, quiet⟩ => ⟨none, by simp, same, quiet⟩
  · simp only [isStdin, if_false]
    have asked : Performs engine workingDir options.stdinFilename
        (engine.processTodos template found decay (options.fix || options.cleanTodo) overriding)
        _ :=
      performs_event [] (Event.process template found decay _ overriding)
        (fun _ _ _ done => done) fun _ _ => rfl
    exact asked.imp fun reported _ same => ⟨some reported, by simp, rfl, same⟩

/-- A file is linted in four steps. -/
theorem lintFile_eq (spec : FileSpec) :
    lintFile engine workingDir options decay overriding spec =
      (do
        let template ← load workingDir options.stdinFilename spec
        let found ← findings engine workingDir options.fix (decide (spec = .stdin)) template
        let counts ←
          (if options.updateTodo then engine.updateTodos template found decay overriding
            else pure ⟨0, 0⟩)
        let reported ←
          (if spec = .stdin then pure found
            else engine.processTodos template found decay (options.fix || options.cleanTodo)
              overriding)
        pure ⟨reported, counts.added, counts.removed⟩) := by
  unfold lintFile
  refine bind_congr fun template => bind_congr fun found => ?_
  -- What follows an optional step is the same with and without that step.
  by_cases updates : options.updateTodo = true <;> by_cases isStdin : spec = .stdin <;>
    simp only [updates, isStdin, if_true, if_false, Bool.false_eq_true]

/-- The todos of a file are made and dropped, and then its findings are held against them. -/
theorem performs_todos (spec : FileSpec) (template : Template) (found : List Finding) :
    Performs engine workingDir options.stdinFilename
      (do
        let counts ←
          (if options.updateTodo then engine.updateTodos template found decay overriding
            else pure ⟨0, 0⟩)
        let reported ←
          (if spec = .stdin then pure found
            else engine.processTodos template found decay (options.fix || options.cleanTodo)
              overriding)
        pure (RunResults.mk reported counts.added counts.removed))
      fun results events => ∃ (counts : Option TodoCounts) (processed : Option (List Finding)),
        (counts.isSome = options.updateTodo ∧ processed.isSome = !decide (spec = .stdin)) ∧
        results = RunResults.mk (processed.getD found) (counts.getD ⟨0, 0⟩).added
          (counts.getD ⟨0, 0⟩).removed ∧
        events = (counts.toList.map fun counts =>
            .update template found decay overriding (.ok counts)) ++
          processed.toList.map fun reported =>
            .process template found decay (options.fix || options.cleanTodo) overriding
              (.ok reported) := by
  -- Should the update fail, some reply to what comes after it was due.
  obtain ⟨processed, processes⟩ := exists_isSome (!decide (spec = .stdin)) ([] : List Finding)
  have reporting (counts : TodoCounts) := performs_bind
    (performs_process engine workingDir options decay overriding spec template found)
    (fun reported => performs_pure (RunResults.mk reported counts.added counts.removed))
    fun _ => ⟨_, _, rfl, rfl⟩
  refine (performs_bind
    (performs_update engine workingDir options decay overriding template found) reporting
    fun _ => ⟨_, _, _, _, _, ⟨processed, processes, rfl, rfl⟩, ⟨rfl, rfl⟩, rfl⟩).imp ?_
  rintro results events ⟨_, _, _, ⟨counts, updates, rfl, rfl⟩,
    ⟨_, _, _, ⟨processed, processes, rfl, rfl⟩, ⟨rfl, rfl⟩, rfl⟩, rfl⟩
  exact ⟨counts, processed, ⟨updates, processes⟩, rfl, by simp⟩

/-- A visit of a file is made as asked. -/
theorem performs_lintFile (spec : FileSpec) :
    Performs engine workingDir options.stdinFilename
      (lintFile engine workingDir options decay overriding spec)
      fun results events => ∃ visit : Visit, visit.spec = spec ∧ visit.Obeys options ∧
        results = visit.results ∧ events = visit.events options decay overriding := by
  rw [lintFile_eq]
  -- These stand for the replies that are due still when an earlier step fails.
  obtain ⟨counts, updates⟩ := exists_isSome options.updateTodo (⟨0, 0⟩ : TodoCounts)
  obtain ⟨processed, processes⟩ := exists_isSome (!decide (spec = .stdin)) ([] : List Finding)
  obtain ⟨check, fixes⟩ := Check.exists_isFix options.fix
  have settled (template : Template) := performs_bind
    (performs_findings engine workingDir options spec template)
    (performs_todos engine workingDir options decay overriding spec template)
    fun _ => ⟨_, _, counts, processed, ⟨updates, processes⟩, rfl, rfl⟩
  refine (performs_bind (performs_load engine workingDir options spec) settled fun _ =>
    ⟨_, _, _, _, _, ⟨check, fixes, rfl, rfl⟩,
      ⟨counts, processed, ⟨updates, processes⟩, rfl, rfl⟩, rfl⟩).imp ?_
  -- The replies to the steps make up one visit.
  rintro results events ⟨template, _, _, rfl, ⟨_, _, _, ⟨check, fixes, rfl, rfl⟩,
    ⟨counts, processed, ⟨updates, processes⟩, rfl, rfl⟩, rfl⟩, rfl⟩
  refine ⟨⟨spec, template, check, counts, processed⟩, rfl, ⟨fixes, updates, processes⟩, ?_, rfl⟩
  cases counts <;> rfl

/-- The files are visited one after another. -/
theorem performs_lintFiles (specs : List FileSpec) :
    Performs engine workingDir options.stdinFilename
      (lintFiles engine workingDir options decay overriding specs)
      fun results events => ∃ visits : List Visit, visits.map Visit.spec = specs ∧
        (∀ visit ∈ visits, visit.Obeys options) ∧ results = total visits ∧
        events = visits.flatMap (Visit.events options decay overriding) := by
  -- The induction is on the files; once one fails, visits of the later ones were due.
  induction specs with
  | nil => exact (performs_pure _).imp fun _ _ ⟨same, quiet⟩ => ⟨[], rfl, by simp, same, quiet⟩
  | cons spec later ih =>
    obtain ⟨others, inOrder, obeying⟩ := exists_visits options later
    have rest (first : RunResults) := performs_bind ih (fun rest => performs_pure
      (RunResults.mk (first.findings ++ rest.findings) (first.added + rest.added)
        (first.removed + rest.removed))) fun _ => ⟨_, _, rfl, rfl⟩
    refine (performs_bind (performs_lintFile engine workingDir options decay overriding spec) rest
      fun _ => ⟨_, _, _, _, _, ⟨others, inOrder, obeying, rfl, rfl⟩, ⟨rfl, rfl⟩, rfl⟩).imp ?_
    rintro results events ⟨_, _, _, ⟨visit, rfl, obeys, rfl, rfl⟩,
      ⟨_, _, _, ⟨visits, rfl, others, rfl, rfl⟩, ⟨rfl, rfl⟩, rfl⟩, rfl⟩
    exact ⟨visit :: visits, rfl, List.forall_mem_cons.mpr ⟨obeys, others⟩,
      by simp [total, Visit.results], by simp⟩

/-- The settings of a file are asked for once and shown, and nothing else is done. -/
theorem performs_printConfig (spec : FileSpec) :
    Performs engine workingDir options.stdinFilename
      (printConfig engine workingDir options spec)
      fun _ events => ∃ template settings, events =
        [.load spec (.ok template), .settings template (.ok settings),
          .display settings (.ok ⟨⟩)] := by
  -- The three steps are joined from the last one on, since each depends on the reply before.
  have displayed (settings : Json) : Performs engine workingDir options.stdinFilename
      (Session.print ⟨.log, settings.renderIndented⟩) _ :=
    performs_event ⟨⟩ (Event.display settings) (fun _ _ _ done => done) fun _ _ => rfl
  have asked (template : Template) : Performs engine workingDir options.stdinFilename
      (engine.settings template) _ :=
    performs_event (.null) (Event.settings template) (fun _ _ _ done => done) fun _ _ => rfl
  have shown (template : Template) := performs_bind (asked template) displayed
    fun _ => ⟨⟨⟩, _, rfl⟩
  refine (performs_bind (performs_load engine workingDir options spec) shown
    fun _ => ⟨⟨⟩, _, .null, _, _, rfl, rfl, rfl⟩).imp ?_
  rintro _ _ ⟨template, _, _, rfl, ⟨settings, _, _, rfl, rfl, rfl⟩, rfl⟩
  exact ⟨template, settings, rfl⟩

/-- To show the settings of several files fails before anything is asked. -/
theorem perform_run_several {files : FileSet} (shows : options.printConfig = true)
    (many : 1 < files.size) (session : Session μ) :
    perform (run engine workingDir options decay overriding files) session =
      (.error (.notSingleFile files.size), session) := by
  simp only [run, shows, if_true]
  split
  · rename_i none
    simp [FileSet.size, none] at many
  · rename_i spec single
    simp [FileSet.size, single] at many
  · rfl

/-- All else follows the protocol to its end or to the first failure. -/
theorem performs_run {files : FileSet} (few : ¬(options.printConfig = true ∧ 1 < files.size)) :
    Performs engine workingDir options.stdinFilename
      (run engine workingDir options decay overriding files)
      (Protocol options decay overriding files.specs) := by
  unfold run
  split
  · rename_i shows
    split
    · rename_i none
      refine (performs_pure _).imp ?_
      rintro _ _ ⟨rfl, rfl⟩
      exact .nothing shows none
    · rename_i spec single
      refine (performs_bind (performs_printConfig engine workingDir options spec)
        (fun _ => performs_pure RunOutcome.printedConfig)
        fun _ => ⟨_, _, rfl, rfl⟩).imp ?_
      rintro _ _ ⟨_, _, _, ⟨template, settings, rfl⟩, ⟨rfl, rfl⟩, rfl⟩
      exact .shown spec template settings shows single
    · rename_i many one
      refine absurd ⟨shows, ?_⟩ few
      -- What is neither none nor one is several.
      unfold FileSet.size
      cases specs : files.specs with
      | nil => exact absurd specs many
      | cons spec later =>
        cases later with
        | nil => exact absurd specs (one spec)
        | cons _ _ => simp
  · rename_i lints
    refine (performs_bind
      (performs_lintFiles engine workingDir options decay overriding files.specs)
      (fun results => performs_pure (RunOutcome.completed results))
      fun _ => ⟨_, _, rfl, rfl⟩).imp ?_
    rintro _ _ ⟨_, _, _, ⟨visits, inOrder, obeys, rfl, rfl⟩, ⟨rfl, rfl⟩, rfl⟩
    rw [List.append_nil]
    exact .linted visits (Bool.eq_false_iff.mpr lints) inOrder obeys

/--
A run asks its engine for no more and no less than the protocol says, whatever the replies are: to
show the settings of several files fails at once, and all else follows the protocol to its end or
to the first failure.
-/
theorem run_follows_protocol (files : FileSet) :
    if options.printConfig = true ∧ 1 < files.size then
      ∀ session, perform (run engine workingDir options decay overriding files) session =
        (.error (.notSingleFile files.size), session)
    else
      Performs engine workingDir options.stdinFilename
        (run engine workingDir options decay overriding files)
        (Protocol options decay overriding files.specs) := by
  split
  · rename_i several
    obtain ⟨shows, many⟩ := several
    exact perform_run_several engine workingDir options decay overriding shows many
  · rename_i few
    exact performs_run engine workingDir options decay overriding few

end Protocol

end Run

end TemplateLint
