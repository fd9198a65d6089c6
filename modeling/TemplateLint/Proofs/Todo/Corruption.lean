import TemplateLint.Proofs.Todo.Compaction
import TemplateLint.Proofs.Todo.History

/-!
A log of todos with a line that is neither blank nor an entry. Whoever has to read it is told the
number of the first such line, and nothing is written or remembered before all of it is read.
-/

namespace TemplateLint

namespace Todo

/-- A line of a log that is neither blank nor an entry. -/
def isCorrupt (line : List Char) : Bool :=
  !line.all isBlank && (Change.parse? line).isNone

/-- The number of the first corrupt line of a text, counted from one. -/
def corruptLine (text : List Char) : Nat :=
  (Text.lines text).findIdx isCorrupt + 1

/-- The entries of a text: what its lines write, save those that are blank. -/
def entriesOf (text : List Char) : List Change :=
  (entryLines text).filterMap Change.parse?

/-- A line that can be passed over or read is not corrupt. -/
theorem isCorrupt_eq_false_iff {line : List Char} :
    isCorrupt line = false ↔
      line.all isBlank = true ∨ ∃ change, Change.parse? line = some change := by
  unfold isCorrupt
  cases line.all isBlank <;> cases Change.parse? line <;> simp

/-- Lines of which none is corrupt are read, and each that is not blank is an entry. -/
theorem readLines_of_sound {lines : List (List Char)}
    (sound : ∀ line ∈ lines, isCorrupt line = false) (number : Nat) :
    readLines number lines =
      .ok ((lines.filter fun line => !line.all isBlank).filterMap Change.parse?) := by
  -- The induction is on the lines, and the number goes up with each of them.
  induction lines generalizing number with
  | nil => rfl
  | cons line later ih =>
    obtain ⟨here, others⟩ := List.forall_mem_cons.mp sound
    have rest := ih others (number + 1)
    rw [readLines]
    by_cases blank : line.all isBlank = true
    · rw [if_pos blank, List.filter_cons_of_neg (by simp [blank])]
      exact rest
    · -- What is neither blank nor corrupt is an entry.
      obtain ⟨change, parsed⟩ := (isCorrupt_eq_false_iff.mp here).resolve_left blank
      rw [if_neg blank, List.filter_cons_of_pos (by simpa using blank),
        List.filterMap_cons_some parsed, parsed, rest]

/-- Of lines with a corrupt one the first such is told, however the lines are counted. -/
theorem readLines_of_corrupt {lines : List (List Char)}
    (bad : ∃ line ∈ lines, isCorrupt line = true) (number : Nat) :
    readLines number lines = .error (number + lines.findIdx isCorrupt) := by
  induction lines generalizing number with
  | nil =>
    obtain ⟨line, member, _⟩ := bad
    simp at member
  | cons line later ih =>
    rw [readLines, List.findIdx_cons]
    cases here : isCorrupt line with
    | true =>
      -- The reading ends at this line, whatever comes after it.
      simp only [isCorrupt, Bool.and_eq_true, Bool.not_eq_true', Option.isNone_iff_eq_none] at here
      simp [here.1, here.2]
    | false =>
      obtain ⟨other, member, corrupt⟩ := bad
      have behind : other ∈ later := by
        refine (List.mem_cons.mp member).resolve_left ?_
        rintro rfl
        simp [here] at corrupt
      have rest := ih ⟨other, behind, corrupt⟩ (number + 1)
      have count : number + 1 + later.findIdx isCorrupt =
          number + (later.findIdx isCorrupt + 1) := by
        omega
      rw [count] at rest
      rw [cond_false]
      rcases isCorrupt_eq_false_iff.mp here with blank | ⟨change, parsed⟩
      · rw [if_pos blank, rest]
      · -- An entry that was read is forgotten with the failure of what follows.
        split
        · exact rest
        · rw [parsed, rest]

/-- A text falls into ended lines that are not corrupt and a rest that a corrupt line begins. -/
structure BreaksOff (text earlier rest : List Char) : Prop where
  split : text = earlier ++ rest
  ended : Text.IsClosed earlier
  sound : ∀ line ∈ Text.lines earlier, isCorrupt line = false
  corrupt : ∃ line, (Text.lines rest).head? = some line ∧ isCorrupt line = true

/-- A text breaks off at its first corrupt line, and the line feeds before it tell the number. -/
theorem exists_breaksOff {text : List Char}
    (bad : ∃ line ∈ Text.lines text, isCorrupt line = true) :
    ∃ earlier rest, BreaksOff text earlier rest ∧ corruptLine text = earlier.count '\n' + 1 := by
  -- The lines before the first corrupt one are those of the text in front of it.
  obtain ⟨line, found⟩ := Option.isSome_iff_exists.mp (List.find?_isSome.mpr bad)
  obtain ⟨corrupt, before, after, split, sound⟩ := List.find?_eq_some_iff_append.mp found
  obtain ⟨earlier, rest, rfl, closed, own, others⟩ :=
    Text.exists_of_lines_append split (List.cons_ne_nil line after)
  have passed : ∀ other ∈ before, isCorrupt other = false := fun other member => by
    simpa using sound other member
  have begun : (Text.lines rest).head? = some line := by rw [others]; rfl
  refine ⟨earlier, rest, ⟨rfl, closed, own ▸ passed, ⟨line, begun, corrupt⟩⟩, ?_⟩
  -- As many lines come before it as line feeds stand before it.
  have index : (before ++ line :: after).findIdx isCorrupt = before.length := by
    rw [List.findIdx_append, List.findIdx_eq_length_of_false passed]
    simp [List.findIdx_cons, corrupt]
  rw [corruptLine, split, index, ← Text.length_lines_of_closed closed, own]

end Todo

namespace StoreUse

/-- Whether a use needs to know the live todos. -/
def reads : StoreUse → Bool
  | .readAll => true
  | .readFor _ => true
  | .update _ _ _ _ _ => true
  | .process _ _ _ _ _ => true
  | .append _ => false
  | .reopen _ => false

end StoreUse

namespace StoreStep

/-- Whether a step needs to know the live todos, or the entries of the log. -/
def reads : StoreStep → Bool
  | .ordinary use => use.reads
  | .compact => true

end StoreStep

namespace TodoStore

open Todo Effect

variable {store : TodoStore} {memory : TodoMemory} {failure : LintError}

/-- A log with a corrupt line is not read, and the number of the line is told. -/
theorem readChanges_of_corrupt {files : FileSystem} {text : String} {executable : Bool}
    (stands : files.follow? store.logPath = some (.file (.text text) executable))
    (bad : ∃ line ∈ Text.lines text.toList, isCorrupt line = true) :
    store.readChanges files = .error (.corruptTodo store.logPath (corruptLine text.toList)) := by
  rw [readChanges_of_text stands, readLog, readLines_of_corrupt bad, corruptLine, Nat.add_comm]

/-- A log without a corrupt line is read in full. -/
theorem readChanges_of_sound {files : FileSystem} {text : String} {executable : Bool}
    (stands : files.follow? store.logPath = some (.file (.text text) executable))
    (sound : ∀ line ∈ Text.lines text.toList, isCorrupt line = false) :
    store.readChanges files = .ok (entriesOf text.toList) := by
  rw [readChanges_of_text stands, readLog, readLines_of_sound sound]
  rfl

/-- Live todos that are not remembered cannot be told if the log cannot be read. -/
theorem perform_liveTodos_of_error (unread : store.readChanges memory.files = .error failure)
    (forgotten : memory.live = none) :
    perform store.liveTodos memory = (.error failure, memory) := by
  simp only [liveTodos, perform_bind, perform_get, forgotten, perform_lift, unread]

/-- The same holds of the live todos of a file. -/
theorem perform_todosOf_of_error (unread : store.readChanges memory.files = .error failure)
    (forgotten : memory.live = none) (path : String) :
    perform (store.todosOf path) memory = (.error failure, memory) := by
  rw [todosOf, perform_bind, perform_liveTodos_of_error unread forgotten]

/-- A log that cannot be read is not compacted, whatever is remembered of it. -/
theorem perform_compact_of_error (unread : store.readChanges memory.files = .error failure) :
    perform store.compact memory = (.error failure, memory) := by
  simp only [compact, perform_bind, perform_get, perform_lift, unread]

end TodoStore

namespace OpenStore

open Todo Effect TodoStore

variable {opened : OpenStore} {failure : LintError}

/-- To compact a log that cannot be read fails and leaves the store as it is. -/
theorem compact_of_error
    (unread : opened.store.readChanges opened.memory.files = .error failure) :
    StoreStep.compact.perform opened = (.error failure, opened) := by
  simp only [StoreStep.perform, StoreStep.action, perform_bind, perform_compact_of_error unread]
  rfl

/--
A step that needs what the log holds fails where the log cannot be read and nothing is remembered,
and it leaves the store as it is.
-/
theorem step_of_error (unread : opened.store.readChanges opened.memory.files = .error failure)
    (forgotten : opened.memory.live = none) {step : StoreStep} (reads : step.reads = true) :
    step.perform opened = (.error failure, opened) := by
  have nothing := perform_todosOf_of_error unread forgotten
  -- Every use but these two begins with the live todos, and goes no further without them.
  cases step with
  | compact => exact compact_of_error unread
  | ordinary use =>
    cases use with
    | append changes => simp [StoreStep.reads, StoreUse.reads] at reads
    | reopen engine => simp [StoreStep.reads, StoreUse.reads] at reads
    | readAll =>
      simp only [StoreStep.perform, StoreStep.action, StoreUse.action, perform_bind,
        perform_liveTodos_of_error unread forgotten]
      rfl
    | readFor path =>
      simp only [StoreStep.perform, StoreStep.action, StoreUse.action, perform_bind, nothing]
      rfl
    | update path findings decay overriding today =>
      simp only [StoreStep.perform, StoreStep.action, StoreUse.action, update, perform_bind,
        nothing]
      rfl
    | process path findings cleanup overriding today =>
      simp only [StoreStep.perform, StoreStep.action, StoreUse.action, process, perform_bind,
        nothing]
      rfl

/-- Any number of such steps fail, each as the first, and leave the store as it is. -/
theorem performAll_of_error
    (unread : opened.store.readChanges opened.memory.files = .error failure)
    (forgotten : opened.memory.live = none) {steps : List StoreStep}
    (reads : ∀ step ∈ steps, step.reads = true) :
    StoreStep.performAll steps opened = (steps.map fun _ => .error failure, opened) := by
  induction steps with
  | nil => rfl
  | cons step later ih =>
    obtain ⟨here, others⟩ := List.forall_mem_cons.mp reads
    -- The first step leaves the same store for those after it.
    simp only [StoreStep.performAll, step_of_error unread forgotten here, ih others, List.map_cons]

/-- A store that remembers nothing answers reads from what its log holds. -/
theorem answer_read_of_readChanges {changes : List Change}
    (read : opened.store.readChanges opened.memory.files = .ok changes)
    (forgotten : opened.memory.live = none) (path : String) :
    ((StoreStep.ordinary .readAll).perform opened).1 = .ok (.todos (Todo.live changes)) ∧
      ((StoreStep.ordinary (.readFor path)).perform opened).1 =
        .ok (.todos (todosIn (Todo.live changes) path)) := by
  have all := perform_liveTodos_of_read read forgotten
  constructor
  · simp only [StoreStep.perform, StoreStep.action, StoreUse.action, perform_bind, all,
      perform_pure]
  · simp only [StoreStep.perform, StoreStep.action, StoreUse.action, todosOf, perform_bind, all,
      perform_pure]
    rfl

/--
A log with a corrupt line cannot be compacted, and as long as nothing is remembered of it, it cannot
be read, updated or held against findings. Each of these tells the number of its first corrupt line,
which is one more than there are line feeds before it, and leaves disk and memory as they are. Once
the log is mended, the store reads all of it.
-/
theorem fails_at_first_corrupt_line {text : String} {executable : Bool}
    (stands : opened.memory.files.follow? opened.store.logPath =
      some (.file (.text text) executable))
    (bad : ∃ line ∈ Text.lines text.toList, isCorrupt line = true) :
    let failure := LintError.corruptTodo opened.store.logPath (corruptLine text.toList)
    (∃ earlier rest, BreaksOff text.toList earlier rest ∧
      corruptLine text.toList = earlier.count '\n' + 1) ∧
    StoreStep.compact.perform opened = (.error failure, opened) ∧
    (opened.memory.live = none →
      (∀ step : StoreStep, step.reads = true → step.perform opened = (.error failure, opened)) ∧
      ∀ steps : List StoreStep, (∀ step ∈ steps, step.reads = true) →
        StoreStep.performAll steps opened = (steps.map fun _ => .error failure, opened) ∧
        ∀ (files : FileSystem) (mended : String) (runs : Bool) (path : String),
          files.follow? opened.store.logPath = some (.file (.text mended) runs) →
          (∀ line ∈ Text.lines mended.toList, isCorrupt line = false) →
          let left := (StoreStep.performAll steps opened).2
          let later : OpenStore := { left with memory := { left.memory with files } }
          ((StoreStep.ordinary .readAll).perform later).1 =
              .ok (.todos (Todo.live (entriesOf mended.toList))) ∧
            ((StoreStep.ordinary (.readFor path)).perform later).1 =
              .ok (.todos (todosIn (Todo.live (entriesOf mended.toList)) path))) := by
  intro failure
  -- All of it comes from the log being unreadable, whichever step it is that reads it.
  have unread : opened.store.readChanges opened.memory.files = .error failure :=
    readChanges_of_corrupt stands bad
  refine ⟨exists_breaksOff bad, compact_of_error unread, fun forgotten =>
    ⟨fun step reads => step_of_error unread forgotten reads, fun steps reads => ?_⟩⟩
  have failed := performAll_of_error unread forgotten reads
  refine ⟨failed, fun files mended runs path standsNow sound => ?_⟩
  intro left later
  -- The failed steps have left the store as it was opened, and only the disk is another.
  have same : later = ⟨opened.store, { opened.memory with files }⟩ := by
    simp only [later, left, failed]
  have read : later.store.readChanges later.memory.files = .ok (entriesOf mended.toList) := by
    rw [same]
    exact readChanges_of_sound standsNow sound
  have nothing : later.memory.live = none := by
    rw [same]
    exact forgotten
  exact answer_read_of_readChanges read nothing path

/-- An entry, a blank line, both ended by a carriage return too, another line and another entry. -/
def textAround (line : List Char) : List Char :=
  (Change.add (sampleTodo 1)).line ++ ['\r', '\n', ' ', '\r', '\n'] ++ line ++
    '\n' :: (Change.add (sampleTodo 2)).line

/-- The third line is no entry, and once it is emptied the entries around it are read. -/
theorem fails_at_first_corrupt_line_sample :
    let opened : OpenStore := ⟨TodoStore.sample, logHolding (textAround ['\x7b', '1'])⟩
    let failure := LintError.corruptTodo "/p/.lint-todo" 3
    (∃ line ∈ Text.lines (textAround ['\x7b', '1']), isCorrupt line = true) ∧
      opened.memory.live = none ∧
      StoreStep.compact.perform opened = (.error failure, opened) ∧
      (∀ today, StoreStep.performAll [
          .ordinary .readAll,
          .ordinary (.update "a.hbs" [] .never false today),
          .compact,
          .ordinary (.process "a.hbs" [] true false today)] opened =
        ([.error failure, .error failure, .error failure, .error failure], opened)) ∧
      ((StoreStep.ordinary .readAll).perform
          ⟨TodoStore.sample, logHolding (textAround [])⟩).1 =
        .ok (.todos [sampleTodo 1, sampleTodo 2]) := by
  intro opened failure
  -- That a line is corrupt and which one it is are computed; every outcome follows from that.
  have bad : ∃ line ∈ Text.lines (textAround ['\x7b', '1']), isCorrupt line = true := by
    decide +kernel
  have third : corruptLine (textAround ['\x7b', '1']) = 3 := by
    decide +kernel
  have sound : ∀ line ∈ Text.lines (textAround []), isCorrupt line = false := by
    decide +kernel
  have live : Todo.live (entriesOf (textAround [])) = [sampleTodo 1, sampleTodo 2] := by
    decide +kernel
  have stands := follow?_logHolding (textAround ['\x7b', '1'])
  obtain ⟨_, compacted, whole⟩ := @fails_at_first_corrupt_line opened _ _ stands
    (by rw [String.toList_ofList]; exact bad)
  have place : opened.store.logPath = "/p/.lint-todo" := by
    decide +kernel
  rw [String.toList_ofList, third, place] at compacted whole
  obtain ⟨_, all⟩ := whole rfl
  refine ⟨bad, rfl, compacted, fun today => ?_, ?_⟩
  · refine (all [.ordinary .readAll, .ordinary (.update "a.hbs" [] .never false today), .compact,
      .ordinary (.process "a.hbs" [] true false today)] ?_).1
    simp [StoreStep.reads, StoreUse.reads]
  · obtain ⟨_, mended⟩ := all [] (by simp)
    have later := (mended _ _ false "a.hbs" (follow?_logHolding (textAround []))
      (by rw [String.toList_ofList]; exact sound)).1
    rw [String.toList_ofList, live] at later
    exact later

end OpenStore

end TemplateLint
