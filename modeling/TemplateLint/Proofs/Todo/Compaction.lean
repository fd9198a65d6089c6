import TemplateLint.Proofs.Todo.LogText

/-!
What is left of a log of todos once it is compacted: one entry for each live todo, in the order in
which they were first added, and nothing that a second compaction could drop.
-/

namespace TemplateLint

namespace Todo

/-- An entry makes at most one more todo live. -/
theorem length_apply_le (live : List Todo) (change : Change) :
    (apply live change).length ≤ live.length + 1 := by
  cases change with
  | add todo =>
    rw [apply]
    split
    · omega
    · simp
  | remove todo => exact Nat.le_succ_of_le (List.length_filter_le _ live)

/-- Entries make at most as many todos live as they are. -/
theorem length_applyAll_le (live : List Todo) (changes : List Change) :
    (applyAll live changes).length ≤ live.length + changes.length := by
  induction changes generalizing live with
  | nil => exact Nat.le_refl _
  | cons change later ih =>
    -- The first entry adds one todo at most, and the others add theirs after it.
    have first := length_apply_le live change
    have rest : (applyAll live (change :: later)).length ≤
        (apply live change).length + later.length := ih (apply live change)
    rw [List.length_cons]
    omega

/-- A log has no more live todos than entries. -/
theorem length_live_le (changes : List Change) : (Todo.live changes).length ≤ changes.length := by
  have bound := length_applyAll_le [] changes
  rwa [List.length_nil, Nat.zero_add] at bound

/-- The lines of a text that are not blank. -/
def entryLines (text : List Char) : List (List Char) :=
  (Text.lines text).filter fun line => !line.all isBlank

/-- Of lines that can be read all but the blank ones are an entry each. -/
theorem length_of_readLines {lines : List (List Char)} {number : Nat} {changes : List Change}
    (read : readLines number lines = .ok changes) :
    changes.length = (lines.filter fun line => !line.all isBlank).length := by
  induction lines generalizing number changes with
  | nil =>
    obtain rfl : [] = changes := by simpa [readLines] using read
    rfl
  | cons line later ih =>
    rw [readLines] at read
    by_cases blank : line.all isBlank = true
    · -- A blank line is passed over on both sides.
      rw [if_pos blank] at read
      rw [List.filter_cons_of_neg (by simp [blank])]
      exact ih read
    · rw [if_neg blank] at read
      rw [List.filter_cons_of_pos (by simpa using blank), List.length_cons]
      cases parsed : Change.parse? line with
      | none => simp [parsed] at read
      | some change =>
        cases rest : readLines (number + 1) later with
        | error bad => simp [parsed, rest] at read
        | ok others =>
          obtain rfl : change :: others = changes := by simpa [parsed, rest] using read
          rw [List.length_cons, ih rest]

/-- A text that can be read has as many entries as lines that are not blank. -/
theorem length_of_readLog {text : List Char} {changes : List Change}
    (read : readLog text = .ok changes) : changes.length = (entryLines text).length :=
  length_of_readLines read

/-- The text of a log with one entry for each live todo. -/
def compacted (changes : List Change) : String :=
  .ofList (renderLog ((Todo.live changes).map .add))

/-- A compacted log reads as one entry for each live todo. -/
theorem readLog_compacted (changes : List Change) :
    readLog (compacted changes).toList = .ok ((Todo.live changes).map .add) := by
  rw [compacted, String.toList_ofList, readLog_renderLog]

/-- To compact the entries of a compacted log gives the same text. -/
theorem compacted_compacted (changes : List Change) :
    compacted ((Todo.live changes).map .add) = compacted changes := by
  rw [compacted, live_adds, compacted]

end Todo

namespace TodoStore

open Todo Effect

variable {store : TodoStore} {memory : TodoMemory} {changes : List Change}

/-- Entries that are read from a log stand in its text. -/
theorem text_of_readChanges {files : FileSystem} (read : store.readChanges files = .ok changes)
    (some : changes ≠ []) :
    ∃ text executable, files.follow? store.logPath = .some (.file (.text text) executable) ∧
      readLog text.toList = .ok changes := by
  have file : files.isFile store.logPath = true := by
    cases file : files.isFile store.logPath with
    | true => rfl
    | false =>
      -- A log that is no file has no entries.
      obtain rfl : [] = changes := by simpa [readChanges, file] using read
      exact absurd rfl some
  obtain ⟨content, executable, stands⟩ : ∃ content executable,
      files.follow? store.logPath = .some (.file content executable) := by
    unfold FileSystem.isFile at file
    split at file
    · exact ⟨_, _, ‹_›⟩
    · simp at file
  cases content with
  | bytes value =>
    simp [readChanges, file, FileSystem.readText, FileSystem.read_of_follow? stands,
      Content.text?] at read
  | text text =>
    refine ⟨text, executable, stands, ?_⟩
    rw [readChanges_of_text stands] at read
    cases parsed : readLog text.toList with
    | error line => simp [parsed] at read
    | ok own => simpa [parsed] using read

/-- A log with entries becomes its compacted text, which can be written once more without effect. -/
theorem perform_compact_of_text (read : store.readChanges memory.files = .ok changes)
    (some : changes ≠ []) :
    ∃ made executable,
      perform store.compact memory = (.ok (changes.length - (Todo.live changes).length),
        { files := made, live := .some (Todo.live changes) }) ∧
      made.follow? store.logPath = .some (.file (.text (compacted changes)) executable) ∧
      made.write store.logPath (compacted changes) = .ok made := by
  obtain ⟨text, executable, stands, _⟩ := text_of_readChanges read some
  -- A log with entries is a file, and a file takes any text.
  obtain ⟨_, made, changed, _, _, follows⟩ :=
    FileSystem.change_file stands fun _ => .text (compacted changes)
  have written : memory.files.write store.logPath (compacted changes) = .ok made := changed
  refine ⟨made, executable, ?_, follows, FileSystem.write_again stands written⟩
  rw [perform_compact_of_ne_nil read some, ← compacted, written]

/-- A compacted log has nothing to drop, whatever is remembered of it. -/
theorem perform_compact_compacted {executable : Bool}
    (stands : memory.files.follow? store.logPath =
      .some (.file (.text (compacted changes)) executable))
    (again : memory.files.write store.logPath (compacted changes) = .ok memory.files) :
    ∃ left, perform store.compact memory = (.ok 0, left) ∧ left.files = memory.files := by
  have read : store.readChanges memory.files = .ok ((Todo.live changes).map .add) := by
    rw [readChanges_of_text stands, readLog_compacted]
  by_cases none : (Todo.live changes).map Change.add = []
  · rw [none] at read
    exact ⟨memory, perform_compact_nil read, rfl⟩
  · -- As many todos are live as there are entries, and the text is the one that stands there.
    refine ⟨{ files := memory.files, live := .some (Todo.live changes) }, ?_, rfl⟩
    rw [perform_compact_of_ne_nil read none, ← compacted, compacted_compacted, again, live_adds,
      List.length_map, Nat.sub_self]

/--
To compact a log that can be read tells how many of its entries are gone, which are those beyond
one for each live todo. A log with entries holds exactly one line for each live todo then, in the
order in which they were first added, and a log without entries is not touched. To compact it once
more, whatever is remembered of it by then, drops nothing and leaves the disk as it is.
-/
theorem compact_leaves_adds (read : store.readChanges memory.files = .ok changes) :
    (Todo.live changes).length ≤ changes.length ∧
      (∀ text executable,
        memory.files.follow? store.logPath = some (.file (.text text) executable) →
        changes.length = (entryLines text.toList).length) ∧
      ∃ left,
        perform store.compact memory =
          (.ok (changes.length - (Todo.live changes).length), left) ∧
        (changes = [] → left = memory) ∧
        (changes ≠ [] →
          left.files.readText store.logPath =
            .ok (.ofList (renderLog ((Todo.live changes).map .add))) ∧
          Text.lines (renderLog ((Todo.live changes).map .add)) =
            (Todo.live changes).map fun todo => (Change.add todo).line) ∧
        ∀ later : TodoMemory, later.files = left.files →
          ∃ last, perform store.compact later = (.ok 0, last) ∧ last.files = left.files := by
  refine ⟨length_live_le changes, fun text executable stands => ?_, ?_⟩
  · rw [readChanges_of_text stands] at read
    cases parsed : readLog text.toList with
    | error line => simp [parsed] at read
    | ok own =>
      obtain rfl : own = changes := by simpa [parsed] using read
      exact length_of_readLog parsed
  · by_cases none : changes = []
    · subst none
      refine ⟨memory, perform_compact_nil read, fun _ => rfl, fun some => absurd rfl some,
        fun later same => ⟨later, perform_compact_nil ?_, same⟩⟩
      rw [same, read]
    · obtain ⟨made, executable, done, follows, again⟩ := perform_compact_of_text read none
      refine ⟨_, done, fun same => absurd same none, fun _ => ⟨?_, ?_⟩, fun later same => ?_⟩
      · exact FileSystem.readText_of_follow? follows
      · rw [lines_renderLog, List.map_map]
        rfl
      · -- The rewritten log is the same for every store that finds it.
        obtain rfl : later.files = made := same
        exact perform_compact_compacted follows again

/-- An entry that removes the first sample todo, under another spelling of its path. -/
def sampleRemoval : Change :=
  .remove { sampleTodo 1 with filePath := "./a.hbs" }

/-- Two todos that come and one that goes, with a blank line between and the last line not ended. -/
def openText : List Char :=
  renderLog [.add (sampleTodo 1), .add (sampleTodo 2)] ++ ('\r' :: '\n' :: sampleRemoval.line)

/-- Of three entries two are gone with the compaction, and the third stays for good. -/
theorem compact_leaves_adds_sample :
    sample.readChanges (logHolding openText).files =
        .ok [.add (sampleTodo 1), .add (sampleTodo 2), sampleRemoval] ∧
      ∃ left,
        perform sample.compact (logHolding openText) = (.ok 2, left) ∧
        left.files.readText sample.logPath = .ok (.ofList (renderLog [.add (sampleTodo 2)])) ∧
        ∃ last, perform sample.compact left.fresh = (.ok 0, last) ∧ last.files = left.files := by
  -- Behind the entries stand an empty line, which a carriage return ends too, and the removal.
  have lastLine : Text.lines ('\r' :: '\n' :: sampleRemoval.line) = [[], sampleRemoval.line] := by
    have whole : '\n' ∉ sampleRemoval.line := fun member =>
      (sampleRemoval.line_oneLine _ member).1 rfl
    have some : sampleRemoval.line ≠ [] := by
      intro none
      have closes := sampleRemoval.line_closes
      simp [none] at closes
    rw [Text.lines, Text.lines_open whole some]
  have read : sample.readChanges (logHolding openText).files =
      .ok [.add (sampleTodo 1), .add (sampleTodo 2), sampleRemoval] := by
    rw [readChanges_of_text (follow?_logHolding openText), String.toList_ofList, openText, readLog,
      Text.lines_append (renderLog_closed _), readLines_append, readLines_renderLog, lastLine]
    simp [readLines, sampleRemoval.line_notBlank, sampleRemoval.parse?_line, Except.map]
  have live : Todo.live [.add (sampleTodo 1), .add (sampleTodo 2), sampleRemoval] =
      [sampleTodo 2] := by
    decide +kernel
  obtain ⟨_, _, left, done, _, rewritten, again⟩ := compact_leaves_adds read
  rw [live] at done rewritten
  exact ⟨read, left, done, (rewritten (by simp)).1, again left.fresh rfl⟩

end TodoStore

end TemplateLint
