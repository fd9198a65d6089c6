import TemplateLint.Proofs.Json.Extension
import TemplateLint.Proofs.Todo.Store

/-!
The text of the log of todos: one line for each entry, read back as it was written. Entries that are
added to a log are read after its own exactly when nothing is written on its last line yet.
-/

namespace TemplateLint

namespace Todo

/-- A blank is no digit and opens no JSON value. -/
theorem blank_foreign {c : Char} (blank : isBlank c = true) :
    c.isDigit = false ∧ c ∉ ['n', 't', 'f', '"', '[', '\x7b', '-'] := by
  constructor
  · cases digit : c.isDigit with
    | false => rfl
    | true => simp [(Date.digit_plain digit).1] at blank
  · intro member
    have all : ∀ mark ∈ ['n', 't', 'f', '"', '[', '\x7b', '-'], isBlank mark = false := by
      simp [isBlank]
    simp [all c member] at blank

/-- White space of JSON is blank. -/
theorem isBlank_of_isSpace {c : Char} (space : Json.isSpace c = true) : isBlank c = true := by
  simp only [Json.isSpace, Bool.or_eq_true, beq_iff_eq] at space
  rcases space with ((rfl | rfl) | rfl) | rfl <;> decide

namespace Change

/-- The line of an entry begins with the brace that opens it. -/
theorem line_opens (change : Change) : ∃ later, change.line = '\x7b' :: later := by
  simp [line, toJson, Json.compact]

/-- An entry behind white space is read as that entry. -/
theorem parse?_after_space {before : List Char} (space : before.all Json.isSpace = true)
    (change : Change) : parse? (before ++ change.line) = some change := by
  have read := Json.parse?_compact change.toJson_plain
  rw [parse?, line, Json.parse?_after_space space read, Option.bind_some, ofJson?_toJson]

/-- An entry behind a blank line that is not all white space of JSON, or behind another, is none. -/
theorem parse?_after {before : List Char} (foreign : before.all Json.isSpace = false)
    (stands : before.all isBlank = true ∨ ∃ other, parse? before = some other) (change : Change) :
    parse? (before ++ change.line) = none := by
  obtain ⟨later, opens⟩ := change.line_opens
  rcases stands with blank | ⟨other, read⟩
  · -- Something in the blank is no white space of JSON, and no value begins with it.
    cases skipped : Json.skipSpace before with
    | nil =>
      have space : before.takeWhile Json.isSpace = before := by
        have whole : before.takeWhile Json.isSpace ++ before.dropWhile Json.isSpace = before :=
          List.takeWhile_append_dropWhile
        rw [Json.skipSpace] at skipped
        simpa [skipped] using whole
      rw [← space, List.all_takeWhile] at foreign
      simp at foreign
    | cons c others =>
      have member : c ∈ before := by
        have inside : c ∈ Json.skipSpace before := by simp [skipped]
        exact (List.dropWhile_sublist _).subset inside
      have none := Json.parse?_of_foreign (Json.skipSpace_extend skipped change.line)
        (blank_foreign (List.all_eq_true.mp blank c member))
      rw [parse?, none, Option.bind_none]
  · -- The other entry is a whole document, after which a brace is one too many.
    obtain ⟨value, document, _⟩ := Option.bind_eq_some_iff.mp read
    have ends : Json.EndsNumber change.line := by
      rw [opens]
      intro c first
      obtain rfl : '\x7b' = c := by simpa using first
      decide
    have some : Json.skipSpace change.line ≠ [] := by
      rw [opens]
      simp [Json.skipSpace, Json.isSpace]
    rw [parse?, Json.parse?_before document ends some, Option.bind_none]

end Change

/-- A line that is read alone is blank or an entry. -/
theorem readLines_single {line : List Char} {number : Nat} {changes : List Change}
    (read : readLines number [line] = .ok changes) :
    (line.all isBlank = true ∧ changes = []) ∨
      line.all isBlank = false ∧ ∃ change, Change.parse? line = some change := by
  -- A blank line is passed over, and any other has to be an entry.
  simp only [readLines] at read
  split at read
  · rename_i blank
    exact .inl ⟨blank, (Except.ok.inj read).symm⟩
  · rename_i notBlank
    refine .inr ⟨by simpa using notBlank, ?_⟩
    cases parsed : Change.parse? line with
    | none => simp [parsed] at read
    | some change => exact ⟨change, rfl⟩

/--
Entries added at the end of a log are read after those that it holds if its last line is ended, or
holds nothing but white space of JSON; otherwise that line is no entry any more.
-/
theorem readLog_append_open {text : List Char} {changes : List Change}
    (read : readLog text = .ok changes) (change : Change) (more : List Change) :
    readLog (text ++ renderLog (change :: more)) =
      if (Text.openLine text).all Json.isSpace = true then .ok (changes ++ change :: more)
      else .error (Text.lines text).length := by
  obtain ⟨ended, closed, split⟩ := Text.exists_closed text
  have whole := Text.not_mem_openLine text
  generalize Text.openLine text = last at split whole ⊢
  subst split
  -- The first new entry shares its line with what stands there already.
  have joined : Text.lines (ended ++ last ++ renderLog (change :: more)) =
      Text.lines ended ++ (last ++ change.line) :: Text.lines (renderLog more) := by
    have rendered : renderLog (change :: more) = change.line ++ '\n' :: renderLog more := by
      simp [renderLog]
    rw [rendered, List.append_assoc, ← List.append_assoc last, Text.lines_append closed,
      change.lines_before_line whole]
  have notBlank : ¬(last ++ change.line).all isBlank = true := by
    rw [List.all_append, change.line_notBlank, Bool.and_false]
    exact Bool.false_ne_true
  rw [readLog] at read
  rw [readLog, joined, readLines_append]
  rw [Text.lines_append closed, readLines_append] at read
  cases first : readLines 1 (Text.lines ended) with
  | error bad => simp [first] at read
  | ok own =>
    simp only [first] at read ⊢
    by_cases space : last.all Json.isSpace = true
    · -- White space held no entry, and holds none now that one comes after it.
      have blank : last.all isBlank = true := List.all_eq_true.mpr fun c member =>
        isBlank_of_isSpace (List.all_eq_true.mp space c member)
      have alone : readLines (1 + (Text.lines ended).length) (Text.lines last) = .ok [] := by
        cases last with
        | nil => rfl
        | cons c later =>
          rw [Text.lines_open whole (by simp)]
          simp only [readLines, if_pos blank]
      rw [alone] at read
      obtain rfl : own = changes := by simpa [Except.map] using read
      rw [if_pos space, readLines, if_neg notBlank, Change.parse?_after_space space]
      simp only [readLines_renderLog, Except.map]
    · -- What is no white space makes up a line of its own so far.
      have begun : last ≠ [] := by
        rintro rfl
        simp at space
      rw [Text.lines_open whole begun] at read
      have stands : last.all isBlank = true ∨ ∃ other, Change.parse? last = some other := by
        cases alone : readLines (1 + (Text.lines ended).length) [last] with
        | error bad => simp [alone, Except.map] at read
        | ok others => exact (readLines_single alone).imp And.left And.right
      rw [if_neg space, readLines, if_neg notBlank,
        Change.parse?_after (by simpa using space) stands, Text.lines_ended_append closed whole begun,
        List.length_append]
      simp [Except.map, Nat.add_comm]

end Todo

namespace TodoStore

open Todo Effect

/-- All that is added to a log of text is the text of the entries. -/
theorem append_to_text {store : TodoStore} {memory : TodoMemory} {text : String}
    {executable : Bool}
    (stands : memory.files.follow? store.logPath = some (.file (.text text) executable))
    {more : List Change} (some : more ≠ []) :
    ∃ left, perform (store.append more) memory = (.ok (), left) ∧
      left.files.follow? store.logPath =
        .some (.file (.text (text ++ .ofList (renderLog more))) executable) := by
  obtain ⟨_, made, changed, _, _, follows⟩ := FileSystem.change_file stands
    fun content => content.appendText (.ofList (renderLog more))
  refine ⟨{ files := made, live := memory.live.map (applyAll · more) }, ?_, follows⟩
  rw [perform_append_of_ne_nil some, FileSystem.append, changed]

/-- A log that was absent is the text of the entries that are added to it. -/
theorem append_to_absent {store : TodoStore} {memory left : TodoMemory}
    (nothing : memory.files.follow? store.logPath = none) {more : List Change} (some : more ≠ [])
    (done : perform (store.append more) memory = (.ok (), left)) :
    left.files.follow? store.logPath =
      .some (.file (.text (.ofList (renderLog more))) false) := by
  rw [perform_append_of_ne_nil some] at done
  -- A file that is appended to is made empty if there is none.
  cases changed : memory.files.append store.logPath (.ofList (renderLog more)) with
  | error cause => simp [changed] at done
  | ok made =>
    simp only [changed] at done
    obtain ⟨_, rfl⟩ := Prod.mk.inj done
    obtain ⟨_, _, _, follows⟩ := FileSystem.change_fresh nothing changed
    simpa [Content.empty, Content.appendText] using follows

/-- The entries of a log of text are those that the text reads as. -/
theorem readChanges_of_text {store : TodoStore} {files : FileSystem} {text : String}
    {executable : Bool}
    (stands : files.follow? store.logPath = some (.file (.text text) executable)) :
    store.readChanges files =
      match readLog text.toList with
      | .error line => .error (.corruptTodo store.logPath line)
      | .ok changes => .ok changes := by
  have isFile := FileSystem.isFile_of_follow? stands
  have holds := FileSystem.readText_of_follow? stands
  cases read : readLog text.toList with
  | error line => simp [readChanges, isFile, holds, read]
  | ok changes => simp [readChanges, isFile, holds, read]

/--
Entries are written one a line and are read back as they were, from the text alone, from a log that
is made of them, and from whatever was written of the entries of any other log that can be read.
-/
theorem log_round_trip (changes : List Change) :
    Text.lines (renderLog changes) = changes.map Change.line ∧
      (Text.lines (renderLog changes)).length = changes.length ∧
      readLog (renderLog changes) = .ok changes ∧
      (∀ (store : TodoStore) (memory left : TodoMemory),
        perform (store.append changes) memory = (.ok (), left) →
        (memory.files.follow? store.logPath = none →
          store.readChanges left.files = .ok changes ∧
          (changes ≠ [] →
            left.files.readText store.logPath = .ok (.ofList (renderLog changes)))) ∧
        ∀ text executable,
          memory.files.follow? store.logPath = some (.file (.text text) executable) →
          left.files.readText store.logPath = .ok (text ++ .ofList (renderLog changes))) ∧
      ∀ text, readLog text = .ok changes → readLog (renderLog changes) = .ok changes := by
  have back := readLog_renderLog changes
  refine ⟨lines_renderLog changes, by rw [lines_renderLog, List.length_map], back, ?_,
    fun _ _ => back⟩
  intro store memory left done
  constructor
  · intro nothing
    by_cases none : changes = []
    · -- Without entries no log is made, and a log that is absent has none.
      subst none
      obtain ⟨_, rfl⟩ := Prod.mk.inj done
      exact ⟨readChanges_of_records (.absent nothing), fun some => absurd rfl some⟩
    · have follows := append_to_absent nothing none done
      refine ⟨?_, fun _ => FileSystem.readText_of_follow? follows⟩
      rw [readChanges_of_text follows, String.toList_ofList, back]
  · intro text executable stands
    by_cases none : changes = []
    · subst none
      obtain ⟨_, rfl⟩ := Prod.mk.inj done
      rw [FileSystem.readText_of_follow? stands]
      simp [renderLog]
    · obtain ⟨after, again, follows⟩ := append_to_text stands none
      obtain ⟨_, rfl⟩ := Prod.mk.inj (done.symm.trans again)
      exact FileSystem.readText_of_follow? follows

/-- A todo whose texts hold quotes, line ends and controls, with dates of five digits and below. -/
def oddTodo : Todo where
  engine := "tm\"pl\\int"
  rule := "no\ntabs\r\u2028"
  filePath := "\u0000a\u001f.hbs"
  line := 18446744073709551615
  column := 0
  source := "\t\u0085𐀀é"
  createdDate := ⟨3652425, by decide⟩
  warnDate := some ⟨-1, by decide⟩
  errorDate := none

/-- Two entries about the odd todo take two lines and are read back. -/
theorem log_round_trip_sample :
    (Text.lines (renderLog [.add oddTodo, .remove oddTodo])).length = 2 ∧
      readLog (renderLog [.add oddTodo, .remove oddTodo]) = .ok [.add oddTodo, .remove oddTodo] :=
  have trip := log_round_trip [.add oddTodo, .remove oddTodo]
  ⟨trip.2.1, trip.2.2.1⟩

/-- The odd dates are written with a sign. -/
example : oddTodo.createdDate.render = "+10000-01-01".toList := by decide

/--
What is added to any log that can be read is read after what it held, if nothing but white space of
JSON stands on a last line that is not ended; otherwise that line is no entry for the next reader.
-/
theorem readChanges_append {store : TodoStore} {memory : TodoMemory} {text : String}
    {executable : Bool} {changes : List Change}
    (stands : memory.files.follow? store.logPath = some (.file (.text text) executable))
    (read : readLog text.toList = .ok changes) (more : List Change) :
    ∃ left, perform (store.append more) memory = (.ok (), left) ∧
      store.readChanges left.files =
        if more = [] ∨ (Text.openLine text.toList).all Json.isSpace = true then
          .ok (changes ++ more)
        else .error (.corruptTodo store.logPath (Text.lines text.toList).length) := by
  cases more with
  | nil =>
    -- Without entries the log stays as it is.
    refine ⟨memory, rfl, ?_⟩
    rw [readChanges_of_text stands, read]
    simp
  | cons change later =>
    obtain ⟨left, done, follows⟩ := append_to_text stands (List.cons_ne_nil change later)
    refine ⟨left, done, ?_⟩
    rw [readChanges_of_text follows, String.toList_append, String.toList_ofList,
      readLog_append_open read]
    by_cases space : (Text.openLine text.toList).all Json.isSpace = true <;> simp [space]

/-- A disk on which the log of the sample store holds a text. -/
def logHolding (text : List Char) : TodoMemory where
  files := ⟨[(["p"], .directory), (["p", ".lint-todo"], .file (.text (.ofList text)) false)]⟩
  live := none

/-- The path of the log leads to that text. -/
theorem follow?_logHolding (text : List Char) :
    (logHolding text).files.follow? sample.logPath = some (.file (.text (.ofList text)) false) := by
  rfl

/-- An entry, its line ended by a carriage return too, then a blank line and white space. -/
def looseText : List Char :=
  (Change.add (sampleTodo 1)).line ++ ['\r', '\n', '\n', ' ', '\t']

/-- After an entry, a blank line and some white space another entry is added and read. -/
theorem readChanges_append_sample :
    readLog (String.ofList looseText).toList = .ok [.add (sampleTodo 1)] ∧
      ∃ left,
        perform (sample.append [.remove (sampleTodo 1)]) (logHolding looseText) = (.ok (), left) ∧
        sample.readChanges left.files = .ok [.add (sampleTodo 1), .remove (sampleTodo 1)] := by
  have read : readLog (String.ofList looseText).toList = .ok [.add (sampleTodo 1)] := by
    have parsed : (readLog looseText).toOption = some [.add (sampleTodo 1)] := by decide +kernel
    rw [String.toList_ofList]
    exact ok_of_toOption parsed
  -- The text ends in the middle of a line that is white space only.
  have space : (Text.openLine looseText).all Json.isSpace = true := by decide +kernel
  obtain ⟨left, done, reads⟩ :=
    readChanges_append (follow?_logHolding looseText) read [.remove (sampleTodo 1)]
  rw [String.toList_ofList, if_pos (.inr space)] at reads
  exact ⟨read, left, done, reads⟩

/-- An entry that is added behind one whose line is not ended makes the log unreadable. -/
theorem append_to_open_entry :
    sample.readChanges (logHolding (Change.add (sampleTodo 1)).line).files =
        .ok [.add (sampleTodo 1)] ∧
      ∃ left,
        perform (sample.append [.add (sampleTodo 2)])
          (logHolding (Change.add (sampleTodo 1)).line) = (.ok (), left) ∧
        sample.readChanges left.files = .error (.corruptTodo "/p/.lint-todo" 1) := by
  have single : Text.lines (Change.add (sampleTodo 1)).line = [(Change.add (sampleTodo 1)).line] := by
    decide +kernel
  have read : readLog (Change.add (sampleTodo 1)).line = .ok [.add (sampleTodo 1)] := by
    rw [readLog, single]
    simp [readLines, Change.line_notBlank, Change.parse?_line]
  have stands := follow?_logHolding (Change.add (sampleTodo 1)).line
  -- The line that is open holds an entry, so that the next one continues it.
  have begun : ¬(Text.openLine (Change.add (sampleTodo 1)).line).all Json.isSpace = true := by
    decide +kernel
  obtain ⟨left, done, follows⟩ :=
    append_to_text stands (List.cons_ne_nil (Change.add (sampleTodo 2)) [])
  refine ⟨?_, left, done, ?_⟩
  · rw [readChanges_of_text stands, String.toList_ofList, read]
  · rw [readChanges_of_text follows, String.toList_append, String.toList_ofList,
      String.toList_ofList, readLog_append_open read, if_neg begun, single]
    rfl

end TodoStore

end TemplateLint
