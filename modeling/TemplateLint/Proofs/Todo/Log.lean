import TemplateLint.Proofs.Calendar.Date
import TemplateLint.Proofs.Json.RoundTrip
import TemplateLint.Proofs.Text.Lines
import TemplateLint.Todo.Log

/-! The log of todos reads back entry by entry, also when entries are added at its end. -/

namespace TemplateLint

namespace Todo

/-- A 64-bit word is printed in a form that reads back. -/
theorem isWord_toNat (word : UInt64) : Json.isWord (word.toNat : Int) = true := by
  have bound := word.toNat_lt
  simp only [Json.isWord, Bool.and_eq_true, decide_eq_true_eq]
  omega

/-- All values of a todo's fields are texts and words. -/
theorem fields_plain (todo : Todo) : Json.arePlainFields todo.fields = true := by
  simp only [fields]
  cases todo.warnDate <;> cases todo.errorDate <;>
    simp [dateField, Json.arePlainFields, Json.isPlain, Json.natural, isWord_toNat]

/-- All values of a todo's fields have a meaning. -/
theorem fields_sound (todo : Todo) (depth : Nat) :
    Json.areSoundFields depth todo.fields = true := by
  simp only [fields]
  cases todo.warnDate <;> cases todo.errorDate <;>
    simp [dateField, Json.areSoundFields, Json.isSound, Json.natural]

/-- A word that was written is the word that is read. -/
theorem word?_natural (word : UInt64) : word? (Json.natural word.toNat).toNode = some word := by
  have bound : word.toNat < UInt64.size := word.toNat_lt
  have node : (Json.natural word.toNat).toNode = .scalar { number := some word.toNat } := rfl
  simp [word?, node, Node.numberBelow?, bound]

/-- A date that was written is the date that is read. -/
theorem date?_render (date : Date) :
    date? (Json.string (.ofList date.render)).toNode = some date := by
  have node : (Json.string (.ofList date.render)).toNode =
      .scalar { text := some (.ofList date.render) } := by
    rw [Json.toNode]
  simp [date?, node, Node.text?, Date.parse?_render]

/-- What the fields of a todo offer under the name of a date that may be absent. -/
def dateSlot : Option Date → Slot
  | some date => .given (Json.string (.ofList date.render)).toNode
  | none => .unnamed

/-- A date that is set, or none, is what is read. -/
theorem defaulted?_dateSlot (date : Option Date) :
    (dateSlot date).defaulted? dateOrNone? none = some date := by
  cases date with
  | none => rfl
  | some date =>
    have read := date?_render date
    rw [Json.toNode] at read
    simp [dateSlot, Slot.defaulted?, dateOrNone?, Json.toNode, Node.optional?, read]

/-- A todo's fields offer exactly one value for each name, and none for a date that is not set. -/
theorem slots?_toJson (todo : Todo) :
    todo.toJson.toNode.slots? fieldNames = some [
      .given (Json.string todo.engine).toNode,
      .given (Json.string todo.rule).toNode,
      .given (Json.string todo.filePath).toNode,
      .given (Json.natural todo.line.toNat).toNode,
      .given (Json.natural todo.column.toNat).toNode,
      .given (Json.string todo.source).toNode,
      .given (Json.string (.ofList todo.createdDate.render)).toNode,
      dateSlot todo.warnDate,
      dateSlot todo.errorDate] := by
  -- Which fields there are depends on the two dates alone.
  simp only [toJson, fields]
  cases todo.warnDate <;> cases todo.errorDate <;>
    simp [dateField, dateSlot, Json.toNode, Json.toEntries, Node.slots?, fieldNames,
      Node.slotNamed?, List.mapM_cons]

/-- A todo is read from the document that was written of it. -/
theorem ofNode?_toJson (todo : Todo) : ofNode? todo.toJson.toNode = some todo := by
  have text (value : String) : (Json.string value).toNode.text? = some value := by
    simp [Json.toNode, Node.text?]
  simp only [ofNode?, slots?_toJson, Slot.required?, text, word?_natural, date?_render,
    defaulted?_dateSlot, Option.bind_eq_bind, Option.bind_some]

namespace Change

/-- The word of an entry names its kind. -/
theorem ofWord?_word (change : Change) : ofWord? change.word change.todo = some change := by
  cases change <;> simp [ofWord?, word, todo]

/-- No field of a todo has the name of the kind. -/
theorem filter_fields_op (todo : Todo) :
    todo.fields.filter (·.1 = "op") = [] ∧ todo.fields.filter (·.1 ≠ "op") = todo.fields := by
  simp only [fields]
  cases todo.warnDate <;> cases todo.errorDate <;> simp [dateField]

/-- An entry is read from the value that was written of it. -/
theorem ofJson?_toJson (change : Change) : ofJson? change.toJson = some change := by
  obtain ⟨noKind, others⟩ := filter_fields_op change.todo
  -- An entry is shallow, so it is nowhere near the limit of depth.
  have sound : (Json.object (("op", .string change.word) :: change.todo.fields)).isSound
      Json.depthLimit = true := by
    simp [Json.depthLimit, Json.isSound, Json.areSoundFields, fields_sound]
  -- The kind of an entry stands apart from the fields of its todo.
  have kind : (("op", Json.string change.word) :: change.todo.fields).filter (·.1 = "op") =
      [("op", .string change.word)] := by
    rw [List.filter_cons_of_pos (by simp), noKind]
  have rest : (("op", Json.string change.word) :: change.todo.fields).filter (·.1 ≠ "op") =
      change.todo.fields := by
    rw [List.filter_cons_of_neg (by simp), others]
  have read := ofNode?_toJson change.todo
  rw [Todo.toJson] at read
  simp only [ofJson?, toJson, sound, if_true, kind, rest, read, Option.bind_some, ofWord?_word]

/-- The value that is written of an entry is plain. -/
theorem toJson_plain (change : Change) : change.toJson.isPlain = true := by
  simp [toJson, Json.isPlain, Json.arePlainFields, fields_plain]

/-- An entry reads back from its line. -/
theorem parse?_line (change : Change) : parse? change.line = some change := by
  simp only [parse?, line, Json.parse?_compact change.toJson_plain, Option.bind_some,
    ofJson?_toJson]

/-- The line of an entry has no line end in it. -/
theorem line_oneLine (change : Change) : ∀ c ∈ change.line, c ≠ '\n' ∧ c ≠ '\r' := by
  intro c member
  have printable := Json.compact_printable change.toJson change.toJson_plain c member
  constructor
  · intro same; subst same; exact printable (by decide)
  · intro same; subst same; exact printable (by decide)

/-- The line of an entry ends with the brace that closes it. -/
theorem line_closes (change : Change) : change.line.getLast? = some '\x7d' := by
  simp [line, toJson, Json.compact, List.getLast?_cons]

/-- A line feed after the line of an entry ends that line, whatever stands before the entry. -/
theorem lines_before_line {before : List Char} (whole : '\n' ∉ before) (change : Change)
    (rest : List Char) :
    Text.lines (before ++ change.line ++ '\n' :: rest) =
      (before ++ change.line) :: Text.lines rest := by
  refine Text.lines_line ?_ ?_ rest
  · intro member
    rcases List.mem_append.mp member with inside | inside
    · exact whole inside
    · exact (change.line_oneLine _ inside).1 rfl
  · -- The last character is that of the entry, and an entry has no carriage return.
    intro last
    rw [List.getLast?_append, change.line_closes, Option.some_or] at last
    simp at last

/-- The line of an entry is not blank. -/
theorem line_notBlank (change : Change) : change.line.all isBlank = false := by
  simp [line, toJson, Json.compact, isBlank]

end Change

/-- A log is empty or ends with a line end. -/
theorem renderLog_closed (changes : List Change) : Text.IsClosed (renderLog changes) := by
  induction changes with
  | nil => exact .inl rfl
  | cons change later ih =>
    have first : Text.IsClosed (change.line ++ ['\n']) := .inr (by simp)
    simpa only [renderLog, List.flatMap_cons] using Text.isClosed_append first ih

/-- A log has one line for each of its entries. -/
theorem lines_renderLog (changes : List Change) :
    Text.lines (renderLog changes) = changes.map Change.line := by
  induction changes with
  | nil => rfl
  | cons change later ih =>
    -- An entry has no line end of its own, so it takes one line of the log.
    have split : renderLog (change :: later) = [] ++ change.line ++ '\n' :: renderLog later := by
      simp [renderLog]
    rw [split, change.lines_before_line (by simp), ih, List.nil_append, List.map_cons]

/-- The lines of a log read back as its entries, whatever number they are counted from. -/
theorem readLines_renderLog (changes : List Change) (number : Nat) :
    readLines number (Text.lines (renderLog changes)) = .ok changes := by
  rw [lines_renderLog]
  induction changes generalizing number with
  | nil => rfl
  | cons change later ih =>
    simp only [List.map_cons, readLines, change.line_notBlank, Bool.false_eq_true, if_false,
      change.parse?_line, ih]

/-- Lines with others after them read as the entries of the first and then those of the others. -/
theorem readLines_append (lines more : List (List Char)) (number : Nat) :
    readLines number (lines ++ more) =
      match readLines number lines with
      | .error bad => .error bad
      | .ok changes => (readLines (number + lines.length) more).map (changes ++ ·) := by
  -- The induction is on the first lines, and the count goes on after them.
  induction lines generalizing number with
  | nil =>
    simp only [List.nil_append, readLines, List.length_nil, Nat.add_zero]
    cases readLines number more <;> rfl
  | cons line later ih =>
    have count : number + 1 + later.length = number + (line :: later).length := by
      rw [List.length_cons]
      omega
    simp only [List.cons_append, readLines, ih, count]
    -- Blank lines are passed over, and all others must read as entries.
    by_cases blank : line.all isBlank = true
    · simp only [if_pos blank]
    · simp only [if_neg blank]
      cases Change.parse? line with
      | none => rfl
      | some change =>
        cases readLines (number + 1) later with
        | error bad => rfl
        | ok changes => cases readLines (number + (line :: later).length) more <;> rfl

/-- Entries added at the end of a closed log are read after those that it holds. -/
theorem readLog_append {text : List Char} {changes : List Change} (closed : Text.IsClosed text)
    (read : readLog text = .ok changes) (more : List Change) :
    readLog (text ++ renderLog more) = .ok (changes ++ more) := by
  rw [readLog] at read
  rw [readLog, Text.lines_append closed, readLines_append, read]
  simp only [readLines_renderLog, Except.map]

/-- A log reads back as the entries that it was written of. -/
theorem readLog_renderLog (changes : List Change) : readLog (renderLog changes) = .ok changes :=
  readLines_renderLog changes 1

end Todo

end TemplateLint
