import TemplateLint.Proofs.Text.Pieces
import TemplateLint.Report.Pretty

/-!
The report for people, read line by line: what each line says, how it is spelled out, and how the
text of the report is cut into its lines again.
-/

namespace TemplateLint

namespace Report

/-- What one line of a report without colours says. -/
inductive Row where
  | gap
  | heading (path : String)
  | finding (shown : Finding)
  | source (shown : Finding)
  | problems (errors warnings : Nat)
  | hint (errors warnings : Nat)
  | todos (count : Nat)
  | changes (added removed : Nat)
  | tooMany (limit : Nat)
  deriving DecidableEq

/-- The mark and the word that a line shows for a severity, the word filled up to seven letters. -/
def severityText : Severity → String
  | .error => "✖ error  "
  | .warning => "▲ warning"
  | .todo => "◆ todo   "

/-- The line of a finding: where it is, how much it weighs, what it says and which rule says it. -/
def findingText (shown : Finding) : String :=
  "  " ++ toString shown.line.toNat ++ ":" ++ toString shown.column.toNat ++ "  " ++
    severityText shown.severity ++ "  " ++ shown.message ++ "  ❲" ++ shown.rule ++ "❳"

/-- The line below a finding that quotes its source. -/
def sourceText (shown : Finding) : String :=
  "      " ++ shown.source

/-- The line that counts problems: all of them, and how many are errors and how many warnings. -/
def problemText (errors warnings : Nat) : String :=
  "✖ " ++ toString (errors + warnings) ++
    (if errors + warnings = 1 then " problem" else " problems") ++
    " (" ++ toString errors ++ (if errors = 1 then " error" else " errors") ++
    ", " ++ toString warnings ++ (if warnings = 1 then " warning" else " warnings") ++ ")"

/-- The line that counts problems that could be fixed. -/
def hintText (errors warnings : Nat) : String :=
  "  " ++ toString errors ++ (if errors = 1 then " error" else " errors") ++
    " and " ++ toString warnings ++ (if warnings = 1 then " warning" else " warnings") ++
    " potentially fixable with the `--fix` option."

/-- The line that counts todos which are not shown. -/
def todoText (count : Nat) : String :=
  "◆ " ++ toString count ++ (if count = 1 then " todo" else " todos") ++
    " (run with --include-todo to show them)"

/-- The line that counts todos made and dropped. -/
def changeText (added removed : Nat) : String :=
  "✔ " ++ toString added ++ (if added = 1 then " todo" else " todos") ++ " created, " ++
    toString removed ++ (if removed = 1 then " todo" else " todos") ++ " removed"

/-- The line about too many warnings. -/
def thresholdText (limit : Nat) : String :=
  "tmplint found too many warnings (maximum: " ++ toString limit ++ ")."

namespace Row

/-- The line itself. -/
def text : Row → String
  | .gap => ""
  | .heading path => path
  | .finding shown => findingText shown
  | .source shown => sourceText shown
  | .problems errors warnings => problemText errors warnings
  | .hint errors warnings => hintText errors warnings
  | .todos count => todoText count
  | .changes added removed => changeText added removed
  | .tooMany limit => thresholdText limit

/-- The file that the line names, if it is a heading. -/
def heading? : Row → Option String
  | .heading path => some path
  | _ => none

/-- The finding that the line shows. -/
def finding? : Row → Option Finding
  | .finding shown => some shown
  | _ => none

/-- The errors and warnings that the line counts. -/
def problems? : Row → Option (Nat × Nat)
  | .problems errors warnings => some (errors, warnings)
  | _ => none

/-- The todos that the line counts. -/
def todos? : Row → Option Nat
  | .todos count => some count
  | _ => none

end Row

/-- The findings that lines show, each with the file that the last heading above it names. -/
def underHeadings : Option String → List Row → List (Option String × Finding)
  | _, [] => []
  | _, .heading path :: later => underHeadings (some path) later
  | current, .finding shown :: later => (current, shown) :: underHeadings current later
  | current, _ :: later => underHeadings current later

/-- What opens the lines of a finding: the name of its file, unless the heading before is of it. -/
def openingRows : Option String → Finding → List Row
  | none, finding => [.heading finding.filePath]
  | some path, finding =>
    if path = finding.filePath then [] else [.gap, .heading finding.filePath]

/-- What the line says that quotes the source of a finding. -/
def sourceRows (verbose : Bool) (finding : Finding) : List Row :=
  if verbose then [.source finding] else []

/-- What the lines about findings say. -/
def findingRows (verbose : Bool) : Option String → List Finding → List Row
  | _, [] => []
  | current, finding :: later =>
    openingRows current finding ++ .finding finding :: (sourceRows verbose finding ++
      findingRows verbose (some finding.filePath) later)

/-- The number of warnings that are shown: quiet runs show none. -/
def shownWarnings (options : ReportOptions) (summary : Summary) : Nat :=
  if options.quiet then 0 else summary.warnings

/-- What the line says that counts problems that could be fixed. -/
def hintRows (options : ReportOptions) (summary : Summary) (facts : RunFacts) : List Row :=
  let warnings := if options.quiet then 0 else summary.fixableWarnings
  if 0 < summary.fixableErrors + warnings && !facts.fix then
    [.hint summary.fixableErrors warnings]
  else []

/-- What the lines that count problems say. -/
def problemRows (options : ReportOptions) (summary : Summary) (facts : RunFacts) : List Row :=
  if 0 < summary.errors + shownWarnings options summary then
    .gap :: .problems summary.errors (shownWarnings options summary) ::
      hintRows options summary facts
  else []

/-- What the line says that counts todos which are not shown. -/
def todoRows (options : ReportOptions) (summary : Summary) : List Row :=
  if 0 < summary.todos && !options.includeTodo then [.todos summary.todos] else []

/-- What the line says that counts todos made and dropped. -/
def changeRows (facts : RunFacts) : List Row :=
  match facts.todoChanges with
  | some (added, removed) => [.changes added removed]
  | none => []

/-- What the line says about too many warnings. -/
def thresholdRows (options : ReportOptions) (summary : Summary) (facts : RunFacts) : List Row :=
  match facts.maxWarnings with
  | some limit => if summary.exceeds options.quiet (some limit) then [.tooMany limit] else []
  | none => []

/-- What the lines about counts say. -/
def countRows (options : ReportOptions) (summary : Summary) (facts : RunFacts) : List Row :=
  problemRows options summary facts ++ todoRows options summary ++ changeRows facts ++
    thresholdRows options summary facts

/-- What the lines of a report say. -/
def rowsOf (options : ReportOptions) (results : Results) (facts : RunFacts) : List Row :=
  findingRows options.verbose none (options.visible results) ++
    countRows options results.summary facts

/-- A count with its noun is the number, and the noun behind it in the singular for one alone. -/
theorem counted_eq {noun one many : String} (single : " " ++ noun = one)
    (several : one ++ "s" = many) (count : Nat) :
    counted count noun = toString count ++ if count = 1 then one else many := by
  -- The plural is the singular with a letter behind it, and a blank stands before either.
  unfold counted plural
  split
  · rw [String.append_assoc, single]
  · rw [String.append_assoc, ← @String.append_assoc " ", single, several]

/-- A count of errors. -/
theorem counted_error (count : Nat) :
    counted count "error" = toString count ++ if count = 1 then " error" else " errors" :=
  counted_eq (by decide) (by decide) count

/-- A count of warnings. -/
theorem counted_warning (count : Nat) :
    counted count "warning" = toString count ++ if count = 1 then " warning" else " warnings" :=
  counted_eq (by decide) (by decide) count

/-- A count of todos. -/
theorem counted_todo (count : Nat) :
    counted count "todo" = toString count ++ if count = 1 then " todo" else " todos" :=
  counted_eq (by decide) (by decide) count

/-- The line of a finding without colours. -/
theorem findingLine_eq (shown : Finding) : findingLine false shown = findingText shown := by
  -- The tag of a severity is its mark and word, whatever its colour.
  have tag : (severityTag shown.severity).1 = severityText shown.severity := by
    cases shown.severity <;> rfl
  simp only [findingLine, Style.paint, Bool.false_eq_true, if_false, tag, findingText,
    String.append_assoc]

/-- The line that counts problems is written with three counts. -/
theorem problemText_eq (errors warnings : Nat) :
    "✖ " ++ counted (errors + warnings) "problem" ++ " (" ++ counted errors "error" ++ ", " ++
      counted warnings "warning" ++ ")" = problemText errors warnings := by
  have problem (count : Nat) : counted count "problem" =
      toString count ++ if count = 1 then " problem" else " problems" :=
    counted_eq (by decide) (by decide) count
  -- Put together from left to right or from right to left, the text is the same.
  simp only [problem, counted_error, counted_warning, problemText, String.append_assoc]

/-- The line that counts problems that could be fixed is written with two counts. -/
theorem hintText_eq (errors warnings : Nat) :
    "  " ++ counted errors "error" ++ " and " ++ counted warnings "warning" ++
      " potentially fixable with the `--fix` option." = hintText errors warnings := by
  simp only [counted_error, counted_warning, hintText, String.append_assoc]

/-- The lines about findings say what they are made of. -/
theorem findingLines_eq (verbose : Bool) (current : Option String) (findings : List Finding) :
    findingLines false verbose current findings =
      (findingRows verbose current findings).map Row.text := by
  induction findings generalizing current with
  | nil => simp [findingLines, findingRows]
  | cons finding later ih =>
    have source : (if verbose then ["      " ++ finding.source] else []) =
        (sourceRows verbose finding).map Row.text := by
      cases verbose <;> simp [sourceRows, Row.text, sourceText]
    simp only [findingLines, findingRows, ih, source, findingLine_eq, List.map_append,
      List.map_cons]
    -- What opens the lines of a finding depends on the heading before.
    cases current with
    | none => simp [openingRows, Row.text, Style.paint]
    | some path =>
      by_cases same : path = finding.filePath <;>
        simp [openingRows, same, Row.text, Style.paint]

section CountLines

variable (options : ReportOptions) (summary : Summary) (facts : RunFacts)

/-- The lines that count problems say what they are made of. -/
theorem problemLines_eq :
    problemLines false options summary facts =
      (problemRows options summary facts).map Row.text := by
  unfold problemLines problemRows hintRows shownWarnings
  simp only [problemText_eq, hintText_eq]
  -- Lines and rows are made by the same two questions.
  by_cases some : 0 < summary.errors + (if options.quiet = true then 0 else summary.warnings)
  · rw [if_pos some, if_pos some]
    by_cases fixable : (0 < summary.fixableErrors +
        (if options.quiet = true then 0 else summary.fixableWarnings) && !facts.fix) = true
    · rw [if_pos fixable, if_pos fixable]
      rfl
    · rw [if_neg fixable, if_neg fixable]
      rfl
  · rw [if_neg some, if_neg some, List.map_nil]

/-- The line that counts todos says what it is made of. -/
theorem todoLines_eq :
    todoLines false options summary = (todoRows options summary).map Row.text := by
  simp only [todoLines, todoRows, counted_todo]
  split
  · -- Without colours a text is painted as it stands.
    simp only [List.map_cons, List.map_nil, Row.text, todoText, Style.paint, Bool.false_eq_true,
      if_false, String.append_assoc]
  · rfl

/-- The line that counts todos made and dropped says what it is made of. -/
theorem changeLines_eq : changeLines false facts = (changeRows facts).map Row.text := by
  unfold changeLines changeRows
  cases facts.todoChanges with
  | none => rfl
  | some counts =>
    -- Made and dropped todos are counted in one text, which is not painted.
    simp only [counted_todo, List.map_cons, List.map_nil, Row.text, changeText, Style.paint,
      Bool.false_eq_true, if_false, String.append_assoc]

/-- The line about too many warnings says what it is made of. -/
theorem thresholdLines_eq : thresholdLines false options summary facts =
    (thresholdRows options summary facts).map Row.text := by
  unfold thresholdLines thresholdRows
  cases facts.maxWarnings with
  | none => rfl
  | some limit =>
    simp only
    split <;> rfl

end CountLines

/-- The lines of a report without colours are what its rows say. -/
theorem prettyLines_eq {options : ReportOptions} (uncoloured : usesColours options = false)
    (results : Results) (facts : RunFacts) :
    prettyLines options results facts = (rowsOf options results facts).map Row.text := by
  simp only [rowsOf, countRows, List.map_append, ← findingLines_eq, ← problemLines_eq,
    ← todoLines_eq, ← changeLines_eq, ← thresholdLines_eq, prettyLines, uncoloured,
    List.append_assoc]

/-- A text goes on one line. -/
def IsLine (text : String) : Prop :=
  '\n' ∉ text.toList

instance (text : String) : Decidable (IsLine text) :=
  inferInstanceAs (Decidable ('\n' ∉ text.toList))

/-- Texts put together go on one line if each of them does. -/
theorem isLine_append {first second : String} :
    IsLine (first ++ second) ↔ IsLine first ∧ IsLine second := by
  simp [IsLine, String.toList_append]

/-- A number goes on one line. -/
theorem isLine_toString (number : Nat) : IsLine (toString number) := by
  -- A number is written in digits, and a newline is none.
  intro newline
  have digit := Nat.isDigit_of_mem_toDigits (by decide) (by decide) (Nat.toList_repr ▸ newline)
  exact absurd digit (by decide)

/-- One of two texts goes on one line if both do. -/
theorem isLine_ite {condition : Prop} [Decidable condition] {first second : String}
    (line : IsLine first) (other : IsLine second) :
    IsLine (if condition then first else second) := by
  split
  · exact line
  · exact other

/-- The texts of a finding go on one line each. -/
structure IsPlain (finding : Finding) : Prop where
  rule : IsLine finding.rule
  filePath : IsLine finding.filePath
  source : IsLine finding.source
  message : IsLine finding.message

/-- The finding that a line is about, or whose file it names, is plain. -/
def Row.IsPlain : Row → Prop
  | .heading path => IsLine path
  | .finding shown => Report.IsPlain shown
  | .source shown => Report.IsPlain shown
  | _ => True

/-- A line about plain findings is one line. -/
theorem Row.isLine_text {row : Row} (plain : row.IsPlain) : IsLine row.text := by
  -- A line is made of fixed texts, numbers with nouns behind them, and texts of a finding.
  have error (count : Nat) : IsLine (if count = 1 then " error" else " errors") :=
    isLine_ite (by decide) (by decide)
  have warning (count : Nat) : IsLine (if count = 1 then " warning" else " warnings") :=
    isLine_ite (by decide) (by decide)
  have problem (count : Nat) : IsLine (if count = 1 then " problem" else " problems") :=
    isLine_ite (by decide) (by decide)
  have todo (count : Nat) : IsLine (if count = 1 then " todo" else " todos") :=
    isLine_ite (by decide) (by decide)
  cases row with
  | gap => decide
  | heading path => exact plain
  | finding shown =>
    have mark : IsLine (severityText shown.severity) := by cases shown.severity <;> decide
    simp only [text, findingText, isLine_append, isLine_toString shown.line.toNat,
      isLine_toString shown.column.toNat, mark, plain.message, plain.rule, and_true]
    decide +kernel
  | source shown =>
    rw [text, sourceText, isLine_append]
    exact ⟨by decide, plain.source⟩
  | problems errors warnings =>
    simp only [text, problemText, isLine_append, isLine_toString, error, warning, problem,
      and_true]
    decide +kernel
  | hint errors warnings =>
    simp only [text, hintText, isLine_append, isLine_toString, error, warning, and_true]
    decide +kernel
  | todos count =>
    simp only [text, todoText, isLine_append, isLine_toString, todo, and_true]
    decide +kernel
  | changes added removed =>
    simp only [text, changeText, isLine_append, isLine_toString, todo, and_true]
    decide +kernel
  | tooMany limit =>
    have opening : IsLine ("tmplint found too many warnings (maximum: " ++ toString limit) :=
      isLine_append.mpr ⟨by decide +kernel, isLine_toString limit⟩
    exact isLine_append.mpr ⟨opening, by decide +kernel⟩

/-- The lines of a report; one that is empty has none. -/
def reportLines (report : String) : List String :=
  if report.isEmpty then [] else (Text.splitOn '\n' report.toList).map String.ofList

/-- Lines that are put together, the last of them not empty, are the lines of the report. -/
theorem reportLines_joined {lines : List String} (each : ∀ line ∈ lines, IsLine line)
    (full : ∀ line ∈ lines.getLast?, line ≠ "") :
    reportLines (.ofList (Text.dropEndWhile (· = '\n')
      (String.intercalate "\n" lines).toList)) = lines := by
  have joined : (String.intercalate "\n" lines).toList =
      Text.joinWith ['\n'] (lines.map String.toList) := by
    rw [String.toList_intercalate, Text.joinWith_eq_intercalate]
    rfl
  rw [joined]
  by_cases none : lines = []
  · subst none
    rfl
  · have pieces : lines.map String.toList ≠ [] := by simpa using none
    obtain ⟨last, ends⟩ : ∃ last, lines.getLast? = some last := by
      cases ends : lines.getLast? with
      | none => exact absurd (List.getLast?_eq_none_iff.mp ends) none
      | some last => exact ⟨last, rfl⟩
    have own := full last ends
    have line := each last (List.mem_of_getLast? ends)
    have lastCharacter : (Text.joinWith ['\n'] (lines.map String.toList)).getLast? =
        last.toList.getLast? :=
      Text.getLast?_joinWith (by rw [List.getLast?_map, ends]; rfl) (by simpa using own)
    -- The last character is one of the last line, so no newline is dropped.
    have kept : Text.dropEndWhile (· = '\n') (Text.joinWith ['\n'] (lines.map String.toList)) =
        Text.joinWith ['\n'] (lines.map String.toList) := by
      refine Text.dropEndWhile_of_stays fun c member => ?_
      rw [lastCharacter] at member
      have other : c ≠ '\n' := fun same => line (same ▸ List.mem_of_getLast? member)
      simpa using other
    -- The text is not empty, for its last line is not.
    have some : (String.ofList (Text.joinWith ['\n'] (lines.map String.toList))).isEmpty =
        false := by
      refine Bool.eq_false_iff.mpr fun empty => own ?_
      have nothing : Text.joinWith ['\n'] (lines.map String.toList) = [] := by
        simpa using String.isEmpty_iff.mp empty
      rw [nothing] at lastCharacter
      simpa using lastCharacter.symm
    rw [kept, reportLines, if_neg (by simp [some]), String.toList_ofList,
      Text.splitOn_joinWith pieces (by simpa [IsLine] using each), List.map_map]
    simp

/-- Only a gap or a heading can be an empty line. -/
theorem Row.text_ne_empty {row : Row} (gap : row ≠ .gap) (heading : row.heading? = none) :
    row.text ≠ "" := by
  -- Each line but these starts with a fixed text.
  cases row with
  | gap => exact absurd rfl gap
  | heading path => cases heading
  | finding shown => simp [text, findingText]
  | source shown => simp [text, sourceText]
  | problems errors warnings => simp [text, problemText]
  | hint errors warnings => simp [text, hintText]
  | todos count => simp [text, todoText]
  | changes added removed => simp [text, changeText]
  | tooMany limit =>
    rw [text]
    unfold thresholdText
    simp

/-- The last line, if there is one, is not empty. -/
def EndsFull (rows : List Row) : Prop :=
  ∀ row ∈ rows.getLast?, row.text ≠ ""

/-- Lines that are neither gaps nor headings are not empty. -/
theorem endsFull_of_forall {rows : List Row}
    (each : ∀ row ∈ rows, row ≠ .gap ∧ row.heading? = none) : EndsFull rows := by
  intro row last
  obtain ⟨gap, heading⟩ := each row (List.mem_of_getLast? last)
  exact Row.text_ne_empty gap heading

/-- Lines after others end with one that is not empty if both do. -/
theorem EndsFull.append {rows more : List Row} (full : EndsFull rows) (fuller : EndsFull more) :
    EndsFull (rows ++ more) := by
  intro row last
  rw [List.getLast?_append, Option.mem_def, Option.or_eq_some_iff] at last
  rcases last with own | ⟨_, before⟩
  · exact fuller row own
  · exact full row before

end Report

end TemplateLint
